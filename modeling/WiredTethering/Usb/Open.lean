import Mathlib.Tactic.Abel
import WiredTethering.Resource.Ledger
import WiredTethering.Usb.Control
import WiredTethering.Usb.Pipes
import WiredTethering.Usb.Registry

/-!
# Opening and closing the phone

`at_usb_open` finds the phone in the registry, opens its control and its data interface and
finds their pipes; every way out of it behind the allocation of the handle goes through
`at_usb_close`.  What IOKit answers is given by `OpenCalls`.  The programs run on a ledger of
the IOKit objects, so that one that is released twice, or used behind its release, stops them.
-/

namespace WiredTethering.Usb.IOKit

open WiredTethering.Resource
open WiredTethering.Status
open WiredTethering.Usb

inductive Kind
  | memory
  | mutex
  | thread
  | descriptor
  | iterator
  | service
  | plugIn
  | object
  | session
  | source
  | port
  | interest
deriving DecidableEq, Repr

/-- Whether `IOCreatePlugInInterfaceForService` and `QueryInterface` succeed. -/
structure PlugIn where
  created : Bool
  queried : Bool
deriving DecidableEq, Repr

def PlugIn.works (plugIn : PlugIn) : Bool :=
  plugIn.created && plugIn.queried

/-- What IOKit answers for an interface of the device. -/
structure InterfaceCalls where
  plugIn : PlugIn
  /-- Zero where `GetInterfaceNumber` fails. -/
  num : UInt8
  seize : Bool
  opens : Bool
  endpoints : Endpoints
  /-- Its pipes behind `SetAlternateInterface`. -/
  alternate : Endpoints

structure OpenCalls where
  /-- The devices that the iterator gives, if there is one. -/
  registry : Option (List UsbService)
  /-- The device that was found, when it is read again. -/
  live : UsbService → UsbService
  memory : Bool
  plugIn : PlugIn
  /-- The interfaces that the iterator gives when the control interface is opened. -/
  control : Option (List InterfaceCalls)
  data : Option (List InterfaceCalls)
  speed : Option UInt8

/-! ## The handle -/

/-- An interface that is open. -/
structure OpenInterface where
  object : Token Kind
  session : Token Kind
  calls : InterfaceCalls

/-- `struct at_usb_rndis`; what the control channel uses is in `rndis`. -/
structure AtUsbRndis where
  memory : Token Kind
  mu : Token Kind
  deviceService : Token Kind
  dev : Option (Token Kind)
  controlIfc : Option OpenInterface
  dataIfc : Option OpenInterface
  notifyPort : Option (Token Kind)
  interest : Option (Token Kind)
  asyncSrc : Option (Token Kind)
  /-- Whether `async_rl` is set. -/
  asyncRl : Bool
  controlNum : UInt8
  dataNum : UInt8
  pipes : Pipes
  busMbps : Nat
  rndis : UsbRndis

/-! ## Closing -/

/-- `detach_unplug_watch`. -/
def detachUnplugWatch (u : AtUsbRndis) : Holding Kind AtUsbRndis := do
  use u.memory
  releaseOption u.interest
  releaseOption u.notifyPort
  pure { u with interest := none, notifyPort := none }

/-- `at_usb_async_detach`. -/
def atUsbAsyncDetach (u : AtUsbRndis) : Holding Kind AtUsbRndis := do
  let u ← detachUnplugWatch u
  releaseOption (if u.asyncRl then u.asyncSrc else none)
  pure { u with asyncSrc := none, asyncRl := false }

/-- `USBInterfaceClose` and `Release` of an interface that is there. -/
def closeInterface : Option OpenInterface → Holding Kind Unit
  | none => pure ()
  | some ifc => do
      use ifc.object
      release ifc.session
      release ifc.object

/-- `at_usb_close`. -/
def atUsbClose (u : AtUsbRndis) : Holding Kind Unit := do
  let u ← atUsbAsyncDetach u
  use u.mu
  closeInterface u.dataIfc
  closeInterface u.controlIfc
  releaseOption u.dev
  release u.deviceService
  release u.mu
  release u.memory

/-! ## The event source -/

/-- What is answered when the event source is made. -/
structure AttachCalls where
  source : Bool
  port : Bool
  interest : Bool
deriving DecidableEq, Repr

/-- `attach_unplug_watch`. -/
def attachUnplugWatch (u : AtUsbRndis) (calls : AttachCalls) : Holding Kind AtUsbRndis :=
  if u.notifyPort.isSome || !u.asyncRl || !calls.port then pure u
  else do
    let port ← acquire .port
    use u.deviceService
    if calls.interest then do
      let interest ← acquire .interest
      pure { u with notifyPort := some port, interest := some interest }
    else detachUnplugWatch { u with notifyPort := some port }

/-- `at_usb_async_attach`, and whether it succeeds. -/
def atUsbAsyncAttach (u : AtUsbRndis) (calls : AttachCalls) : Holding Kind (AtUsbRndis × Bool) :=
  match u.dataIfc.or u.controlIfc with
  | none => pure (u, false)
  | some ifc => do
      use ifc.object
      if calls.source then do
        let source ← acquire .source
        let u ← attachUnplugWatch { u with asyncSrc := some source, asyncRl := true } calls
        pure (u, true)
      else pure (u, false)

/-! ## Opening -/

/-- The loop of `find_service`. -/
def findFrom (want : AtUsbDeviceInfo) (iterator : Token Kind) :
    List UsbService → Holding Kind (Option (Token Kind × UsbService))
  | [] => do
      use iterator
      pure none
  | device :: rest => do
      use iterator
      let svc ← acquire .service
      if namesDevice want (fillDeviceInfo device) then pure (some (svc, device))
      else do
        release svc
        findFrom want iterator rest

/-- `find_service`. -/
def findService (want : AtUsbDeviceInfo) (registry : Option (List UsbService)) :
    Holding Kind (Option (Token Kind × UsbService)) :=
  match registry with
  | none => pure none
  | some devices => do
      let iterator ← acquire .iterator
      let found ← findFrom want iterator devices
      release iterator
      pure found

/-- `plugin_device` and `plugin_interface`. -/
def plugInObject (svc : Token Kind) (plugIn : PlugIn) : Holding Kind (Option (Token Kind)) := do
  use svc
  if plugIn.created then do
    let plug ← acquire .plugIn
    if plugIn.queried then do
      let object ← acquire .object
      release plug
      pure (some object)
    else do
      release plug
      pure none
  else pure none

/-- The loop of `open_one_interface`. -/
def openFrom (wantNum : UInt8) (iterator : Token Kind) :
    List InterfaceCalls → Holding Kind (Option OpenInterface)
  | [] => do
      use iterator
      pure none
  | calls :: rest => do
      use iterator
      let svc ← acquire .service
      match ← plugInObject svc calls.plugIn with
      | none => do
          release svc
          openFrom wantNum iterator rest
      | some object =>
          if calls.num = wantNum ∧ (calls.seize ∨ calls.opens) then do
            let session ← acquire .session
            release svc
            pure (some ⟨object, session, calls⟩)
          else do
            release object
            release svc
            openFrom wantNum iterator rest

/-- `open_one_interface`. -/
def openOneInterface (dev : Token Kind) (wantNum : UInt8)
    (interfaces : Option (List InterfaceCalls)) : Holding Kind (Option OpenInterface) := do
  use dev
  match interfaces with
  | none => pure none
  | some interfaces => do
      let iterator ← acquire .iterator
      let found ← openFrom wantNum iterator interfaces
      release iterator
      pure found

/-- The pipes of the data interface, which is set to its alternate setting when it has none. -/
def InterfaceCalls.dataEndpoints (calls : InterfaceCalls) : Endpoints :=
  if calls.endpoints.count.getD 0 = 0 then calls.alternate else calls.endpoints

/-- The speed of the bus in Mbps; what it was before where `GetDeviceSpeed` fails. -/
def busSpeed : Option UInt8 → Nat
  | none => 480
  | some sp =>
      if sp = 0 then 2
      else if sp = 1 then 12
      else if sp = 2 then 480
      else if sp = 3 then 5000
      else 10000

/-- A failure of `at_usb_open` that has a handle. -/
def failOpen (u : AtUsbRndis) : Holding Kind (Option AtUsbRndis) := do
  atUsbClose u
  pure none

/-- `classify_pipes` for the data interface, if it is open. -/
def classifyData (fuel : Nat) (pipes : Pipes) : Option OpenInterface → Option Pipes
  | none => some pipes
  | some data => classifyPipes fuel data.calls.dataEndpoints pipes

/-- `at_usb_open` behind the two interfaces. -/
def openPipes (fuel : Nat) (u : AtUsbRndis) (control : OpenInterface) (speed : Option UInt8) :
    Holding Kind (Option AtUsbRndis) := do
  let kept ← demand (classifyData fuel u.pipes u.dataIfc)
  let pipes ← demand (classifyPipes fuel control.calls.endpoints kept)
  if pipes.bulkIn = 0 ∨ pipes.bulkOut = 0 then failOpen { u with pipes := pipes }
  else
    pure (some { u with
      pipes := pipes, busMbps := busSpeed speed, rndis := { u.rndis with opened := true } })

/-- The number of the data interface: the one behind the control interface where the registry
gives both one number. -/
def dataNumber (live : AtUsbDeviceInfo) : UInt8 :=
  if live.dataIfc = live.controlIfc then live.controlIfc + 1 else live.dataIfc

/-- `at_usb_open` behind the device; `live` is what was read of it again. -/
def openInterfaces (fuel : Nat) (u : AtUsbRndis) (dev : Token Kind) (live : AtUsbDeviceInfo)
    (calls : OpenCalls) : Holding Kind (Option AtUsbRndis) := do
  use dev
  if live.kind ≠ .rndis then failOpen u
  else do
    let u := { u with controlNum := live.controlIfc, dataNum := dataNumber live }
    match ← openOneInterface dev u.controlNum calls.control with
    | none => failOpen u
    | some control => do
        let data ← openOneInterface dev u.dataNum calls.data
        openPipes fuel { u with controlIfc := some control, dataIfc := data } control calls.speed

/-- The handle that `at_usb_open` allocates. -/
def newHandle (memory mu svc : Token Kind) : AtUsbRndis where
  memory := memory
  mu := mu
  deviceService := svc
  dev := none
  controlIfc := none
  dataIfc := none
  notifyPort := none
  interest := none
  asyncSrc := none
  asyncRl := false
  controlNum := 0
  dataNum := 0
  pipes := .none
  busMbps := 480
  rndis := { Usb.atUsbOpen with opened := false }

/-- `at_usb_open`. -/
def atUsbOpen (fuel : Nat) (want : AtUsbDeviceInfo) (calls : OpenCalls) :
    Holding Kind (Option AtUsbRndis) := do
  match ← findService want calls.registry with
  | none => pure none
  | some (svc, device) => do
      use svc
      if calls.memory then do
        let memory ← acquire .memory
        let mu ← acquire .mutex
        let u := newHandle memory mu svc
        match ← plugInObject svc calls.plugIn with
        | none => failOpen u
        | some dev =>
            openInterfaces fuel { u with dev := some dev } dev
              (fillDeviceInfo (calls.live device)) calls
      else do
        release svc
        pure none

/-! ## What a handle holds -/

def OpenInterface.owned (ifc : OpenInterface) : Multiset (Token Kind) :=
  {ifc.object} + {ifc.session}

def interfaceOwned : Option OpenInterface → Multiset (Token Kind)
  | none => 0
  | some ifc => ifc.owned

/-- The objects that a handle refers to. -/
def AtUsbRndis.owned (u : AtUsbRndis) : Multiset (Token Kind) :=
  {u.memory} + ({u.mu} + ({u.deviceService} + (ofOption u.dev + (interfaceOwned u.controlIfc +
    (interfaceOwned u.dataIfc + (ofOption u.notifyPort + (ofOption u.interest +
      ofOption u.asyncSrc)))))))

/-- The event source is on the run loop of the handle. -/
def AtUsbRndis.Attached (u : AtUsbRndis) : Prop :=
  u.asyncSrc.isSome → u.asyncRl = true

section Owned

variable (u : AtUsbRndis)

theorem mem_owned_memory : u.memory ∈ u.owned := by
  simp [AtUsbRndis.owned]

theorem mem_owned_mu : u.mu ∈ u.owned := by
  simp [AtUsbRndis.owned]

theorem mem_owned_deviceService : u.deviceService ∈ u.owned := by
  simp [AtUsbRndis.owned]

theorem mem_owned_object {ifc : OpenInterface} (there : u.dataIfc.or u.controlIfc = some ifc) :
    ifc.object ∈ u.owned := by
  have member : ifc.object ∈ interfaceOwned (some ifc) := by simp [interfaceOwned, OpenInterface.owned]
  rcases Option.or_eq_some_iff.mp there with data | ⟨-, control⟩
  · simp only [AtUsbRndis.owned, Multiset.mem_add, data, member, true_or, or_true]
  · simp only [AtUsbRndis.owned, Multiset.mem_add, control, member, true_or, or_true]

theorem owned_dev : u.owned = ofOption u.dev + { u with dev := none }.owned := by
  simp only [AtUsbRndis.owned, ofOption_none]
  abel

theorem owned_controlIfc :
    u.owned = interfaceOwned u.controlIfc + { u with controlIfc := none }.owned := by
  simp only [AtUsbRndis.owned, interfaceOwned]
  abel

theorem owned_dataIfc : u.owned = interfaceOwned u.dataIfc + { u with dataIfc := none }.owned := by
  simp only [AtUsbRndis.owned, interfaceOwned]
  abel

theorem owned_notifyPort : u.owned = ofOption u.notifyPort + { u with notifyPort := none }.owned := by
  simp only [AtUsbRndis.owned, ofOption_none]
  abel

theorem owned_interest : u.owned = ofOption u.interest + { u with interest := none }.owned := by
  simp only [AtUsbRndis.owned, ofOption_none]
  abel

theorem owned_asyncSrc : u.owned = ofOption u.asyncSrc + { u with asyncSrc := none }.owned := by
  simp only [AtUsbRndis.owned, ofOption_none]
  abel

end Owned

/-! ## Closing releases it -/

theorem detachUnplugWatch_owns (u : AtUsbRndis) :
    Owns u.owned (detachUnplugWatch u) fun v own =>
      v = { u with interest := none, notifyPort := none } ∧ own = v.owned := by
  apply Owns.use_bind (mem_owned_memory u)
  apply Owns.releaseOption_bind (owned_interest u)
  apply Owns.releaseOption_bind (owned_notifyPort { u with interest := none })
  exact Owns.pure ⟨rfl, rfl⟩

theorem atUsbAsyncDetach_owns {u : AtUsbRndis} (attached : u.Attached) :
    Owns u.owned (atUsbAsyncDetach u) fun v own =>
      v = { u with
        interest := none, notifyPort := none, asyncSrc := none, asyncRl := false } ∧
      own = v.owned := by
  apply Owns.bind (detachUnplugWatch_owns u)
  rintro _ _ ⟨rfl, rfl⟩
  have source : (if u.asyncRl then u.asyncSrc else none) = u.asyncSrc := by
    cases asyncSrc : u.asyncSrc with
    | none => exact ite_self none
    | some t => rw [attached (asyncSrc ▸ rfl), if_pos rfl]
  rw [source]
  apply Owns.releaseOption_bind (owned_asyncSrc { u with interest := none, notifyPort := none })
  exact Owns.pure ⟨rfl, rfl⟩

theorem closeInterface_owns (ifc : Option OpenInterface) :
    Owns (interfaceOwned ifc) (closeInterface ifc) fun _ own => own = 0 := by
  cases ifc with
  | none => exact Owns.pure rfl
  | some ifc =>
      apply Owns.use_bind (Multiset.mem_add.mpr (.inl (Multiset.mem_singleton_self ifc.object)))
      apply Owns.release_bind (add_comm {ifc.object} {ifc.session})
      exact Owns.release (add_zero {ifc.object}).symm

theorem atUsbClose_owns {u : AtUsbRndis} (attached : u.Attached) :
    Owns u.owned (atUsbClose u) fun _ own => own = 0 := by
  apply Owns.bind (atUsbAsyncDetach_owns attached)
  rintro v _ ⟨isV, rfl⟩
  apply Owns.use_bind (mem_owned_mu v)
  apply Owns.call (closeInterface_owns v.dataIfc) (owned_dataIfc v)
  rintro _ _ rfl
  rw [zero_add]
  apply Owns.call (closeInterface_owns v.controlIfc) (owned_controlIfc { v with dataIfc := none })
  rintro _ _ rfl
  rw [zero_add]
  apply Owns.releaseOption_bind (owned_dev { v with dataIfc := none, controlIfc := none })
  have rest : { v with dataIfc := none, controlIfc := none, dev := none }.owned =
      {v.deviceService} + ({v.mu} + {v.memory}) := by
    simp only [AtUsbRndis.owned, isV, ofOption_none, interfaceOwned, add_zero]
    abel
  apply Owns.release_bind rest
  apply Owns.release_bind rfl
  exact Owns.release (add_zero {v.memory}).symm

/-! ## Attaching adds to it -/

/-- Nothing of the handle is on a run loop. -/
structure AtUsbRndis.Detached (u : AtUsbRndis) : Prop where
  source : u.asyncSrc = none
  port : u.notifyPort = none
  interest : u.interest = none

theorem AtUsbRndis.Detached.attached {u : AtUsbRndis} (detached : u.Detached) : u.Attached := by
  intro some_
  rw [detached.source] at some_
  cases some_

theorem attachUnplugWatch_owns {u : AtUsbRndis} (calls : AttachCalls) (attached : u.Attached)
    (port : u.notifyPort = none) (interest : u.interest = none) :
    Owns u.owned (attachUnplugWatch u calls) fun v own => own = v.owned ∧ v.Attached := by
  rw [attachUnplugWatch]
  by_cases skipped : (u.notifyPort.isSome || !u.asyncRl || !calls.port) = true
  · rw [if_pos skipped]
    exact Owns.pure ⟨rfl, attached⟩
  · rw [if_neg skipped]
    apply Owns.acquire_bind
    intro t
    have withPort : {t} + u.owned = { u with notifyPort := some t }.owned := by
      rw [owned_notifyPort { u with notifyPort := some t }, ← port]
      rfl
    rw [withPort]
    apply Owns.use_bind (mem_owned_deviceService { u with notifyPort := some t })
    by_cases answered : calls.interest = true
    · rw [if_pos answered]
      apply Owns.acquire_bind
      intro i
      refine Owns.pure ⟨?_, attached⟩
      rw [owned_interest { u with notifyPort := some t, interest := some i }, ← interest]
      rfl
    · rw [if_neg answered]
      apply (detachUnplugWatch_owns _).weaken
      rintro _ _ ⟨rfl, rfl⟩
      exact ⟨rfl, attached⟩

theorem atUsbAsyncAttach_owns {u : AtUsbRndis} (calls : AttachCalls) (detached : u.Detached) :
    Owns u.owned (atUsbAsyncAttach u calls) fun v own =>
      own = v.1.owned ∧ v.1.Attached ∧ (v.2 = false → v.1.Detached) := by
  rw [atUsbAsyncAttach]
  cases there : u.dataIfc.or u.controlIfc with
  | none => exact Owns.pure ⟨rfl, detached.attached, fun _ => detached⟩
  | some ifc =>
      apply Owns.use_bind (mem_owned_object u there)
      by_cases source : calls.source = true
      · rw [if_pos source]
        apply Owns.acquire_bind
        intro t
        have withSource : {t} + u.owned = { u with asyncSrc := some t, asyncRl := true }.owned := by
          rw [owned_asyncSrc { u with asyncSrc := some t, asyncRl := true }, ← detached.source]
          rfl
        rw [withSource]
        have attached : { u with asyncSrc := some t, asyncRl := true }.Attached := fun _ => rfl
        apply Owns.bind (attachUnplugWatch_owns calls attached detached.port detached.interest)
        rintro v _ ⟨rfl, attached⟩
        exact Owns.pure ⟨rfl, attached, fun failed => by cases failed⟩
      · rw [if_neg source]
        exact Owns.pure ⟨rfl, detached.attached, fun _ => detached⟩

/-! ## Opening -/

theorem findFrom_owns (want : AtUsbDeviceInfo) (iterator : Token Kind) (devices : List UsbService) :
    Owns {iterator} (findFrom want iterator devices) fun found own =>
      own = {iterator} + ofOption (found.map Prod.fst) ∧
        found.map Prod.snd = Usb.findService devices want := by
  induction devices with
  | nil =>
      apply Owns.use_bind (Multiset.mem_singleton_self iterator)
      exact Owns.pure ⟨rfl, rfl⟩
  | cons device rest ih =>
      apply Owns.use_bind (Multiset.mem_singleton_self iterator)
      apply Owns.acquire_bind
      intro svc
      cases names : namesDevice want (fillDeviceInfo device) with
      | true =>
          have first : Usb.findService (device :: rest) want = some device :=
            List.find?_cons_of_pos names
          rw [if_pos rfl]
          exact Owns.pure ⟨add_comm _ _, first.symm⟩
      | false =>
          have later : Usb.findService (device :: rest) want = Usb.findService rest want :=
            List.find?_cons_of_neg (ne_true_of_eq_false names)
          rw [if_neg Bool.false_ne_true, later]
          apply Owns.release_bind rfl
          exact ih

theorem findService_owns (want : AtUsbDeviceInfo) (registry : Option (List UsbService)) :
    Owns 0 (findService want registry) fun found own =>
      own = ofOption (found.map Prod.fst) ∧
        found.map Prod.snd = registry.bind fun devices => Usb.findService devices want := by
  cases registry with
  | none => exact Owns.pure ⟨rfl, rfl⟩
  | some devices =>
      apply Owns.acquire_bind
      intro iterator
      rw [add_zero]
      apply Owns.bind (findFrom_owns want iterator devices)
      rintro found _ ⟨rfl, isFound⟩
      apply Owns.release_bind rfl
      exact Owns.pure ⟨rfl, isFound⟩

theorem plugInObject_owns (svc : Token Kind) (plugIn : PlugIn) :
    Owns {svc} (plugInObject svc plugIn) fun object own =>
      own = ofOption object + {svc} ∧ object.isSome = plugIn.works := by
  rcases plugIn with ⟨created, queried⟩
  apply Owns.use_bind (Multiset.mem_singleton_self svc)
  cases created with
  | false => exact Owns.pure ⟨(zero_add _).symm, rfl⟩
  | true =>
      apply Owns.acquire_bind
      intro plug
      cases queried with
      | false =>
          apply Owns.release_bind rfl
          exact Owns.pure ⟨(zero_add _).symm, rfl⟩
      | true =>
          apply Owns.acquire_bind
          intro object
          apply Owns.release_bind (add_left_comm _ _ _)
          exact Owns.pure ⟨rfl, rfl⟩

/-- The interface has the number, and can be opened. -/
def answers (wantNum : UInt8) (calls : InterfaceCalls) : Bool :=
  calls.plugIn.works && (calls.num = wantNum ∧ (calls.seize ∨ calls.opens))

theorem openFrom_owns (wantNum : UInt8) (iterator : Token Kind) (interfaces : List InterfaceCalls) :
    Owns {iterator} (openFrom wantNum iterator interfaces) fun found own =>
      own = {iterator} + interfaceOwned found ∧
        found.map (·.calls) = interfaces.find? (answers wantNum) := by
  induction interfaces with
  | nil =>
      apply Owns.use_bind (Multiset.mem_singleton_self iterator)
      exact Owns.pure ⟨rfl, rfl⟩
  | cons calls rest ih =>
      apply Owns.use_bind (Multiset.mem_singleton_self iterator)
      apply Owns.acquire_bind
      intro svc
      apply Owns.call (plugInObject_owns svc calls.plugIn) rfl
      rintro object _ ⟨rfl, works⟩
      cases object with
      | none =>
          have passed : ¬ answers wantNum calls = true := by
            rw [answers, ← works]
            exact Bool.false_ne_true
          rw [ofOption_none, zero_add, List.find?_cons_of_neg passed]
          apply Owns.release_bind rfl
          exact ih
      | some object =>
          rw [ofOption_some]
          by_cases opened : calls.num = wantNum ∧ (calls.seize ∨ calls.opens)
          · have found : answers wantNum calls = true := by
              rw [answers, ← works]
              simpa using opened
            rw [List.find?_cons_of_pos found]
            dsimp only
            rw [if_pos opened]
            apply Owns.acquire_bind
            intro session
            have left : ({session} : Multiset (Token Kind)) + ({object} + {svc} + {iterator}) =
                {svc} + ({iterator} + ({object} + {session})) := by abel
            apply Owns.release_bind left
            exact Owns.pure ⟨rfl, rfl⟩
          · have passed : ¬ answers wantNum calls = true := by
              rw [answers, ← works]
              simpa using opened
            rw [List.find?_cons_of_neg passed]
            dsimp only
            rw [if_neg opened]
            apply Owns.release_bind (add_assoc _ _ _)
            apply Owns.release_bind rfl
            exact ih

theorem openOneInterface_owns (dev : Token Kind) (wantNum : UInt8)
    (interfaces : Option (List InterfaceCalls)) :
    Owns {dev} (openOneInterface dev wantNum interfaces) fun found own =>
      own = {dev} + interfaceOwned found ∧
        found.map (·.calls) = interfaces.bind (·.find? (answers wantNum)) := by
  apply Owns.use_bind (Multiset.mem_singleton_self dev)
  cases interfaces with
  | none => exact Owns.pure ⟨rfl, rfl⟩
  | some interfaces =>
      apply Owns.acquire_bind
      intro iterator
      apply Owns.call (openFrom_owns wantNum iterator interfaces) rfl
      rintro found _ ⟨rfl, isFound⟩
      apply Owns.release_bind (add_assoc _ _ _)
      exact Owns.pure ⟨add_comm _ _, isFound⟩

def ownedBy : Option AtUsbRndis → Multiset (Token Kind)
  | none => 0
  | some u => u.owned

theorem failOpen_owns {u : AtUsbRndis} (attached : u.Attached) :
    Owns u.owned (failOpen u) fun handle own => handle = none ∧ own = 0 := by
  apply Owns.bind (atUsbClose_owns attached)
  rintro _ _ rfl
  exact Owns.pure ⟨rfl, rfl⟩

def dataPipes : Option InterfaceCalls → Pipes
  | none => .none
  | some data => data.dataEndpoints.classified .none

/-- The pipes of the data interface, and those of the control interface for what it lacks. -/
def pipesOf (control : InterfaceCalls) (data : Option InterfaceCalls) : Pipes :=
  control.endpoints.classified (dataPipes data)

/-- `classify_pipes` returns for every interface that is opened. -/
structure OpenCalls.Bounded (calls : OpenCalls) : Prop where
  control : ∀ ifc ∈ calls.control.getD [], ifc.endpoints.count ≠ some 255
  data : ∀ ifc ∈ calls.data.getD [], ifc.dataEndpoints.count ≠ some 255

/-- What makes the interfaces of a device usable; `live` is what the registry says of it. -/
structure Usable (live : AtUsbDeviceInfo) (calls : OpenCalls) (control : InterfaceCalls)
    (data : Option InterfaceCalls) : Prop where
  rndis : live.kind = .rndis
  isControl : calls.control.bind (·.find? (answers live.controlIfc)) = some control
  isData : calls.data.bind (·.find? (answers (dataNumber live))) = data
  bulkIn : (pipesOf control data).bulkIn ≠ 0
  bulkOut : (pipesOf control data).bulkOut ≠ 0

/-- What a handle is. -/
structure IsHandle (u : AtUsbRndis) (live : AtUsbDeviceInfo) (calls : OpenCalls)
    (control : InterfaceCalls) (data : Option InterfaceCalls) : Prop where
  controlIfc : u.controlIfc.map (·.calls) = some control
  dataIfc : u.dataIfc.map (·.calls) = data
  controlNum : u.controlNum = live.controlIfc
  dataNum : u.dataNum = dataNumber live
  pipes : u.pipes = pipesOf control data
  busMbps : u.busMbps = busSpeed calls.speed
  rndis : u.rndis = Usb.atUsbOpen
  detached : u.Detached

/-- There is a handle exactly where the interfaces can be used. -/
def Outcome (live : AtUsbDeviceInfo) (calls : OpenCalls) : Option AtUsbRndis → Prop
  | none => ∀ control data, ¬ Usable live calls control data
  | some u => ∃ control data, Usable live calls control data ∧ IsHandle u live calls control data

/-- The handle with its interfaces. -/
def withInterfaces (memory mu svc dev : Token Kind) (live : AtUsbDeviceInfo)
    (control : OpenInterface) (data : Option OpenInterface) : AtUsbRndis :=
  { newHandle memory mu svc with
    dev := some dev
    controlNum := live.controlIfc
    dataNum := dataNumber live
    controlIfc := some control
    dataIfc := data }

theorem newHandle_detached (memory mu svc : Token Kind) : (newHandle memory mu svc).Detached :=
  ⟨rfl, rfl, rfl⟩

theorem classifyData_eq {fuel : Nat} (enough : 256 ≤ fuel) {data : Option OpenInterface}
    (bounded : ∀ ifc ∈ data, ifc.calls.dataEndpoints.count ≠ some 255) :
    classifyData fuel .none data = some (dataPipes (data.map (·.calls))) := by
  cases data with
  | none => rfl
  | some data => exact classifyPipes_eq (bounded data rfl) enough .none

theorem openPipes_owns {fuel : Nat} (enough : 256 ≤ fuel) {live : AtUsbDeviceInfo}
    {calls : OpenCalls} (bounded : calls.Bounded) (memory mu svc dev : Token Kind)
    {control : OpenInterface} {data : Option OpenInterface} (isRndis : live.kind = .rndis)
    (isControl : calls.control.bind (·.find? (answers live.controlIfc)) = some control.calls)
    (isData : data.map (·.calls) = calls.data.bind (·.find? (answers (dataNumber live)))) :
    Owns (withInterfaces memory mu svc dev live control data).owned
      (openPipes fuel (withInterfaces memory mu svc dev live control data) control calls.speed)
      fun handle own => own = ownedBy handle ∧ Outcome live calls handle := by
  have controlBounded : control.calls.endpoints.count ≠ some 255 := by
    obtain ⟨interfaces, isList, found⟩ := Option.bind_eq_some_iff.mp isControl
    exact bounded.control _ (by rw [isList]; exact List.mem_of_find?_eq_some found)
  have dataBounded : ∀ ifc ∈ data, ifc.calls.dataEndpoints.count ≠ some 255 := by
    rintro ifc rfl
    obtain ⟨interfaces, isList, found⟩ := Option.bind_eq_some_iff.mp isData.symm
    exact bounded.data _ (by rw [isList]; exact List.mem_of_find?_eq_some found)
  apply Owns.demand_bind (classifyData_eq enough dataBounded)
  apply Owns.demand_bind (classifyPipes_eq controlBounded enough _)
  rw [← pipesOf]
  by_cases missing : (pipesOf control.calls (data.map (·.calls))).bulkIn = 0 ∨
      (pipesOf control.calls (data.map (·.calls))).bulkOut = 0
  · rw [if_pos missing]
    have detached : { withInterfaces memory mu svc dev live control data with
        pipes := pipesOf control.calls (data.map OpenInterface.calls) }.Detached := ⟨rfl, rfl, rfl⟩
    apply (failOpen_owns detached.attached).weaken
    rintro _ _ ⟨rfl, rfl⟩
    refine ⟨rfl, ?_⟩
    intro other otherData usable
    have same : other = control.calls := Option.some.inj (usable.isControl.symm.trans isControl)
    have sameData : otherData = data.map OpenInterface.calls := usable.isData.symm.trans isData.symm
    rcases missing with noIn | noOut
    · exact usable.bulkIn (same ▸ sameData ▸ noIn)
    · exact usable.bulkOut (same ▸ sameData ▸ noOut)
  · rw [if_neg missing]
    rw [not_or] at missing
    refine Owns.pure ⟨rfl, control.calls, data.map (·.calls), ?_, ?_⟩
    · exact ⟨isRndis, isControl, isData.symm, missing.1, missing.2⟩
    · exact ⟨rfl, rfl, rfl, rfl, rfl, rfl, rfl, ⟨rfl, rfl, rfl⟩⟩

theorem openInterfaces_owns {fuel : Nat} (enough : 256 ≤ fuel) {live : AtUsbDeviceInfo}
    {calls : OpenCalls} (bounded : calls.Bounded) (memory mu svc dev : Token Kind) :
    Owns { newHandle memory mu svc with dev := some dev }.owned
      (openInterfaces fuel { newHandle memory mu svc with dev := some dev } dev live calls)
      fun handle own => own = ownedBy handle ∧ Outcome live calls handle := by
  have detached : { newHandle memory mu svc with dev := some dev }.Detached := ⟨rfl, rfl, rfl⟩
  apply Owns.use_bind
  · rw [owned_dev]
    exact Multiset.mem_add.mpr (.inl (Multiset.mem_singleton_self dev))
  by_cases other : live.kind ≠ .rndis
  · rw [if_pos other]
    apply (failOpen_owns detached.attached).weaken
    rintro _ _ ⟨rfl, rfl⟩
    exact ⟨rfl, fun _ _ usable => other usable.rndis⟩
  · rw [if_neg other]
    rw [not_not] at other
    have started : { newHandle memory mu svc with dev := some dev }.owned =
        {dev} + (newHandle memory mu svc).owned :=
      owned_dev { newHandle memory mu svc with dev := some dev }
    apply Owns.call (openOneInterface_owns dev live.controlIfc calls.control) started
    rintro control _ ⟨rfl, isControl⟩
    cases control with
    | none =>
        have noInterface : {dev} + interfaceOwned none + (newHandle memory mu svc).owned =
            { newHandle memory mu svc with
              dev := some dev, controlNum := live.controlIfc, dataNum := dataNumber live }.owned := by
          rw [interfaceOwned, add_zero, ← started]
          rfl
        rw [noInterface]
        apply (failOpen_owns (AtUsbRndis.Detached.attached ⟨rfl, rfl, rfl⟩)).weaken
        rintro _ _ ⟨rfl, rfl⟩
        refine ⟨rfl, fun control data usable => ?_⟩
        cases isControl.trans usable.isControl
    | some control =>
        apply Owns.call (openOneInterface_owns dev (dataNumber live) calls.data) (add_assoc _ _ _)
        rintro data _ ⟨rfl, isData⟩
        have opened : {dev} + interfaceOwned data + (interfaceOwned (some control) +
            (newHandle memory mu svc).owned) =
            (withInterfaces memory mu svc dev live control data).owned := by
          simp only [AtUsbRndis.owned, withInterfaces, newHandle, interfaceOwned, ofOption_none,
            ofOption_some]
          abel
        rw [opened]
        exact openPipes_owns enough bounded memory mu svc dev other isControl.symm isData

/-- What makes a device one that `at_usb_open` opens. -/
structure Opens (want : AtUsbDeviceInfo) (calls : OpenCalls) (device : UsbService) : Prop where
  found : (calls.registry.bind fun devices => Usb.findService devices want) = some device
  memory : calls.memory = true
  plugIn : calls.plugIn.works = true

/-- There is a handle exactly where there is a device to open and its interfaces can be used. -/
def Returned (want : AtUsbDeviceInfo) (calls : OpenCalls) (handle : Option AtUsbRndis) : Prop :=
  handle = none ∧ (∀ device, ¬ Opens want calls device) ∨
    ∃ device, Opens want calls device ∧
      Outcome (fillDeviceInfo (calls.live device)) calls handle

theorem atUsbOpen_owns {fuel : Nat} (enough : 256 ≤ fuel) (want : AtUsbDeviceInfo)
    {calls : OpenCalls} (bounded : calls.Bounded) :
    Owns 0 (atUsbOpen fuel want calls) fun handle own =>
      own = ownedBy handle ∧ Returned want calls handle := by
  apply Owns.bind (findService_owns want calls.registry)
  rintro found _ ⟨rfl, isFound⟩
  cases found with
  | none =>
      refine Owns.pure ⟨rfl, .inl ⟨rfl, fun device opens => ?_⟩⟩
      cases isFound.trans opens.found
  | some found =>
      rcases found with ⟨svc, device⟩
      apply Owns.use_bind (Multiset.mem_singleton_self svc)
      cases memory : calls.memory with
      | false =>
          apply Owns.release_bind (add_zero {svc}).symm
          refine Owns.pure ⟨rfl, .inl ⟨rfl, fun device opens => ?_⟩⟩
          cases memory.symm.trans opens.memory
      | true =>
          apply Owns.acquire_bind
          intro allocated
          apply Owns.acquire_bind
          intro mu
          have parts : ({mu} : Multiset (Token Kind)) + ({allocated} + {svc}) =
              {svc} + ({mu} + {allocated}) := by abel
          apply Owns.call (plugInObject_owns svc calls.plugIn) parts
          rintro object _ ⟨rfl, works⟩
          cases object with
          | none =>
              have started : ofOption none + {svc} + ({mu} + {allocated}) =
                  (newHandle allocated mu svc).owned := by
                simp only [AtUsbRndis.owned, newHandle, interfaceOwned, ofOption_none]
                abel
              rw [started]
              apply (failOpen_owns (newHandle_detached allocated mu svc).attached).weaken
              rintro _ _ ⟨rfl, rfl⟩
              refine ⟨rfl, .inl ⟨rfl, fun device opens => ?_⟩⟩
              cases works.trans opens.plugIn
          | some dev =>
              have started : ofOption (some dev) + {svc} + ({mu} + {allocated}) =
                  { newHandle allocated mu svc with dev := some dev }.owned := by
                simp only [AtUsbRndis.owned, newHandle, interfaceOwned, ofOption_none, ofOption_some]
                abel
              rw [started]
              apply (openInterfaces_owns enough bounded allocated mu svc dev).weaken
              rintro handle _ ⟨rfl, outcome⟩
              exact ⟨rfl, .inr ⟨device, ⟨isFound.symm, memory, works.symm⟩, outcome⟩⟩

/-- `at_usb_open` returns, whatever IOKit answers.  Where it returns no handle there is no device
to open, or its interfaces cannot be used, and nothing more is held than before; a handle is that
of the device that was found, and what is held more are its objects. -/
theorem atUsbOpen_returns {fuel : Nat} (enough : 256 ≤ fuel) (want : AtUsbDeviceInfo)
    {calls : OpenCalls} (bounded : calls.Bounded) (l : Ledger Kind) :
    ∃ handle l', atUsbOpen fuel want calls l = some (handle, l') ∧
      l'.held = ownedBy handle + l.held ∧ Returned want calls handle := by
  obtain ⟨handle, own, l', ran, held, rfl, returned⟩ :=
    (atUsbOpen_owns enough want bounded).run l
  exact ⟨handle, l', ran, held, returned⟩

/-- An interface with a bulk pipe in each direction, which it has in its second setting only. -/
def bulkInterface (num : UInt8) : InterfaceCalls where
  plugIn := ⟨true, true⟩
  num := num
  seize := false
  opens := true
  endpoints := ⟨some 0, fun _ => none⟩
  alternate := ⟨some 2, fun i => if i = 1 then some ⟨usbIn, usbBulk⟩ else some ⟨usbOut, usbBulk⟩⟩

/-- A phone at location 1 without, and one at location 2 with tethering. -/
def twoPhones : OpenCalls where
  registry := some [pixel 1 false, pixel 2 true]
  live := id
  memory := true
  plugIn := ⟨true, true⟩
  control := some [bulkInterface 1, bulkInterface 0]
  data := some [bulkInterface 0, bulkInterface 1]
  speed := some 3

theorem twoPhones_bounded : twoPhones.Bounded where
  control := by decide +kernel
  data := by decide +kernel

theorem atUsbOpen_returns_tethered :
    ∃ u l', atUsbOpen 256 (fillDeviceInfo (pixel 2 true)) twoPhones (Ledger.empty Kind) =
        some (some u, l') ∧ l'.held = u.owned ∧ u.pipes = ⟨1, 2, 0⟩ ∧ u.busMbps = 5000 := by
  obtain ⟨handle, l', ran, held, -⟩ := atUsbOpen_returns (Nat.le_refl 256)
    (fillDeviceInfo (pixel 2 true)) twoPhones_bounded (Ledger.empty Kind)
  have observed : (atUsbOpen 256 (fillDeviceInfo (pixel 2 true)) twoPhones
      (Ledger.empty Kind)).map (fun r => r.1.map fun u => (u.pipes, u.busMbps)) =
      some (some (⟨1, 2, 0⟩, 5000)) := by decide +kernel
  rw [ran, Option.map_some, Option.some.injEq, Option.map_eq_some_iff] at observed
  obtain ⟨u, rfl, seen⟩ := observed
  rw [Prod.mk.injEq] at seen
  exact ⟨u, l', ran, held.trans (add_zero u.owned), seen.1, seen.2⟩

end WiredTethering.Usb.IOKit
