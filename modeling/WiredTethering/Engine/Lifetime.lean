import WiredTethering.Usb.Open

/-!
# What the engine holds

`at_engine_start` allocates the engine, its transmit queue and its DHCP client, opens the phone
and the tunnel and creates three threads; where anything fails it stops what is there, and
`at_engine_stop` joins the threads and releases everything.  The programs run on the ledger of
the objects.  What a thread acquires and releases itself is done where it is joined.
-/

namespace WiredTethering.Engine.Objects

open WiredTethering.Resource
open WiredTethering.Status
open WiredTethering.Usb
open WiredTethering.Usb.IOKit

structure UtunCalls where
  memory : Bool
  socket : Bool
  ctlInfo : Bool
  connect : Bool
  name : Bool
deriving DecidableEq, Repr

/-- What is answered in `usb_io_thread`: its two buffers, and its event source. -/
structure UsbIoCalls where
  first : Bool
  second : Bool
  attach : AttachCalls
deriving DecidableEq, Repr

structure EngineCalls where
  opts : Bool
  engine : Bool
  txq : Bool
  device : AtUsbDeviceInfo
  usb : OpenCalls
  rndis : Bool
  utun : UtunCalls
  dhcp : Bool
  session : Bool
  usbRx : Bool
  utunRx : Bool
  maint : Bool
  usbIo : UsbIoCalls

/-- `struct at_utun`. -/
structure AtUtun where
  memory : Token Kind
  fd : Option (Token Kind)

/-- The objects of `struct at_engine`. -/
structure AtEngine where
  memory : Token Kind
  mu : Token Kind
  txqMu : Token Kind
  txqFlat : Option (Token Kind)
  usb : Option AtUsbRndis
  utun : Option AtUtun
  dhcp : Option (Token Kind)
  usbRx : Option (Token Kind)
  utunRx : Option (Token Kind)
  maint : Option (Token Kind)

/-! ## The tunnel -/

/-- `at_utun_close`. -/
def atUtunClose : Option AtUtun → Holding Kind Unit
  | none => pure ()
  | some u => do
      releaseOption u.fd
      release u.memory

/-- `at_utun_open`. -/
def atUtunOpen (calls : UtunCalls) : Holding Kind (Option AtUtun) :=
  if calls.memory then do
    let memory ← acquire .memory
    let fd ← acquireIf calls.socket .descriptor
    if fd.isSome && calls.ctlInfo && calls.connect && calls.name then pure (some ⟨memory, fd⟩)
    else do
      atUtunClose (some ⟨memory, fd⟩)
      pure none
  else pure none

/-! ## The USB thread -/

/-- `usb_io_thread` with its buffers: the source is detached on every way behind it. -/
def usbIoLoop (buffers : Bool) (usb : Option AtUsbRndis) (calls : AttachCalls) :
    Holding Kind (Option AtUsbRndis) :=
  match buffers, usb with
  | true, some u => do
      let (u, attached) ← atUsbAsyncAttach u calls
      if attached then some <$> atUsbAsyncDetach u else pure (some u)
  | _, usb => pure usb

/-- `usb_io_thread`. -/
def usbIoThread (usb : Option AtUsbRndis) (calls : UsbIoCalls) :
    Holding Kind (Option AtUsbRndis) := do
  let first ← acquireIf calls.first .memory
  let second ← acquireIf calls.second .memory
  let usb ← usbIoLoop (first.isSome && second.isSome) usb calls.attach
  releaseOption first
  releaseOption second
  pure usb

/-- `pthread_join` of the USB thread, if it was created. -/
def joinUsb (thread : Option (Token Kind)) (usb : Option AtUsbRndis) (calls : UsbIoCalls) :
    Holding Kind (Option AtUsbRndis) :=
  match thread with
  | none => pure usb
  | some t => do
      let usb ← usbIoThread usb calls
      release t
      pure usb

/-! ## Stopping and starting -/

def closeUsb : Option AtUsbRndis → Holding Kind Unit
  | none => pure ()
  | some u => do
      use u.memory
      atUsbClose u

/-- `at_engine_stop`. -/
def atEngineStop (e : AtEngine) (calls : UsbIoCalls) : Holding Kind Unit := do
  use e.memory
  let usb ← joinUsb e.usbRx e.usb calls
  releaseOption e.utunRx
  releaseOption e.maint
  releaseOption e.dhcp
  closeUsb usb
  atUtunClose e.utun
  releaseOption e.txqFlat
  release e.txqMu
  release e.mu
  release e.memory

/-- `fail_start` with an engine. -/
def failStart (e : AtEngine) (calls : EngineCalls) : Holding Kind (Option AtEngine) := do
  atEngineStop e calls.usbIo
  pure none

/-- `at_engine_start` behind the network session. -/
def createThreads (e : AtEngine) (calls : EngineCalls) : Holding Kind (Option AtEngine) := do
  let usbRx ← acquireIf calls.usbRx .thread
  let utunRx ← acquireIf calls.utunRx .thread
  let e := { e with usbRx := usbRx, utunRx := utunRx }
  if usbRx.isNone || utunRx.isNone then failStart e calls
  else do
    let maint ← acquireIf calls.maint .thread
    if maint.isNone then failStart e calls else pure (some { e with maint := maint })

/-- `at_engine_start` behind the phone. -/
def openTunnel (e : AtEngine) (calls : EngineCalls) : Holding Kind (Option AtEngine) := do
  let utun ← atUtunOpen calls.utun
  let e := { e with utun := utun }
  if utun.isNone then failStart e calls
  else do
    let dhcp ← acquireIf calls.dhcp .memory
    let e := { e with dhcp := dhcp }
    if dhcp.isNone || !calls.session then failStart e calls else createThreads e calls

/-- The engine that `at_engine_start` allocates. -/
def newEngine (memory mu txqMu : Token Kind) (txqFlat : Option (Token Kind)) : AtEngine where
  memory := memory
  mu := mu
  txqMu := txqMu
  txqFlat := txqFlat
  usb := none
  utun := none
  dhcp := none
  usbRx := none
  utunRx := none
  maint := none

/-- `at_engine_start`. -/
def atEngineStart (fuel : Nat) (calls : EngineCalls) : Holding Kind (Option AtEngine) :=
  if !calls.opts || !calls.engine then pure none
  else do
    let memory ← acquire .memory
    let mu ← acquire .mutex
    let txqMu ← acquire .mutex
    let txqFlat ← acquireIf calls.txq .memory
    let e := newEngine memory mu txqMu txqFlat
    if txqFlat.isNone then failStart e calls
    else do
      let usb ← atUsbOpen fuel calls.device calls.usb
      let e := { e with usb := usb }
      if usb.isNone || !calls.rndis then failStart e calls else openTunnel e calls

/-! ## What is held -/

def utunOwned : Option AtUtun → Multiset (Token Kind)
  | none => 0
  | some u => {u.memory} + ofOption u.fd

def AtEngine.owned (e : AtEngine) : Multiset (Token Kind) :=
  {e.memory} + ({e.mu} + ({e.txqMu} + (ofOption e.txqFlat + (ownedBy e.usb + (utunOwned e.utun +
    (ofOption e.dhcp + (ofOption e.usbRx + (ofOption e.utunRx + ofOption e.maint))))))))

def engineOwned : Option AtEngine → Multiset (Token Kind)
  | none => 0
  | some e => e.owned

/-- The handle of the phone, if there is one, is not on a run loop. -/
def Idle (usb : Option AtUsbRndis) : Prop :=
  ∀ u ∈ usb, u.Detached

section Owned

variable (e : AtEngine)

theorem mem_owned_memory : e.memory ∈ e.owned := by
  simp [AtEngine.owned]

theorem owned_usb : e.owned = ownedBy e.usb + { e with usb := none }.owned := by
  simp only [AtEngine.owned, ownedBy]
  abel

theorem owned_utun : e.owned = utunOwned e.utun + { e with utun := none }.owned := by
  simp only [AtEngine.owned, utunOwned]
  abel

theorem owned_dhcp : e.owned = ofOption e.dhcp + { e with dhcp := none }.owned := by
  simp only [AtEngine.owned, ofOption_none]
  abel

theorem owned_usbRx : e.owned = ofOption e.usbRx + { e with usbRx := none }.owned := by
  simp only [AtEngine.owned, ofOption_none]
  abel

end Owned

/-! ## The tunnel and the thread -/

theorem atUtunClose_owns (utun : Option AtUtun) :
    Owns (utunOwned utun) (atUtunClose utun) fun _ own => own = 0 := by
  cases utun with
  | none => exact Owns.pure rfl
  | some u =>
      apply Owns.releaseOption_bind (add_comm _ _)
      exact Owns.release (add_zero {u.memory}).symm

theorem atUtunOpen_owns (calls : UtunCalls) :
    Owns 0 (atUtunOpen calls) fun utun own => own = utunOwned utun := by
  rw [atUtunOpen]
  cases calls.memory with
  | false => exact Owns.pure rfl
  | true =>
      apply Owns.acquire_bind
      intro memory
      apply Owns.acquireIf_bind
      intro fd
      have both : ofOption fd + ({memory} + 0) = utunOwned (some ⟨memory, fd⟩) := by
        rw [add_zero, utunOwned, add_comm]
      rw [both]
      by_cases ready : (fd.isSome && calls.ctlInfo && calls.connect && calls.name) = true
      · rw [if_pos ready]
        exact Owns.pure rfl
      · rw [if_neg ready]
        apply Owns.bind (atUtunClose_owns _)
        rintro _ _ rfl
        exact Owns.pure rfl

theorem usbIoLoop_owns (buffers : Bool) {usb : Option AtUsbRndis} (calls : AttachCalls)
    (idle : Idle usb) :
    Owns (ownedBy usb) (usbIoLoop buffers usb calls) fun usb own =>
      own = ownedBy usb ∧ Idle usb := by
  cases buffers with
  | false => exact Owns.pure ⟨rfl, idle⟩
  | true =>
      cases usb with
      | none => exact Owns.pure ⟨rfl, idle⟩
      | some u =>
          apply Owns.bind (atUsbAsyncAttach_owns calls (idle u rfl))
          rintro ⟨v, there⟩ _ ⟨rfl, attached, failed⟩
          cases there with
          | false =>
              refine Owns.pure ⟨rfl, ?_⟩
              rintro _ ⟨⟩
              exact failed rfl
          | true =>
              dsimp only
              rw [if_pos rfl, map_eq_pure_bind]
              apply Owns.bind (atUsbAsyncDetach_owns attached)
              rintro _ _ ⟨rfl, rfl⟩
              refine Owns.pure ⟨rfl, ?_⟩
              rintro _ ⟨⟩
              exact ⟨rfl, rfl, rfl⟩

theorem usbIoThread_owns {usb : Option AtUsbRndis} (calls : UsbIoCalls) (idle : Idle usb) :
    Owns (ownedBy usb) (usbIoThread usb calls) fun usb own => own = ownedBy usb ∧ Idle usb := by
  apply Owns.acquireIf_bind
  intro first
  apply Owns.acquireIf_bind
  intro second
  have parts : ofOption second + (ofOption first + ownedBy usb) =
      ownedBy usb + (ofOption first + ofOption second) := by abel
  apply Owns.call (usbIoLoop_owns _ calls.attach idle) parts
  rintro v _ ⟨rfl, idle⟩
  apply Owns.releaseOption_bind (add_left_comm _ _ _)
  apply Owns.releaseOption_bind (add_comm _ _)
  exact Owns.pure ⟨rfl, idle⟩

theorem joinUsb_owns {usb : Option AtUsbRndis} (thread : Option (Token Kind)) (calls : UsbIoCalls)
    (idle : Idle usb) :
    Owns (ofOption thread + ownedBy usb) (joinUsb thread usb calls) fun usb own =>
      own = ownedBy usb ∧ Idle usb := by
  cases thread with
  | none => exact Owns.pure ⟨zero_add _, idle⟩
  | some t =>
      apply Owns.call (usbIoThread_owns calls idle) (add_comm _ _)
      rintro v _ ⟨rfl, idle⟩
      apply Owns.release_bind (add_comm _ _)
      exact Owns.pure ⟨rfl, idle⟩

/-! ## Stopping -/

theorem closeUsb_owns {usb : Option AtUsbRndis} (idle : Idle usb) :
    Owns (ownedBy usb) (closeUsb usb) fun _ own => own = 0 := by
  cases usb with
  | none => exact Owns.pure rfl
  | some u =>
      apply Owns.use_bind (Usb.IOKit.mem_owned_memory u)
      exact atUsbClose_owns (idle u rfl).attached

theorem atEngineStop_owns {e : AtEngine} (calls : UsbIoCalls) (idle : Idle e.usb) :
    Owns e.owned (atEngineStop e calls) fun _ own => own = 0 := by
  apply Owns.use_bind (mem_owned_memory e)
  have joined : e.owned =
      ofOption e.usbRx + ownedBy e.usb + { e with usbRx := none, usb := none }.owned := by
    rw [owned_usbRx, owned_usb, add_assoc]
  apply Owns.call (joinUsb_owns e.usbRx calls idle) joined
  rintro usb _ ⟨rfl, idle⟩
  -- what is left, in the order in which it is released
  have ordered : ownedBy usb + { e with usbRx := none, usb := none }.owned =
      ofOption e.utunRx + (ofOption e.maint + (ofOption e.dhcp + (ownedBy usb +
        (utunOwned e.utun + (ofOption e.txqFlat + ({e.txqMu} + ({e.mu} + {e.memory}))))))) := by
    simp only [AtEngine.owned, ownedBy, ofOption_none]
    abel
  apply Owns.releaseOption_bind ordered
  apply Owns.releaseOption_bind rfl
  apply Owns.releaseOption_bind rfl
  apply Owns.call (closeUsb_owns idle) rfl
  rintro _ _ rfl
  rw [zero_add]
  apply Owns.call (atUtunClose_owns e.utun) rfl
  rintro _ _ rfl
  rw [zero_add]
  apply Owns.releaseOption_bind rfl
  apply Owns.release_bind rfl
  apply Owns.release_bind rfl
  exact Owns.release (add_zero {e.memory}).symm

/-! ## Starting -/

/-- What `at_engine_start` returns, with what is held. -/
def Started (engine : Option AtEngine) (own : Multiset (Token Kind)) : Prop :=
  own = engineOwned engine ∧ ∀ e ∈ engine, Idle e.usb

theorem started_none : Started none 0 := by
  refine ⟨rfl, ?_⟩
  rintro e ⟨⟩

theorem failStart_owns {e : AtEngine} (calls : EngineCalls) (idle : Idle e.usb) :
    Owns e.owned (failStart e calls) Started := by
  apply Owns.bind (atEngineStop_owns calls.usbIo idle)
  rintro _ _ rfl
  exact Owns.pure started_none

theorem createThreads_owns {e : AtEngine} (calls : EngineCalls) (idle : Idle e.usb)
    (noUsbRx : e.usbRx = none) (noUtunRx : e.utunRx = none) (noMaint : e.maint = none) :
    Owns e.owned (createThreads e calls) Started := by
  apply Owns.acquireIf_bind
  intro usbRx
  apply Owns.acquireIf_bind
  intro utunRx
  have withWorkers : ofOption utunRx + (ofOption usbRx + e.owned) =
      { e with usbRx := usbRx, utunRx := utunRx }.owned := by
    simp only [AtEngine.owned, noUsbRx, noUtunRx, ofOption_none]
    abel
  rw [withWorkers]
  by_cases missing : (usbRx.isNone || utunRx.isNone) = true
  · rw [if_pos missing]
    exact failStart_owns calls idle
  · rw [if_neg missing]
    apply Owns.acquireIf_bind
    intro maint
    cases maint with
    | none =>
        rw [ofOption_none, zero_add]
        exact failStart_owns calls idle
    | some t =>
        have withMaint : ofOption (some t) + { e with usbRx := usbRx, utunRx := utunRx }.owned =
            { e with usbRx := usbRx, utunRx := utunRx, maint := some t }.owned := by
          simp only [AtEngine.owned, noMaint, ofOption_none]
          abel
        rw [withMaint]
        refine Owns.pure ⟨rfl, ?_⟩
        rintro _ ⟨⟩
        exact idle

theorem openTunnel_owns {e : AtEngine} (calls : EngineCalls) (idle : Idle e.usb)
    (noUtun : e.utun = none) (noDhcp : e.dhcp = none) (noUsbRx : e.usbRx = none)
    (noUtunRx : e.utunRx = none) (noMaint : e.maint = none) :
    Owns e.owned (openTunnel e calls) Started := by
  apply Owns.call (atUtunOpen_owns calls.utun) (zero_add e.owned).symm
  rintro utun _ rfl
  have withUtun : utunOwned utun + e.owned = { e with utun := utun }.owned := by
    rw [owned_utun { e with utun := utun }, ← noUtun]
  rw [withUtun]
  by_cases missing : utun.isNone = true
  · rw [if_pos missing]
    exact failStart_owns calls idle
  · rw [if_neg missing]
    apply Owns.acquireIf_bind
    intro dhcp
    have withDhcp : ofOption dhcp + { e with utun := utun }.owned =
        { e with utun := utun, dhcp := dhcp }.owned := by
      rw [owned_dhcp { e with utun := utun, dhcp := dhcp }, ← noDhcp]
    rw [withDhcp]
    by_cases refused : (dhcp.isNone || !calls.session) = true
    · rw [if_pos refused]
      exact failStart_owns calls idle
    · rw [if_neg refused]
      exact createThreads_owns calls idle noUsbRx noUtunRx noMaint

theorem outcome_idle {fuel : Nat} (enough : 256 ≤ fuel) (want : AtUsbDeviceInfo)
    {calls : OpenCalls} (bounded : calls.Bounded) :
    Owns 0 (atUsbOpen fuel want calls) fun usb own => own = ownedBy usb ∧ Idle usb := by
  apply (atUsbOpen_owns enough want bounded).weaken
  rintro usb _ ⟨rfl, ⟨rfl, -⟩ | ⟨device, -, outcome⟩⟩
  · refine ⟨rfl, ?_⟩
    rintro u ⟨⟩
  · refine ⟨rfl, ?_⟩
    rintro u rfl
    obtain ⟨control, data, -, isHandle⟩ := outcome
    exact isHandle.detached

theorem atEngineStart_owns {fuel : Nat} (enough : 256 ≤ fuel) {calls : EngineCalls}
    (bounded : calls.usb.Bounded) : Owns 0 (atEngineStart fuel calls) Started := by
  rw [atEngineStart]
  by_cases missing : (!calls.opts || !calls.engine) = true
  · rw [if_pos missing]
    exact Owns.pure started_none
  · rw [if_neg missing]
    apply Owns.acquire_bind
    intro memory
    apply Owns.acquire_bind
    intro mu
    apply Owns.acquire_bind
    intro txqMu
    apply Owns.acquireIf_bind
    intro txqFlat
    have allocated : ofOption txqFlat + ({txqMu} + ({mu} + ({memory} + 0))) =
        (newEngine memory mu txqMu txqFlat).owned := by
      simp only [AtEngine.owned, newEngine, ownedBy, utunOwned, ofOption_none]
      abel
    rw [allocated]
    have idle : Idle (newEngine memory mu txqMu txqFlat).usb := by rintro u ⟨⟩
    by_cases noQueue : txqFlat.isNone = true
    · rw [if_pos noQueue]
      exact failStart_owns calls idle
    · rw [if_neg noQueue]
      apply Owns.call (outcome_idle enough calls.device bounded) (zero_add _).symm
      rintro usb _ ⟨rfl, idle⟩
      have withUsb : ownedBy usb + (newEngine memory mu txqMu txqFlat).owned =
          { newEngine memory mu txqMu txqFlat with usb := usb }.owned :=
        (owned_usb { newEngine memory mu txqMu txqFlat with usb := usb }).symm
      rw [withUsb]
      by_cases refused : (usb.isNone || !calls.rndis) = true
      · rw [if_pos refused]
        exact failStart_owns calls idle
      · rw [if_neg refused]
        exact openTunnel_owns calls idle rfl rfl rfl rfl rfl

/-- Whatever fails, a start that returns no engine has released everything it acquired; an engine
holds what it refers to, and when it is stopped everything is released, nothing of it twice and
nothing used behind its release. -/
theorem start_stop_balanced {fuel : Nat} (enough : 256 ≤ fuel) {calls : EngineCalls}
    (bounded : calls.usb.Bounded) (l : Ledger Kind) :
    ∃ engine l₁, atEngineStart fuel calls l = some (engine, l₁) ∧
      l₁.held = engineOwned engine + l.held ∧
      ∀ e, engine = some e →
        ∃ l₂, atEngineStop e calls.usbIo l₁ = some ((), l₂) ∧ l₂.held = l.held := by
  obtain ⟨engine, own, l₁, ran, held, rfl, idle⟩ := (atEngineStart_owns enough bounded).run l
  refine ⟨engine, l₁, ran, held, ?_⟩
  rintro e rfl
  obtain ⟨_, own, l₂, stopped, left, rfl⟩ :=
    atEngineStop_owns calls.usbIo (idle e rfl) l.held l₁ held
  exact ⟨l₂, stopped, left.trans (zero_add l.held)⟩

/-- A start where everything works, and the notification of an unplugged phone does not. -/
def workingCalls : EngineCalls where
  opts := true
  engine := true
  txq := true
  device := fillDeviceInfo (pixel 2 true)
  usb := twoPhones
  rndis := true
  utun := ⟨true, true, true, true, true⟩
  dhcp := true
  session := true
  usbRx := true
  utunRx := true
  maint := true
  usbIo := ⟨true, true, ⟨true, true, false⟩⟩

theorem start_stop_balanced_working :
    ∃ e l₁ l₂, atEngineStart 256 workingCalls (Ledger.empty Kind) = some (some e, l₁) ∧
      l₁.held = e.owned ∧ atEngineStop e workingCalls.usbIo l₁ = some ((), l₂) ∧ l₂.held = 0 := by
  obtain ⟨engine, l₁, ran, held, stops⟩ :=
    start_stop_balanced (Nat.le_refl 256) (show workingCalls.usb.Bounded from twoPhones_bounded)
      (Ledger.empty Kind)
  have observed : (atEngineStart 256 workingCalls (Ledger.empty Kind)).map (·.1.isSome) =
      some true := by decide +kernel
  rw [ran, Option.map_some, Option.some.injEq] at observed
  obtain ⟨e, rfl⟩ := Option.isSome_iff_exists.mp observed
  obtain ⟨l₂, stopped, left⟩ := stops e rfl
  exact ⟨e, l₁, l₂, ran, held.trans (add_zero e.owned), stopped, left⟩

end WiredTethering.Engine.Objects
