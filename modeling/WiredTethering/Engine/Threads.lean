import WiredTethering.Common.Ethernet
import WiredTethering.Dhcp.Lease
import WiredTethering.Transition.Core

/-!
# The engine and its threads

Four threads share the state of `struct at_engine`: the USB I/O thread, the utun
thread, the maintenance thread and the main thread, which starts the others,
polls the state and stops the engine.

A step is one atomic access, one region under `mu`, or one call that leaves the
shared fields alone.  The position of each thread inside its functions is a
program counter, and a label says which thread moves and what its environment
answers.  What the threads do to the transmit queue is the subject of
`TxQueue`; a step that only sends, logs or counts bytes is part of the step
before it.
-/

namespace WiredTethering.Engine

open WiredTethering.Memory
open WiredTethering.Common
open WiredTethering.Dhcp
open WiredTethering.Transition

def usbGoneFails : Nat := 8
def dhcpRenewFailTicks : Nat := 24
def kaFailLimit : Nat := 3

def msgUsbGone : Bytes := cstr "The USB cable was unplugged"
def msgTetherOff : Bytes :=
  cstr "USB tethering is off. Turn USB tethering back on on the phone"
def msgNoBuffer : Bytes := cstr "Could not allocate the USB receive buffer"
def msgNotApplied : Bytes := cstr "Could not apply the DHCP lease to the interface"
def msgNotRenewed : Bytes := cstr "Could not renew the DHCP lease"

/-! ## Shared state -/

/-- `at_state_t`. -/
inductive AtState where
  | idle
  | connecting
  | connected
  | stopping
  | error
deriving DecidableEq, Repr

/-- The fields of `struct at_engine` that more than one thread uses. -/
structure AtEngine where
  running : Bool
  state : AtState
  error : Bytes
  net : AtNetInfo
  hostMac : Mac
  deviceMac : Mac
  gwMac : Mac
  gwMacOk : Bool
  hostIp : UInt32
  gwIp : UInt32
  leaseApplied : Bool
  sawLease : Bool
  usbHardFails : Nat
  dhcp : AtDhcp
  /-- `engine_fail` has published `AT_STATE_ERROR`; no step looks at it. -/
  failed : Bool
  /-- `at_engine_stop` has published `AT_STATE_STOPPING`; no step looks at it. -/
  stopped : Bool
deriving DecidableEq, Repr

/-- The host address that `at_engine_start` derives from the device's. -/
def hostMacOf (deviceMac : Mac) : Mac :=
  (deviceMac.set 0 ((deviceMac[0] ||| 0x02) &&& ~~~0x01)).set 5 (deviceMac[5] ^^^ 0x5A)

/-- The engine when `at_engine_start` comes to create its threads. -/
def AtEngine.start (deviceMac : Mac) (xid : UInt32) : AtEngine where
  running := true
  state := .connecting
  error := []
  net := .empty
  hostMac := hostMacOf deviceMac
  deviceMac := deviceMac
  gwMac := deviceMac
  gwMacOk := false
  hostIp := 0
  gwIp := 0
  leaseApplied := false
  sawLease := false
  usbHardFails := 0
  dhcp := atDhcpCreate (hostMacOf deviceMac) xid
  failed := false
  stopped := false

/-! ## Functions that two threads call -/

/-- A position inside `engine_fail` or `pause_datapath`. -/
inductive Call where
  | failLoad (copy : Bytes)
  | failExchange (copy : Bytes) (cur : AtState)
  | failRecord (copy : Bytes)
  | failStop
  | pauseLease
  | pauseMac
  | pauseLoad
  | pauseStore
deriving DecidableEq, Repr

/-- `engine_fail`. -/
def engineFail (msg : Bytes) : Call :=
  .failLoad (strlcpy (if msg ≠ [] then msg else cstr "Engine error") 256)

/-- `pause_datapath`. -/
def pauseDatapath : Call :=
  .pauseLease

/-- One step of a call, and where it goes on.  The exchange is a weak one: it may
fail although the state is as it was loaded. -/
def Call.step (e : AtEngine) (spurious : Bool) : Call → AtEngine × Option Call
  | .failLoad copy =>
      if e.state = .stopping ∨ e.state = .error then (e, none)
      else (e, some (.failExchange copy e.state))
  | .failExchange copy cur =>
      if e.state = cur ∧ spurious = false then
        ({ e with state := .error, failed := true }, some (.failRecord copy))
      else (e, some (.failLoad copy))
  | .failRecord copy => ({ e with error := strlcpy copy 256 }, some .failStop)
  | .failStop => ({ e with running := false }, none)
  | .pauseLease => ({ e with leaseApplied := false }, some .pauseMac)
  | .pauseMac => ({ e with gwMacOk := false }, some .pauseLoad)
  | .pauseLoad => (e, if e.state = .connected then some .pauseStore else none)
  | .pauseStore => ({ e with state := .connecting }, none)

/-- What the environment answers in a step of a thread. -/
structure Env where
  /-- The call of the step succeeds. -/
  ok : Bool
  /-- `at_usb_is_gone`. -/
  gone : Bool
  /-- A weak exchange fails spuriously. -/
  spurious : Bool
deriving DecidableEq, Repr

/-! ## The USB I/O thread -/

/-- A position of `usb_io_thread`; those that carry a frame are inside
`on_eth_from_usb`. -/
inductive UsbPc where
  | notCreated
  | allocate
  | head
  | check
  | body
  | learnLoad (frame : Bytes)
  | learnRead (frame : Bytes)
  | learnStore (frame : Bytes) (learned : Mac)
  | learnDone (frame : Bytes)
  | dhcp (frame : Bytes)
  | call (c : Call)
  | exited
deriving DecidableEq, Repr

/-- The thread.  It is `looping` until it leaves its loop, after which completions
are still delivered once. -/
structure UsbThread where
  pc : UsbPc
  looping : Bool
deriving DecidableEq, Repr

inductive UsbLabel where
  | run (env : Env)
  | goodRead
  | frame (frame : Bytes)
  | dhcpFrame (now : Nat)
  | hardFail (env : Env)
  | bodyDone
deriving DecidableEq, Repr

def usbLostMsg (gone : Bool) : Bytes :=
  if gone then msgUsbGone else msgTetherOff

/-- A step of the thread inside `engine_fail` or `pause_datapath`. -/
def UsbThread.call (t : UsbThread) (e : AtEngine) (spurious : Bool) (c : Call) :
    AtEngine × UsbThread :=
  let (e, rest) := c.step e spurious
  match rest with
  | some c => (e, { t with pc := .call c })
  | none => (e, { t with pc := .body })

/-- One step of `usb_io_thread`. -/
def usbStep (e : AtEngine) (t : UsbThread) : UsbLabel → Option (AtEngine × UsbThread)
  | .run env =>
      match t.pc with
      | .allocate =>
          if env.ok then some (e, ⟨.head, true⟩)
          else some (e, ⟨.call (engineFail msgNoBuffer), false⟩)
      | .head => some (e, if e.running then ⟨.check, true⟩ else ⟨.body, false⟩)
      | .check =>
          if env.gone then some (e, ⟨.call (engineFail msgUsbGone), false⟩)
          else some (e, ⟨.body, true⟩)
      | .learnLoad frame =>
          if e.gwMacOk then some (e, { t with pc := .dhcp frame })
          else some (e, { t with pc := .learnRead frame })
      | .learnRead frame =>
          match atEthLearnGwMac frame e.hostMac e.gwIp with
          | some learned => some (e, { t with pc := .learnStore frame learned })
          | none => some (e, { t with pc := .dhcp frame })
      | .learnStore frame learned =>
          some ({ e with gwMac := learned }, { t with pc := .learnDone frame })
      | .learnDone frame => some ({ e with gwMacOk := true }, { t with pc := .dhcp frame })
      | .call c => some (t.call e env.spurious c)
      | _ => none
  | .goodRead =>
      if t.pc = .body then some ({ e with usbHardFails := 0 }, t) else none
  | .frame frame =>
      if t.pc = .body then
        some (e, { t with pc := if frame.length < 14 then .body else .learnLoad frame })
      else none
  | .dhcpFrame now =>
      match t.pc with
      | .dhcp frame =>
          if looksLikeDhcpToClient frame then
            let (d, ev) := atDhcpOnFrame e.dhcp frame now
            some ({ e with dhcp := d },
              { t with pc := if ev < 0 then .call pauseDatapath else .body })
          else some (e, { t with pc := .body })
      | _ => none
  | .hardFail env =>
      -- `note_usb_hard_fail`
      if t.pc = .body then
        let n := e.usbHardFails + 1
        let fail := .call (engineFail (usbLostMsg env.gone))
        some ({ e with usbHardFails := n }, { t with pc := if n < usbGoneFails then .body else fail })
      else none
  | .bodyDone =>
      if t.pc = .body then some (e, { t with pc := if t.looping then .head else .exited })
      else none

/-! ## The maintenance thread -/

/-- Where `maint_thread` goes on behind a call. -/
inductive MaintBack where
  | loadLeased
  | expiry
  | lostSaw
  | tail
  | exited
deriving DecidableEq, Repr

/-- A position of `maint_thread`.  The positions named `apply` are inside
`apply_lease_now`, those named `lost` in the test whether a lost lease stays
lost. -/
inductive MaintPc where
  | notCreated
  | head
  | check
  | keepalive
  | keepaliveLease
  | loadLeased
  | lock
  | applyNet (filled : AtNetInfo)
  | applyLock (filled : AtNetInfo)
  | applyMac
  | applyLease
  | applySaw
  | applyState
  | applyRoute
  | expiry
  | lostSaw
  | lostLease
  | lostState
  | tail
  | call (c : Call) (back : MaintBack)
  | exited
deriving DecidableEq, Repr

def MaintBack.pc : MaintBack → MaintPc
  | .loadLeased => .loadLeased
  | .expiry => .expiry
  | .lostSaw => .lostSaw
  | .tail => .tail
  | .exited => .exited

/-- The thread and the local variables of `maint_thread`. -/
structure MaintThread where
  pc : MaintPc
  ticks : Nat
  kaFails : Nat
  leaseLostTicks : Nat
  leased : Bool
  stillBound : Bool
deriving DecidableEq, Repr

inductive MaintLabel where
  | run (env : Env)
  /-- The region under `mu`, with the two clock readings of the DHCP client. -/
  | lock (now : Nat) (sent : Timeval)
  /-- A failed keepalive is judged; `idle` says that no traffic has passed since
  the first one that failed. -/
  | traffic (idle : Bool) (env : Env)

/-- `filled` of `apply_lease_now`; the DNS array has 128 bytes. -/
def filledLease (lease : AtNetInfo) : AtNetInfo :=
  if lease.dns = [] ∧ lease.gateway ≠ [] then
    { lease with dns := strlcpy lease.gateway 128 }
  else lease

/-- The region of `apply_lease_now` under `mu`. -/
def storeLease (e : AtEngine) (filled : AtNetInfo) : AtEngine :=
  { e with
    hostIp := (inetAton filled.ip).getD e.hostIp
    gwIp := if filled.gateway ≠ [] then (inetAton filled.gateway).getD e.gwIp else e.gwIp
    gwMac := e.deviceMac
    net := filled }

/-- Where the thread goes on behind the application of a lease. -/
def MaintThread.behindApply (t : MaintThread) : MaintBack :=
  if t.leased ∧ t.stillBound = false then .expiry else .lostSaw

def MaintThread.applied (t : MaintThread) : MaintThread :=
  { t with pc := t.behindApply.pc }

/-- The lease is not lost, or not lost any more. -/
def MaintThread.found (t : MaintThread) : MaintThread :=
  { t with pc := .tail, leaseLostTicks := 0 }

/-- A step of the thread inside `engine_fail` or `pause_datapath`. -/
def MaintThread.call (t : MaintThread) (e : AtEngine) (spurious : Bool) (c : Call)
    (back : MaintBack) : AtEngine × MaintThread :=
  let (e, rest) := c.step e spurious
  match rest with
  | some c => (e, { t with pc := .call c back })
  | none => (e, { t with pc := back.pc })

/-- The region of `maint_thread` under `mu`: the DHCP client is polled, and a lease
that is new or has a new address is applied. -/
def maintLock (e : AtEngine) (t : MaintThread) (now : Nat) (sent : Timeval) :
    AtEngine × MaintThread :=
  let (d, _) := atDhcpWantTx e.dhcp 1518 now sent
  let bound := leaseActive d
  let lease := atDhcpLease d
  let justBound := bound && (!t.leased || (lease.ip ≠ [] && e.net.ip ≠ lease.ip))
  let t := { t with stillBound := bound }
  ({ e with dhcp := d },
    if justBound then { t with pc := .applyNet (filledLease lease) } else t.applied)

/-- One step of `maint_thread`. -/
def maintStep (e : AtEngine) (t : MaintThread) : MaintLabel → Option (AtEngine × MaintThread)
  | .run env =>
      match t.pc with
      | .head =>
          some (e, if e.running then { t with pc := .check, ticks := t.ticks + 1 }
            else { t with pc := .exited })
      | .check =>
          if env.gone then some (e, { t with pc := .call (engineFail msgUsbGone) .exited })
          else
            some (e, { t with pc := if t.ticks % 10 = 0 then .keepalive else .loadLeased })
      | .keepalive =>
          if env.ok then some (e, { t with pc := .loadLeased, kaFails := 0 })
          else some (e, { t with pc := .keepaliveLease, kaFails := t.kaFails + 1 })
      | .loadLeased => some (e, { t with pc := .lock, leased := e.leaseApplied })
      | .applyNet filled =>
          if env.ok then some (e, { t with pc := .applyLock filled })
          else
            some (e, { t with pc := .call (engineFail msgNotApplied) t.behindApply })
      | .applyLock filled => some (storeLease e filled, { t with pc := .applyMac })
      | .applyMac => some ({ e with gwMacOk := false }, { t with pc := .applyLease })
      | .applyLease => some ({ e with leaseApplied := true }, { t with pc := .applySaw })
      | .applySaw => some ({ e with sawLease := true }, { t with pc := .applyState })
      | .applyState => some ({ e with state := .connected }, { t with pc := .applyRoute })
      | .applyRoute => some (e, t.applied)
      | .expiry =>
          let pause := .call pauseDatapath .lostSaw
          some (e, { t with pc := if e.leaseApplied then pause else .lostSaw })
      | .lostSaw => some (e, if e.sawLease then { t with pc := .lostLease } else t.found)
      | .lostLease => some (e, if e.leaseApplied then t.found else { t with pc := .lostState })
      | .lostState =>
          if e.state = .connecting then
            let n := t.leaseLostTicks + 1
            let fail := .call (engineFail msgNotRenewed) .tail
            some (e, { t with
              leaseLostTicks := n
              pc := if n < dhcpRenewFailTicks then .tail else fail })
          else some (e, t.found)
      | .tail => some (e, { t with pc := .head })
      | .call c back => some (t.call e env.spurious c back)
      | _ => none
  | .lock now sent => if t.pc = .lock then some (maintLock e t now sent) else none
  | .traffic idle env =>
      if t.pc = .keepaliveLease then
        let lost := e.leaseApplied ∧ kaFailLimit ≤ t.kaFails ∧ idle
        let fail := .call (engineFail (usbLostMsg env.gone)) .loadLeased
        some (e, { t with pc := if lost then fail else .loadLeased })
      else none

/-! ## The other threads -/

/-- A position of `utun_rx_thread`, which only reads the shared fields. -/
inductive UtunPc where
  | notCreated
  | head
  | body
  | exited
deriving DecidableEq, Repr

def utunStep (e : AtEngine) : UtunPc → Option UtunPc
  | .head => some (if e.running then .body else .exited)
  | .body => some .head
  | _ => none

/-- A position of the main thread in `at_engine_start`, in the loop of
`cmd_connect` and in `at_engine_stop`. -/
inductive MainPc where
  | createUsb
  | createUtun
  | firstTx
  | createMaint
  | polling
  | report
  | stopState
  | stopRunning
  | join
  | done
deriving DecidableEq, Repr

/-- The main thread; `failed` is what `cmd_connect` reports. -/
structure MainThread where
  pc : MainPc
  failed : Bool
deriving DecidableEq, Repr

inductive MainLabel where
  | run (env : Env)
  | firstTx (now : Nat) (sent : Timeval)
  /-- One iteration of the loop; `quit` is a signal, a stop command or a closed
  socket. -/
  | poll (quit : Bool)

/-- The engine with its threads. -/
structure System where
  e : AtEngine
  usb : UsbThread
  utun : UtunPc
  maint : MaintThread
  main : MainThread
deriving DecidableEq, Repr

/-- Before the threads are created. -/
def System.start (deviceMac : Mac) (xid : UInt32) : System where
  e := .start deviceMac xid
  usb := ⟨.notCreated, true⟩
  utun := .notCreated
  maint := ⟨.notCreated, 0, 0, 0, false, false⟩
  main := ⟨.createUsb, false⟩

/-- The threads that were created have returned. -/
def System.joined (s : System) : Bool :=
  (s.usb.pc = .notCreated ∨ s.usb.pc = .exited) ∧
    (s.utun = .notCreated ∨ s.utun = .exited) ∧
    (s.maint.pc = .notCreated ∨ s.maint.pc = .exited)

def System.goto (s : System) (pc : MainPc) : System :=
  { s with main := { s.main with pc := pc } }

/-- One step of the main thread. -/
def mainStep (s : System) : MainLabel → Option System
  | .run env =>
      match s.main.pc with
      | .createUsb =>
          some ((if env.ok then { s with usb := ⟨.allocate, true⟩ } else s).goto .createUtun)
      | .createUtun =>
          let s := if env.ok then { s with utun := .head } else s
          some (s.goto
            (if s.usb.pc = .notCreated ∨ s.utun = .notCreated then .stopState else .firstTx))
      | .createMaint =>
          some (if env.ok then
            { s with maint := { s.maint with pc := .head } }.goto .polling
            else s.goto .stopState)
      | .report =>
          some { s with main := ⟨.stopState, s.e.state = .error⟩ }
      | .stopState =>
          some ({ s with e := { s.e with state := .stopping, stopped := true } }.goto
            .stopRunning)
      | .stopRunning => some ({ s with e := { s.e with running := false } }.goto .join)
      | .join => if s.joined then some (s.goto .done) else none
      | _ => none
  | .firstTx now sent =>
      if s.main.pc = .firstTx then
        let (d, _) := atDhcpWantTx s.e.dhcp 1518 now sent
        some ({ s with e := { s.e with dhcp := d } }.goto .createMaint)
      else none
  | .poll quit =>
      if s.main.pc = .polling then
        some (s.goto (if s.e.state = .error ∨ quit then .report else .polling))
      else none

/-- Which thread moves. -/
inductive Label where
  | usb (l : UsbLabel)
  | utun
  | maint (l : MaintLabel)
  | main (l : MainLabel)

/-- One step of the engine. -/
def engineStep : Step System Label
  | s, .usb l => (usbStep s.e s.usb l).map fun (e, t) => { s with e := e, usb := t }
  | s, .utun => (utunStep s.e s.utun).map fun pc => { s with utun := pc }
  | s, .maint l => (maintStep s.e s.maint l).map fun (e, t) => { s with e := e, maint := t }
  | s, .main l => mainStep s l

end WiredTethering.Engine
