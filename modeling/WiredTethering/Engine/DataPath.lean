import WiredTethering.Dhcp.Frame
import WiredTethering.Engine.Failure

/-!
# The state and the data path

`apply_lease_now` and `pause_datapath` write the state, `lease_applied` and
`gw_mac_ok` in separate steps, in two threads.  `UsbMoves`, `MaintMoves` and
`MainMoves` say once what a step does to these fields; what holds between the state
and the applied lease follows from them.
-/

namespace WiredTethering.Engine

open WiredTethering.Memory
open WiredTethering.Common
open WiredTethering.Dhcp
open WiredTethering.Transition

/-! ## What a step does to the data path -/

/-- The fields that the application of a lease and its pause write. -/
@[ext]
structure DataPath where
  state : AtState
  failed : Bool
  stopped : Bool
  leaseApplied : Bool
  sawLease : Bool
  hostMac : Mac
  gwMac : Mac
  gwMacOk : Bool
  gwIp : UInt32

def AtEngine.path (e : AtEngine) : DataPath :=
  ⟨e.state, e.failed, e.stopped, e.leaseApplied, e.sawLease, e.hostMac, e.gwMac, e.gwMacOk, e.gwIp⟩

/-- Inside `pause_datapath`, behind its first store. -/
def Call.Clearing : Call → Prop
  | .pauseMac | .pauseLoad | .pauseStore => True
  | _ => False

/-- Inside `pause_datapath`. -/
def Call.Pausing : Call → Prop
  | .pauseLease | .pauseMac | .pauseLoad | .pauseStore => True
  | _ => False

/-- Inside `engine_fail`, before it has published `ERROR`. -/
def Call.Failing : Call → Prop
  | .failLoad _ | .failExchange _ _ => True
  | _ => False

/-- What a step of a call does to the data path, and where the call goes on. -/
inductive CallMoves (e next : AtEngine) : Call → Option Call → Prop where
  | failing {c rest : Call} (here : c.Failing) (same : next.path = e.path) (goes : rest.Failing) :
      CallMoves e next c (some rest)
  | ended {c : Call} (here : c.Failing) (same : next.path = e.path)
      (isOver : e.state = .stopping ∨ e.state = .error) : CallMoves e next c none
  | failed {c : Call} (copy : Bytes) (here : c.Failing)
      (sets : next.path = { e.path with state := .error, failed := true }) :
      CallMoves e next c (some (.failRecord copy))
  | recorded (copy : Bytes) (same : next.path = e.path) :
      CallMoves e next (.failRecord copy) (some .failStop)
  | halted (same : next.path = e.path) : CallMoves e next .failStop none
  | unleased (sets : next.path = { e.path with leaseApplied := false }) :
      CallMoves e next .pauseLease (some .pauseMac)
  | unlearned (sets : next.path = { e.path with gwMacOk := false }) :
      CallMoves e next .pauseMac (some .pauseLoad)
  | connected (same : next.path = e.path) (live : e.state = .connected) :
      CallMoves e next .pauseLoad (some .pauseStore)
  | passed (same : next.path = e.path) (other : e.state ≠ .connected) :
      CallMoves e next .pauseLoad none
  | paused (sets : next.path = { e.path with state := .connecting }) :
      CallMoves e next .pauseStore none

theorem Call.step_path (e : AtEngine) (spurious : Bool) (c : Call) :
    CallMoves e (c.step e spurious).1 c (c.step e spurious).2 := by
  cases c with
  | failLoad copy =>
      simp only [Call.step]
      split_ifs with isOver
      · exact .ended trivial rfl isOver
      · exact .failing trivial rfl trivial
  | failExchange copy cur =>
      simp only [Call.step]
      split_ifs with won
      · exact .failed copy trivial rfl
      · exact .failing trivial rfl trivial
  | failRecord copy => exact .recorded copy rfl
  | failStop => exact .halted rfl
  | pauseLease => exact .unleased rfl
  | pauseMac => exact .unlearned rfl
  | pauseLoad =>
      simp only [Call.step]
      split_ifs with live
      · exact .connected rfl live
      · exact .passed rfl live
  | pauseStore => exact .paused rfl

/-- No position between the reads and writes of the data path. -/
def UsbPc.Quiet : UsbPc → Prop
  | .learnRead _ | .learnStore _ _ | .learnDone _ => False
  | .call c => ¬ c.Clearing
  | _ => True

/-- The next step of the thread is neither in a call nor a store of a learned address. -/
def UsbPc.Outside : UsbPc → Prop
  | .learnStore _ _ | .learnDone _ | .call _ => False
  | _ => True

/-- What a step of the USB thread does to the data path. -/
inductive UsbMoves (e next : AtEngine) : UsbPc → UsbPc → Prop where
  | quiet {pc after : UsbPc} (same : next.path = e.path) (outside : pc.Outside)
      (quiet : after.Quiet) : UsbMoves e next pc after
  | unknown (frame : Bytes) (same : next.path = e.path) (open_ : e.gwMacOk = false) :
      UsbMoves e next (.learnLoad frame) (.learnRead frame)
  | decided (frame : Bytes) (learned : Mac) (same : next.path = e.path)
      (found : atEthLearnGwMac frame e.hostMac e.gwIp = some learned) :
      UsbMoves e next (.learnRead frame) (.learnStore frame learned)
  | stored (frame : Bytes) (learned : Mac) (stores : next.path = { e.path with gwMac := learned }) :
      UsbMoves e next (.learnStore frame learned) (.learnDone frame)
  | learned (frame : Bytes) (sets : next.path = { e.path with gwMacOk := true }) :
      UsbMoves e next (.learnDone frame) (.dhcp frame)
  | called (c : Call) (rest : Option Call) (moves : CallMoves e next c rest) (after : UsbPc)
      (goes : after = (rest.map UsbPc.call).getD .body) : UsbMoves e next (.call c) after

@[simp]
theorem engineFail_not_clearing (msg : Bytes) : ¬ (engineFail msg).Clearing :=
  not_false

theorem usbStep_path {e next : AtEngine} {t after : UsbThread} {l : UsbLabel}
    (stepped : usbStep e t l = some (next, after)) : UsbMoves e next t.pc after.pc := by
  rcases t with ⟨pc, looping⟩
  cases l with
  | run env =>
      cases pc with
      | call c =>
          have moves := Call.step_path e env.spurious c
          rcases result : c.step e env.spurious with ⟨middle, rest⟩
          rw [result] at moves
          simp only [usbStep, UsbThread.call, result] at stepped
          cases rest with
          | none =>
              cases stepped
              exact .called c none moves _ rfl
          | some rest =>
              cases stepped
              exact .called c (some rest) moves _ rfl
      | allocate =>
          simp only [usbStep] at stepped
          split at stepped <;> cases stepped
          · exact .quiet rfl trivial trivial
          · exact .quiet rfl trivial not_false
      | head =>
          cases stepped
          refine .quiet rfl trivial ?_
          cases e.running <;> trivial
      | check =>
          simp only [usbStep] at stepped
          split at stepped <;> cases stepped
          · exact .quiet rfl trivial not_false
          · exact .quiet rfl trivial trivial
      | learnLoad frame =>
          simp only [usbStep] at stepped
          split at stepped <;> cases stepped
          · exact .quiet rfl trivial trivial
          · rename_i open_
            exact .unknown frame rfl (Bool.eq_false_iff.mpr open_)
      | learnRead frame =>
          simp only [usbStep] at stepped
          split at stepped <;> cases stepped
          · rename_i learned found
            exact .decided frame learned rfl found
          · exact .quiet rfl trivial trivial
      | learnStore frame learned =>
          cases stepped
          exact .stored frame learned rfl
      | learnDone frame =>
          cases stepped
          exact .learned frame rfl
      | notCreated | body | dhcp | exited => cases stepped
  | goodRead =>
      cases pc with
      | body =>
          cases stepped
          exact .quiet rfl trivial trivial
      | _ => cases stepped
  | frame frame =>
      cases pc with
      | body =>
          cases stepped
          refine .quiet rfl trivial ?_
          dsimp only
          split_ifs <;> trivial
      | _ => cases stepped
  | dhcpFrame now =>
      cases pc with
      | dhcp frame =>
          simp only [usbStep] at stepped
          split at stepped
          · cases stepped
            refine .quiet rfl trivial ?_
            dsimp only
            split_ifs
            · exact not_false
            · trivial
          · cases stepped
            exact .quiet rfl trivial trivial
      | _ => cases stepped
  | hardFail env =>
      cases pc with
      | body =>
          cases stepped
          refine .quiet rfl trivial ?_
          dsimp only
          split_ifs
          · trivial
          · exact not_false
      | _ => cases stepped
  | bodyDone =>
      cases pc with
      | body =>
          cases stepped
          refine .quiet rfl trivial ?_
          cases looping <;> trivial
      | _ => cases stepped

/-- No position between the reads and writes of the data path. -/
def MaintPc.Quiet : MaintPc → Prop
  | .applyLock _ | .applyMac | .applyLease | .applySaw | .applyState | .lostLease | .lostState =>
      False
  | .call c _ => ¬ c.Clearing
  | _ => True

/-- The next step of the thread is neither in a call, nor in the test for a lost lease, nor a
store of `apply_lease_now`. -/
def MaintPc.Outside : MaintPc → Prop
  | .applyLock _ | .applyMac | .applyLease | .applySaw | .applyState => False
  | .lostSaw | .lostLease | .lostState | .call _ _ => False
  | _ => True

theorem MaintBack.pc_quiet (back : MaintBack) : back.pc.Quiet := by
  cases back <;> trivial

/-- What a step of the maintenance thread does to the data path. -/
inductive MaintMoves (e next : AtEngine) (t after : MaintThread) : Prop where
  | quiet (same : next.path = e.path) (outside : t.pc.Outside) (quiet : after.pc.Quiet)
      (lost : after.leaseLostTicks = t.leaseLostTicks)
  | entered (filled : AtNetInfo) (same : next.path = e.path) (goes : after.pc = .applyLock filled)
      (lost : after.leaseLostTicks = t.leaseLostTicks) (here : t.pc = .applyNet filled)
  | stored (filled : AtNetInfo) (here : t.pc = .applyLock filled)
      (stores : next = storeLease e filled) (goes : after = { t with pc := .applyMac })
  | cleared (here : t.pc = .applyMac) (sets : next.path = { e.path with gwMacOk := false })
      (goes : after = { t with pc := .applyLease })
  | leased (here : t.pc = .applyLease) (sets : next.path = { e.path with leaseApplied := true })
      (goes : after = { t with pc := .applySaw })
  | saw (here : t.pc = .applySaw) (sets : next.path = { e.path with sawLease := true })
      (goes : after = { t with pc := .applyState })
  | connected (here : t.pc = .applyState) (sets : next.path = { e.path with state := .connected })
      (goes : after = { t with pc := .applyRoute })
  | lostSaw (here : t.pc = .lostSaw) (same : next = e)
      (goes : after = if e.sawLease then { t with pc := .lostLease } else t.found)
  | lostLease (here : t.pc = .lostLease) (same : next = e)
      (goes : after = if e.leaseApplied then t.found else { t with pc := .lostState })
  | lostState (here : t.pc = .lostState) (same : next = e)
      (goes : after = if e.state = .connecting then
        { t with
          leaseLostTicks := t.leaseLostTicks + 1
          pc := if t.leaseLostTicks + 1 < dhcpRenewFailTicks then .tail
            else .call (engineFail msgNotRenewed) .tail }
        else t.found)
  | called (c : Call) (back : MaintBack) (here : t.pc = .call c back) (rest : Option Call)
      (moves : CallMoves e next c rest)
      (goes : after = { t with pc := (rest.map (MaintPc.call · back)).getD back.pc })

theorem maintStep_path {e next : AtEngine} {t after : MaintThread} {l : MaintLabel}
    (stepped : maintStep e t l = some (next, after)) : MaintMoves e next t after := by
  rcases t with ⟨pc, ticks, kaFails, lostTicks, leased, bound⟩
  cases l with
  | run env =>
      cases pc with
      | call c back =>
          have moves := Call.step_path e env.spurious c
          rcases result : c.step e env.spurious with ⟨middle, rest⟩
          rw [result] at moves
          simp only [maintStep, MaintThread.call, result] at stepped
          cases rest with
          | none =>
              cases stepped
              exact .called c back rfl none moves rfl
          | some rest =>
              cases stepped
              exact .called c back rfl (some rest) moves rfl
      | head =>
          cases stepped
          refine .quiet rfl trivial ?_ ?_
          · cases e.running <;> trivial
          · cases e.running <;> rfl
      | check =>
          simp only [maintStep] at stepped
          split at stepped <;> cases stepped
          · exact .quiet rfl trivial not_false rfl
          · refine .quiet rfl trivial ?_ rfl
            dsimp only
            split_ifs <;> trivial
      | keepalive =>
          simp only [maintStep] at stepped
          split at stepped <;> cases stepped
          · exact .quiet rfl trivial trivial rfl
          · exact .quiet rfl trivial trivial rfl
      | loadLeased =>
          cases stepped
          exact .quiet rfl trivial trivial rfl
      | applyNet filled =>
          simp only [maintStep] at stepped
          split at stepped <;> cases stepped
          · exact .entered filled rfl rfl rfl rfl
          · exact .quiet rfl trivial not_false rfl
      | applyLock filled =>
          cases stepped
          exact .stored filled rfl rfl rfl
      | applyMac =>
          cases stepped
          exact .cleared rfl rfl rfl
      | applyLease =>
          cases stepped
          exact .leased rfl rfl rfl
      | applySaw =>
          cases stepped
          exact .saw rfl rfl rfl
      | applyState =>
          cases stepped
          exact .connected rfl rfl rfl
      | applyRoute =>
          cases stepped
          exact .quiet rfl trivial (MaintBack.pc_quiet _) rfl
      | expiry =>
          cases stepped
          refine .quiet rfl trivial ?_ rfl
          dsimp only
          split_ifs
          · exact not_false
          · trivial
      | lostSaw =>
          cases stepped
          exact .lostSaw rfl rfl rfl
      | lostLease =>
          cases stepped
          exact .lostLease rfl rfl rfl
      | lostState =>
          simp only [maintStep] at stepped
          apply MaintMoves.lostState rfl
          · split at stepped <;> cases stepped <;> rfl
          · split at stepped <;> rename_i connecting <;> cases stepped
            · exact (if_pos connecting).symm
            · exact (if_neg connecting).symm
      | tail =>
          cases stepped
          exact .quiet rfl trivial trivial rfl
      | notCreated | keepaliveLease | lock | exited => cases stepped
  | lock now sent =>
      cases pc with
      | lock =>
          simp only [maintStep, if_true, maintLock] at stepped
          split at stepped
          · cases stepped
            exact .quiet rfl trivial trivial rfl
          · cases stepped
            exact .quiet rfl trivial (MaintBack.pc_quiet _) rfl
      | _ => cases stepped
  | traffic idle env =>
      cases pc with
      | keepaliveLease =>
          simp only [maintStep, if_true] at stepped
          split at stepped <;> cases stepped
          · exact .quiet rfl trivial not_false rfl
          · exact .quiet rfl trivial trivial rfl
      | _ => cases stepped

/-- The main thread has not created the maintenance thread yet. -/
def MainPc.Early : MainPc → Prop
  | .createUsb | .createUtun | .firstTx | .createMaint => True
  | _ => False

/-- What a step of the main thread does to the data path. -/
inductive MainMoves (s next : System) : Prop where
  | quiet (same : next.e.path = s.e.path)
      (usb : next.usb.pc = s.usb.pc ∨ s.main.pc = .createUsb ∧ next.usb.pc = .allocate)
      (maint : next.maint = s.maint) (early : next.main.pc.Early → s.main.pc.Early)
      (onward : next.main.pc ≠ .createUsb)
  | created (early : s.main.pc.Early) (same : next.e.path = s.e.path)
      (usb : next.usb.pc = s.usb.pc) (maint : next.maint = { s.maint with pc := .head })
      (late : ¬ next.main.pc.Early)
  | stopping (sets : next.e.path = { s.e.path with state := .stopping, stopped := true })
      (usb : next.usb = s.usb) (maint : next.maint = s.maint) (late : ¬ next.main.pc.Early)

theorem mainStep_path {s next : System} {l : MainLabel} (stepped : mainStep s l = some next) :
    MainMoves s next := by
  rcases s with ⟨e, usb, utun, maint, ⟨pc, failed⟩⟩
  cases l with
  | run env =>
      cases pc with
      | createUsb =>
          cases stepped
          split
          · exact .quiet rfl (.inr ⟨rfl, rfl⟩) rfl (fun _ => trivial) (by rintro ⟨⟩)
          · exact .quiet rfl (.inl rfl) rfl (fun _ => trivial) (by rintro ⟨⟩)
      | createUtun =>
          cases stepped
          refine .quiet ?_ (.inl ?_) ?_ (fun _ => trivial) ?_
          · split <;> rfl
          · split <;> rfl
          · split <;> rfl
          · dsimp only [System.goto]
            split_ifs <;> rintro ⟨⟩
      | createMaint =>
          cases stepped
          split
          · exact .created trivial rfl rfl rfl not_false
          · exact .quiet rfl (.inl rfl) rfl (fun _ => trivial) (by rintro ⟨⟩)
      | report =>
          cases stepped
          exact .quiet rfl (.inl rfl) rfl (by rintro ⟨⟩) (by rintro ⟨⟩)
      | stopState =>
          cases stepped
          exact .stopping rfl rfl rfl not_false
      | stopRunning =>
          cases stepped
          exact .quiet rfl (.inl rfl) rfl (by rintro ⟨⟩) (by rintro ⟨⟩)
      | join =>
          simp only [mainStep] at stepped
          split at stepped <;> cases stepped
          exact .quiet rfl (.inl rfl) rfl (by rintro ⟨⟩) (by rintro ⟨⟩)
      | firstTx | polling | done => cases stepped
  | firstTx now sent =>
      cases pc with
      | firstTx =>
          cases stepped
          exact .quiet rfl (.inl rfl) rfl (fun _ => trivial) (by rintro ⟨⟩)
      | _ => cases stepped
  | poll quit =>
      cases pc with
      | polling =>
          cases stepped
          dsimp only [System.goto]
          split_ifs
          · exact .quiet rfl (.inl rfl) rfl (by rintro ⟨⟩) (by rintro ⟨⟩)
          · exact .quiet rfl (.inl rfl) rfl (by rintro ⟨⟩) (by rintro ⟨⟩)
      | _ => cases stepped

/-- A thread that has not been created does not move. -/
theorem usbStep_created {e next : AtEngine} {t after : UsbThread} {l : UsbLabel}
    (stepped : usbStep e t l = some (next, after)) : t.pc ≠ .notCreated := by
  rcases t with ⟨pc, looping⟩
  rintro rfl
  cases l <;> cases stepped

theorem maintStep_created {e next : AtEngine} {t after : MaintThread} {l : MaintLabel}
    (stepped : maintStep e t l = some (next, after)) : t.pc ≠ .notCreated := by
  rcases t with ⟨pc, ticks, kaFails, lostTicks, leased, bound⟩
  rintro rfl
  cases l <;> cases stepped

/-- The main thread creates the other threads once. -/
structure CreationInv (s : System) : Prop where
  usb : s.main.pc = .createUsb → s.usb.pc = .notCreated
  maint : s.main.pc.Early → s.maint.pc = .notCreated

theorem engineStep_creationInv (s : System) (l : Label) (next : System) (inv : CreationInv s)
    (stepped : engineStep s l = some next) : CreationInv next := by
  cases l with
  | usb l =>
      rcases Option.map_eq_some_iff.mp stepped with ⟨⟨e, t⟩, moved, rfl⟩
      exact ⟨fun early => absurd (inv.usb early) (usbStep_created moved), inv.maint⟩
  | utun =>
      rcases Option.map_eq_some_iff.mp stepped with ⟨pc, moved, rfl⟩
      exact ⟨inv.usb, inv.maint⟩
  | maint l =>
      rcases Option.map_eq_some_iff.mp stepped with ⟨⟨e, t⟩, moved, rfl⟩
      exact ⟨inv.usb, fun early => absurd (inv.maint early) (maintStep_created moved)⟩
  | main l =>
      cases mainStep_path stepped with
      | quiet same usb maint early onward =>
          refine ⟨fun first => absurd first onward, fun first => ?_⟩
          rw [maint]
          exact inv.maint (early first)
      | created early same usb maint late | stopping sets usb maint late =>
          refine ⟨fun first => absurd ?_ late, fun first => absurd first late⟩
          rw [first]
          trivial

/-! ## The law -/

/-- The engine has not failed and has not been stopped. -/
def Alive (s : System) : Prop :=
  s.e.failed = false ∧ s.e.stopped = false

/-- The thread is in `pause_datapath`. -/
def UsbPc.Pausing : UsbPc → Prop
  | .call c => c.Pausing
  | _ => False

/-- The thread is in `apply_lease_now` or in `pause_datapath`. -/
def MaintPc.InProgress : MaintPc → Prop
  | .applyNet _ | .applyLock _ | .applyMac | .applyLease | .applySaw | .applyState | .applyRoute =>
      True
  | .call c _ => c.Pausing
  | _ => False

/-- Neither `apply_lease_now` nor `pause_datapath` is in progress. -/
def Settled (s : System) : Prop :=
  ¬ s.usb.pc.Pausing ∧ ¬ s.maint.pc.InProgress

/-- The step is the one in which the maintenance thread looks at the state behind a lost
lease. -/
def tested (s : System) : Label → Nat
  | .maint _ => if s.maint.pc = .lostState then 1 else 0
  | _ => 0

/-- How often it does so along a run. -/
def tests : System → List Label → Nat
  | _, [] => 0
  | s, l :: labels =>
      match engineStep s l with
      | some next => tested s l + tests next labels
      | none => 0

/-- A data path that is up has a lease; without one the state is `CONNECTING`, and once a
lease was there, the maintenance thread looks at most so often for a new one before it fails the
engine. -/
structure Held (s : System) : Prop where
  applied : s.e.state = .connected → s.e.leaseApplied = true
  waiting : s.e.leaseApplied = false → s.e.state = .connecting
  counted : s.e.sawLease = true → ∀ labels,
    Throughout engineStep (fun s => Alive s ∧ s.e.leaseApplied = false) s labels →
      s.maint.leaseLostTicks + tests s labels ≤ dhcpRenewFailTicks

/-- Behind the first store of `pause_datapath`. -/
def UsbPc.Clearing : UsbPc → Prop
  | .call c => c.Clearing
  | _ => False

def MaintPc.Clearing : MaintPc → Prop
  | .call c _ => c.Clearing
  | _ => False

/-- `apply_lease_now` stores `CONNECTED` while the lease it has applied is still there, or
the USB thread that has just dropped it has not looked at the state yet. -/
def ConnectsHeld (s : System) : Label → Prop
  | .maint _ =>
      s.maint.pc = .applyState → s.e.leaseApplied = true ∨ s.usb.pc.Clearing
  | _ => True

/-! ## Invariants -/

/-- What holds between the state, the lease and the threads. -/
structure PathInv (s : System) : Prop where
  status : StatusInv s
  creation : CreationInv s
  started : s.e.state ≠ .idle
  connected : s.e.state = .connected →
    s.e.leaseApplied = true ∨ s.usb.pc.Clearing ∨ s.maint.pc.Clearing

theorem PathInv.start (deviceMac : Mac) (xid : UInt32) :
    PathInv (System.start deviceMac xid) :=
  ⟨.start deviceMac xid, ⟨fun _ => rfl, fun _ => rfl⟩, nofun, nofun⟩

/-- A step that leaves the state and the lease alone. -/
theorem PathInv.kept {s next : System} (inv : PathInv s) (status : StatusInv next)
    (creation : CreationInv next) (state : next.e.state = s.e.state)
    (lease : next.e.leaseApplied = s.e.leaseApplied)
    (clearing : s.usb.pc.Clearing ∨ s.maint.pc.Clearing →
      next.usb.pc.Clearing ∨ next.maint.pc.Clearing) : PathInv next := by
  refine ⟨status, creation, ?_, ?_⟩
  · rw [state]
    exact inv.started
  · rw [state, lease]
    exact fun connected => (inv.connected connected).imp_right clearing

/-- A step behind which a thread is about to decide on the state. -/
theorem PathInv.clears {s next : System} (inv : PathInv s) (status : StatusInv next)
    (creation : CreationInv next) (state : next.e.state = s.e.state)
    (clearing : next.usb.pc.Clearing ∨ next.maint.pc.Clearing) : PathInv next := by
  refine ⟨status, creation, ?_, fun _ => .inr clearing⟩
  rw [state]
  exact inv.started

/-- A step that stores another state than `CONNECTED`. -/
theorem PathInv.stores {next : System} (status : StatusInv next) (creation : CreationInv next)
    {state : AtState} (stored : next.e.path.state = state) (started : state ≠ .idle) (other : state ≠ .connected) :
    PathInv next := by
  have here : next.e.state = state := stored
  refine ⟨status, creation, ?_, ?_⟩
  · rw [here]
    exact started
  · rw [here]
    exact fun connected => absurd connected other

theorem UsbPc.not_clearing_of_outside {pc : UsbPc} (outside : pc.Outside) : ¬ pc.Clearing := by
  cases pc <;> first | exact not_false | exact outside.elim

theorem MaintPc.not_clearing_of_outside {pc : MaintPc} (outside : pc.Outside) :
    ¬ pc.Clearing := by
  cases pc <;> first | exact not_false | exact outside.elim

/-- The step of a call keeps the invariant, if the call goes on in its thread. -/
theorem PathInv.called {s next : System} (inv : PathInv s) (status : StatusInv next)
    (creation : CreationInv next) {c : Call} {rest : Option Call} (moves : CallMoves s.e next.e c rest)
    (others : s.usb.pc.Clearing ∨ s.maint.pc.Clearing →
      c.Clearing ∨ next.usb.pc.Clearing ∨ next.maint.pc.Clearing)
    (goes : ∀ c, rest = some c → c.Clearing → next.usb.pc.Clearing ∨ next.maint.pc.Clearing) :
    PathInv next := by
  have kept (same : next.e.path = s.e.path) (outside : ¬ c.Clearing) : PathInv next :=
    inv.kept status creation (congrArg DataPath.state same) (congrArg DataPath.leaseApplied same)
      fun clearing => (others clearing).resolve_left outside
  cases moves with
  | failing here same goes =>
      apply kept same
      cases c <;> first | exact not_false | exact here.elim
  | ended here same isOver =>
      apply kept same
      cases c <;> first | exact not_false | exact here.elim
  | failed copy here sets =>
      exact PathInv.stores status creation (congrArg DataPath.state sets) nofun nofun
  | recorded copy same => exact kept same not_false
  | halted same => exact kept same not_false
  | unleased sets =>
      exact inv.clears status creation (congrArg DataPath.state sets) (goes _ rfl trivial)
  | unlearned sets =>
      exact inv.clears status creation (congrArg DataPath.state sets) (goes _ rfl trivial)
  | connected same live =>
      exact inv.clears status creation (congrArg DataPath.state same) (goes _ rfl trivial)
  | passed same other =>
      have state : next.e.state = s.e.state := congrArg DataPath.state same
      refine ⟨status, creation, ?_, ?_⟩
      · rw [state]
        exact inv.started
      · rw [state]
        exact fun connected => absurd connected other
  | paused sets => exact PathInv.stores status creation (congrArg DataPath.state sets) nofun nofun

theorem usbStep_pathInv {s : System} {l : UsbLabel} {next : AtEngine} {after : UsbThread}
    (inv : PathInv s) (status : StatusInv { s with e := next, usb := after })
    (creation : CreationInv { s with e := next, usb := after })
    (stepped : usbStep s.e s.usb l = some (next, after)) :
    PathInv { s with e := next, usb := after } := by
  have moves := usbStep_path stepped
  have kept (state : next.state = s.e.state) (lease : next.leaseApplied = s.e.leaseApplied)
      (idle : ¬ s.usb.pc.Clearing) : PathInv { s with e := next, usb := after } :=
    inv.kept status creation state lease fun clearing => .inr (clearing.resolve_left idle)
  generalize here : s.usb.pc = pc, behind : after.pc = pc' at moves
  cases moves with
  | quiet same outside quiet =>
      apply kept (congrArg DataPath.state same) (congrArg DataPath.leaseApplied same)
      rw [here]
      exact UsbPc.not_clearing_of_outside outside
  | unknown frame same open_ =>
      apply kept (congrArg DataPath.state same) (congrArg DataPath.leaseApplied same)
      rw [here]
      exact not_false
  | decided frame learned same found =>
      apply kept (congrArg DataPath.state same) (congrArg DataPath.leaseApplied same)
      rw [here]
      exact not_false
  | stored frame learned stores =>
      apply kept (congrArg DataPath.state stores) (congrArg DataPath.leaseApplied stores)
      rw [here]
      exact not_false
  | learned frame sets =>
      apply kept (congrArg DataPath.state sets) (congrArg DataPath.leaseApplied sets)
      rw [here]
      exact not_false
  | called c rest moves goes =>
      refine inv.called status creation moves ?_ ?_
      · rw [here]
        exact Or.imp_right .inr
      · rintro c rfl clearing
        left
        change after.pc.Clearing
        rw [behind, ‹pc' = _›]
        exact clearing

theorem maintStep_pathInv {s : System} {l : MaintLabel} {next : AtEngine} {after : MaintThread}
    (inv : PathInv s) (status : StatusInv { s with e := next, maint := after })
    (creation : CreationInv { s with e := next, maint := after })
    (holds : s.maint.pc = .applyState → s.e.leaseApplied = true ∨ s.usb.pc.Clearing)
    (stepped : maintStep s.e s.maint l = some (next, after)) :
    PathInv { s with e := next, maint := after } := by
  have kept (state : next.state = s.e.state) (lease : next.leaseApplied = s.e.leaseApplied)
      (idle : ¬ s.maint.pc.Clearing) : PathInv { s with e := next, maint := after } :=
    inv.kept status creation state lease fun clearing => .inl (clearing.resolve_right idle)
  cases maintStep_path stepped with
  | quiet same outside quiet lost =>
      exact kept (congrArg DataPath.state same) (congrArg DataPath.leaseApplied same)
        (MaintPc.not_clearing_of_outside outside)
  | entered filled same goes lost here =>
      apply kept (congrArg DataPath.state same) (congrArg DataPath.leaseApplied same)
      rw [here]
      exact not_false
  | stored filled here stores goes =>
      subst stores
      apply kept rfl rfl
      rw [here]
      exact not_false
  | cleared here sets goes =>
      apply kept (congrArg DataPath.state sets) (congrArg DataPath.leaseApplied sets)
      rw [here]
      exact not_false
  | leased here sets goes =>
      have state : next.state = s.e.state := congrArg DataPath.state sets
      have lease : next.leaseApplied = true := congrArg DataPath.leaseApplied sets
      refine ⟨status, creation, ?_, fun _ => .inl lease⟩
      change next.state ≠ .idle
      rw [state]
      exact inv.started
  | saw here sets goes =>
      apply kept (congrArg DataPath.state sets) (congrArg DataPath.leaseApplied sets)
      rw [here]
      exact not_false
  | connected here sets goes =>
      have state : next.state = .connected := congrArg DataPath.state sets
      have lease : next.leaseApplied = s.e.leaseApplied := congrArg DataPath.leaseApplied sets
      refine ⟨status, creation, ?_, fun _ => ?_⟩
      · change next.state ≠ .idle
        rw [state]
        nofun
      · change next.leaseApplied = true ∨ _
        rw [lease]
        exact (holds here).imp_right .inl
  | lostSaw here same goes | lostLease here same goes | lostState here same goes =>
      subst same
      apply kept rfl rfl
      rw [here]
      exact not_false
  | called c back here rest moves goes =>
      refine inv.called status creation moves ?_ ?_
      · rw [here]
        rintro (usb | clearing)
        · exact .inr (.inl usb)
        · exact .inl clearing
      · rintro c rfl clearing
        right
        subst goes
        exact clearing

theorem mainStep_pathInv {s next : System} {l : MainLabel} (inv : PathInv s)
    (status : StatusInv next) (creation : CreationInv next) (stepped : mainStep s l = some next) :
    PathInv next := by
  cases mainStep_path stepped with
  | quiet same usb maint early onward =>
      apply inv.kept status creation (congrArg DataPath.state same)
        (congrArg DataPath.leaseApplied same)
      rw [maint]
      rcases usb with usb | ⟨first, -⟩
      · rw [usb]
        exact id
      · rw [inv.creation.usb first]
        exact Or.imp_left False.elim
  | created early same usb maint late =>
      apply inv.kept status creation (congrArg DataPath.state same)
        (congrArg DataPath.leaseApplied same)
      rw [usb, inv.creation.maint early]
      exact Or.imp_right False.elim
  | stopping sets usb maint late =>
      exact PathInv.stores status creation (congrArg DataPath.state sets) nofun nofun

/-- The invariant holds in the runs whose steps all meet the condition. -/
theorem engineStep_pathInv (s : System) (l : Label) (next : System) (inv : PathInv s)
    (holds : ConnectsHeld s l) (stepped : engineStep s l = some next) : PathInv next := by
  have status := engineStep_inv s l next inv.status stepped
  have creation := engineStep_creationInv s l next inv.creation stepped
  cases l with
  | usb l =>
      rcases Option.map_eq_some_iff.mp stepped with ⟨⟨e, t⟩, moved, rfl⟩
      exact usbStep_pathInv inv status creation moved
  | utun =>
      rcases Option.map_eq_some_iff.mp stepped with ⟨pc, moved, rfl⟩
      exact inv.kept status creation rfl rfl id
  | maint l =>
      rcases Option.map_eq_some_iff.mp stepped with ⟨⟨e, t⟩, moved, rfl⟩
      exact maintStep_pathInv inv status creation holds moved
  | main l => exact mainStep_pathInv inv status creation stepped

/-! ## The counter of a lost lease -/

/-- The counter is below its limit until the thread fails the engine. -/
def CountInv (s : System) : Prop :=
  Alive s → s.maint.leaseLostTicks < dhcpRenewFailTicks ∨
    s.maint.leaseLostTicks = dhcpRenewFailTicks ∧ ∃ c, s.maint.pc = .call c .tail ∧ c.Failing

theorem StatusInv.live_state {s : System} (inv : StatusInv s) (alive : Alive s) :
    ¬ (s.e.state = .stopping ∨ s.e.state = .error) := by
  rintro (stopping | error)
  · have stopped : s.e.stopped = true := inv.wf.stopping stopping
    rw [alive.2] at stopped
    contradiction
  · have failed : s.e.failed = true := inv.wf.error error
    rw [alive.1] at failed
    contradiction

/-- An engine that is alive was alive. -/
theorem alive_of_step {s next : System} {l : Label} (stepped : engineStep s l = some next)
    (alive : Alive next) : Alive s := by
  have live {was is : Bool} (kept : was = true → is = true) (off : is = false) : was = false := by
    cases was with
    | false => rfl
    | true => exact (kept rfl).symm.trans off
  cases l with
  | usb l =>
      rcases Option.map_eq_some_iff.mp stepped with ⟨⟨e, t⟩, moved, rfl⟩
      have marks := (usbStep_moves moved).marks
      exact ⟨live marks.1 alive.1, marks.2.symm.trans alive.2⟩
  | utun =>
      rcases Option.map_eq_some_iff.mp stepped with ⟨pc, moved, rfl⟩
      exact alive
  | maint l =>
      rcases Option.map_eq_some_iff.mp stepped with ⟨⟨e, t⟩, moved, rfl⟩
      have marks := (maintStep_moves moved).marks
      exact ⟨live marks.1 alive.1, marks.2.symm.trans alive.2⟩
  | main l =>
      have kept (same : next.e.path = s.e.path) : Alive s := by
        have failed : next.e.failed = s.e.failed := congrArg DataPath.failed same
        have stopped : next.e.stopped = s.e.stopped := congrArg DataPath.stopped same
        exact ⟨failed.symm.trans alive.1, stopped.symm.trans alive.2⟩
      cases mainStep_path stepped with
      | quiet same usb maint early onward => exact kept same
      | created early same usb maint late => exact kept same
      | stopping sets usb maint late =>
          have stopped : next.e.stopped = true := congrArg DataPath.stopped sets
          rw [alive.2] at stopped
          contradiction

/-- A call that fails the engine goes on until the engine has failed. -/
theorem CallMoves.still_failing {e next : AtEngine} {c : Call} {rest : Option Call}
    (moves : CallMoves e next c rest) (here : c.Failing)
    (live : ¬ (e.state = .stopping ∨ e.state = .error)) (alive : next.failed = false) :
    ∃ c, rest = some c ∧ c.Failing := by
  cases moves with
  | failing here same goes => exact ⟨_, rfl, goes⟩
  | ended here same isOver => exact absurd isOver live
  | failed copy here sets =>
      have failed : next.failed = true := congrArg DataPath.failed sets
      rw [alive] at failed
      contradiction
  | recorded | halted | unleased | unlearned | connected | passed | paused => exact here.elim

theorem MaintPc.outside_not_call {pc : MaintPc} (outside : pc.Outside) (c : Call)
    (back : MaintBack) : pc ≠ .call c back := by
  rintro rfl
  exact outside

theorem maintStep_countInv {s : System} {l : MaintLabel} {next : AtEngine} {after : MaintThread}
    (status : StatusInv s) (inv : CountInv s) (was : Alive s)
    (stepped : maintStep s.e s.maint l = some (next, after)) :
    CountInv { s with e := next, maint := after } := by
  intro alive
  have counted := inv was
  have below (elsewhere : ∀ c back, s.maint.pc ≠ .call c back) :
      s.maint.leaseLostTicks < dhcpRenewFailTicks := by
    rcases counted with below | ⟨-, c, here, -⟩
    · exact below
    · exact absurd here (elsewhere c .tail)
  have kept (elsewhere : ∀ c back, s.maint.pc ≠ .call c back)
      (lost : after.leaseLostTicks = s.maint.leaseLostTicks) :
      after.leaseLostTicks < dhcpRenewFailTicks := by
    rw [lost]
    exact below elsewhere
  have zero : 0 < dhcpRenewFailTicks := by decide
  cases maintStep_path stepped with
  | quiet same outside quiet lost => exact .inl (kept (MaintPc.outside_not_call outside) lost)
  | entered filled same goes lost here => exact .inl (kept (by rw [here]; nofun) lost)
  | stored filled here stores goes => exact .inl (kept (by rw [here]; nofun) (by rw [goes]))
  | cleared here sets goes | leased here sets goes | saw here sets goes | connected here sets goes =>
      exact .inl (kept (by rw [here]; nofun) (by rw [goes]))
  | lostSaw here same goes =>
      left
      have low := below (by rw [here]; nofun)
      change after.leaseLostTicks < _
      rw [goes]
      split_ifs
      · exact low
      · exact zero
  | lostLease here same goes =>
      left
      have low := below (by rw [here]; nofun)
      change after.leaseLostTicks < _
      rw [goes]
      split_ifs
      · exact zero
      · exact low
  | lostState here same goes =>
      have low := below (by rw [here]; nofun)
      change after.leaseLostTicks < _ ∨ after.leaseLostTicks = _ ∧ ∃ c, after.pc = _ ∧ _
      rw [goes]
      split_ifs with connecting again
      · exact .inl again
      · exact .inr ⟨Nat.le_antisymm low (Nat.le_of_not_lt again), _, rfl, trivial⟩
      · exact .inl zero
  | called c back here rest moves goes =>
      subst goes
      rcases counted with low | ⟨full, failing, at_, fails⟩
      · exact .inl low
      · rw [here] at at_
        cases at_
        rcases moves.still_failing fails (status.live_state was) alive.1 with ⟨c, rfl, goes⟩
        exact .inr ⟨full, c, rfl, goes⟩

theorem engineStep_countInv (s : System) (l : Label) (next : System)
    (inv : StatusInv s ∧ CreationInv s ∧ CountInv s) (stepped : engineStep s l = some next) :
    StatusInv next ∧ CreationInv next ∧ CountInv next := by
  obtain ⟨status, creation, count⟩ := inv
  refine ⟨engineStep_inv s l next status stepped, engineStep_creationInv s l next creation stepped,
    fun alive => ?_⟩
  have was := alive_of_step stepped alive
  cases l with
  | usb l =>
      rcases Option.map_eq_some_iff.mp stepped with ⟨⟨e, t⟩, moved, rfl⟩
      exact count was
  | utun =>
      rcases Option.map_eq_some_iff.mp stepped with ⟨pc, moved, rfl⟩
      exact count was
  | maint l =>
      rcases Option.map_eq_some_iff.mp stepped with ⟨⟨e, t⟩, moved, rfl⟩
      exact maintStep_countInv status count was moved alive
  | main l =>
      cases mainStep_path stepped with
      | quiet same usb maint early onward =>
          rw [maint]
          exact count was
      | created early same usb maint late =>
          left
          rw [maint]
          rcases count was with low | ⟨-, c, here, -⟩
          · exact low
          · rw [creation.maint early] at here
            contradiction
      | stopping sets usb maint late =>
          rw [maint]
          exact count was

/-- A lease has been lost and no thread is about to report another one. -/
structure Lost (s : System) : Prop where
  counted : StatusInv s ∧ CreationInv s ∧ CountInv s
  waiting : s.e.state = .connecting
  saw : s.e.sawLease = true
  away : s.maint.pc ≠ .applySaw ∧ s.maint.pc ≠ .applyState

/-- A step in which no lease is applied and the engine does not end. -/
theorem CallMoves.waiting {e next : AtEngine} {c : Call} {rest : Option Call}
    (moves : CallMoves e next c rest) (waiting : e.state = .connecting)
    (alive : next.failed = false) :
    next.state = .connecting ∧ next.sawLease = e.sawLease := by
  cases moves with
  | failing _ same | ended _ same | recorded _ same | halted same | connected same | passed same =>
      exact ⟨(congrArg DataPath.state same).trans waiting, congrArg DataPath.sawLease same⟩
  | failed copy here sets =>
      have failed : next.failed = true := congrArg DataPath.failed sets
      rw [alive] at failed
      contradiction
  | unleased sets | unlearned sets =>
      exact ⟨(congrArg DataPath.state sets).trans waiting, congrArg DataPath.sawLease sets⟩
  | paused sets => exact ⟨congrArg DataPath.state sets, congrArg DataPath.sawLease sets⟩

theorem UsbMoves.waiting {e next : AtEngine} {pc after : UsbPc} (moves : UsbMoves e next pc after)
    (waiting : e.state = .connecting) (alive : next.failed = false) :
    next.state = .connecting ∧ next.sawLease = e.sawLease := by
  cases moves with
  | quiet same | unknown _ same | decided _ _ same =>
      exact ⟨(congrArg DataPath.state same).trans waiting, congrArg DataPath.sawLease same⟩
  | stored _ _ sets | learned _ sets =>
      exact ⟨(congrArg DataPath.state sets).trans waiting, congrArg DataPath.sawLease sets⟩
  | called c rest moves after goes => exact moves.waiting waiting alive

/-- A lost lease stays lost, and each look at the state counts. -/
theorem maintStep_lost {s : System} {l : MaintLabel} {next : AtEngine} {after : MaintThread}
    (lost : Lost s) (unapplied : s.e.leaseApplied = false)
    (stepped : maintStep s.e s.maint l = some (next, after)) (alive : next.failed = false)
    (still : next.leaseApplied = false) :
    (next.state = .connecting ∧ next.sawLease = true ∧ after.pc ≠ .applySaw ∧
        after.pc ≠ .applyState) ∧
      s.maint.leaseLostTicks + (if s.maint.pc = .lostState then 1 else 0) =
        after.leaseLostTicks := by
  have untested {pc : MaintPc} (here : s.maint.pc = pc) (other : pc ≠ .lostState) (n : Nat) :
      n + (if s.maint.pc = .lostState then 1 else 0) = n := by
    rw [here, if_neg other, Nat.add_zero]
  cases maintStep_path stepped with
  | quiet same outside quiet kept =>
      have state := (congrArg DataPath.state same).trans lost.waiting
      have saw := (congrArg DataPath.sawLease same).trans lost.saw
      refine ⟨⟨state, saw, ?_, ?_⟩, ?_⟩
      · intro there
        rw [there] at quiet
        exact quiet
      · intro there
        rw [there] at quiet
        exact quiet
      · rw [kept, if_neg, Nat.add_zero]
        intro here
        rw [here] at outside
        exact outside
  | entered filled same goes kept here =>
      have state := (congrArg DataPath.state same).trans lost.waiting
      have saw := (congrArg DataPath.sawLease same).trans lost.saw
      rw [goes, kept]
      exact ⟨⟨state, saw, nofun, nofun⟩, untested here nofun _⟩
  | stored filled here stores goes =>
      rw [stores, goes]
      exact ⟨⟨lost.waiting, lost.saw, nofun, nofun⟩, untested here nofun _⟩
  | cleared here sets goes =>
      have state := (congrArg DataPath.state sets).trans lost.waiting
      have saw := (congrArg DataPath.sawLease sets).trans lost.saw
      rw [goes]
      exact ⟨⟨state, saw, nofun, nofun⟩, untested here nofun _⟩
  | leased here sets goes =>
      have applied : next.leaseApplied = true := congrArg DataPath.leaseApplied sets
      rw [still] at applied
      contradiction
  | saw here sets goes => exact absurd here lost.away.1
  | connected here sets goes => exact absurd here lost.away.2
  | lostSaw here same goes =>
      rw [if_pos lost.saw] at goes
      rw [same, goes]
      exact ⟨⟨lost.waiting, lost.saw, nofun, nofun⟩, untested here nofun _⟩
  | lostLease here same goes =>
      rw [unapplied, if_neg nofun] at goes
      rw [same, goes]
      exact ⟨⟨lost.waiting, lost.saw, nofun, nofun⟩, untested here nofun _⟩
  | lostState here same goes =>
      rw [if_pos lost.waiting] at goes
      rw [same, goes, if_pos here]
      refine ⟨⟨lost.waiting, lost.saw, ?_, ?_⟩, rfl⟩
      · dsimp only
        split_ifs <;> nofun
      · dsimp only
        split_ifs <;> nofun
  | called c back here rest moves goes =>
      have state := moves.waiting lost.waiting alive
      rw [goes]
      refine ⟨⟨state.1, state.2.trans lost.saw, ?_, ?_⟩, untested here nofun _⟩
      · cases rest <;> cases back <;> nofun
      · cases rest <;> cases back <;> nofun

theorem Lost.step {s next : System} {l : Label} (lost : Lost s)
    (unapplied : s.e.leaseApplied = false) (stepped : engineStep s l = some next)
    (alive : Alive next) (still : next.e.leaseApplied = false) :
    Lost next ∧ s.maint.leaseLostTicks + tested s l = next.maint.leaseLostTicks := by
  have counted := engineStep_countInv s l next lost.counted stepped
  cases l with
  | usb l =>
      rcases Option.map_eq_some_iff.mp stepped with ⟨⟨e, t⟩, moved, rfl⟩
      have state := (usbStep_path moved).waiting lost.waiting alive.1
      exact ⟨⟨counted, state.1, state.2.trans lost.saw, lost.away⟩, rfl⟩
  | utun =>
      rcases Option.map_eq_some_iff.mp stepped with ⟨pc, moved, rfl⟩
      exact ⟨⟨counted, lost.waiting, lost.saw, lost.away⟩, rfl⟩
  | maint l =>
      rcases Option.map_eq_some_iff.mp stepped with ⟨⟨e, t⟩, moved, rfl⟩
      rcases maintStep_lost lost unapplied moved alive.1 still with ⟨⟨state, saw, away⟩, counts⟩
      exact ⟨⟨counted, state, saw, away⟩, counts⟩
  | main l =>
      cases mainStep_path stepped with
      | quiet same usb maint early onward =>
          have state := (congrArg DataPath.state same).trans lost.waiting
          have saw := (congrArg DataPath.sawLease same).trans lost.saw
          rw [maint]
          refine ⟨⟨counted, state, saw, ?_⟩, rfl⟩
          rw [maint]
          exact lost.away
      | created early same usb maint late =>
          have state := (congrArg DataPath.state same).trans lost.waiting
          have saw := (congrArg DataPath.sawLease same).trans lost.saw
          rw [maint]
          refine ⟨⟨counted, state, saw, ?_⟩, rfl⟩
          rw [maint]
          exact ⟨nofun, nofun⟩
      | stopping sets usb maint late =>
          have stopped : next.e.stopped = true := congrArg DataPath.stopped sets
          rw [alive.2] at stopped
          contradiction

/-- As long as the lease stays lost, the counter is what bounds the wait. -/
theorem Lost.tests_le {s : System} {labels : List Label} (lost : Lost s)
    (wait : Throughout engineStep (fun s => Alive s ∧ s.e.leaseApplied = false) s labels) :
    s.maint.leaseLostTicks + tests s labels ≤ dhcpRenewFailTicks := by
  induction labels generalizing s with
  | nil =>
      have here := wait [] List.nil_prefix s rfl
      rcases lost.counted.2.2 here.1 with below | ⟨full, -⟩
      · exact Nat.le_of_lt below
      · exact Nat.le_of_eq full
  | cons l labels ih =>
      rw [throughout_cons_iff] at wait
      cases stepped : engineStep s l with
      | none =>
          rw [tests, stepped]
          rcases lost.counted.2.2 wait.1.1 with below | ⟨full, -⟩
          · exact Nat.le_of_lt below
          · exact Nat.le_of_eq full
      | some next =>
          have later := wait.2 next stepped
          have there := later [] List.nil_prefix next rfl
          rcases lost.step wait.1.2 stepped there.1 there.2 with ⟨behind, counts⟩
          rw [tests, stepped]
          calc s.maint.leaseLostTicks + (tested s l + tests next labels)
              = next.maint.leaseLostTicks + tests next labels := by rw [← Nat.add_assoc, counts]
            _ ≤ dhcpRenewFailTicks := ih behind later

/-! ## The law in every run -/

theorem PathInv.held {s : System} (inv : PathInv s) (count : CountInv s) (settled : Settled s)
    (alive : Alive s) : Held s := by
  have applied (connected : s.e.state = .connected) : s.e.leaseApplied = true := by
    rcases inv.connected connected with applied | usb | maint
    · exact applied
    · refine absurd ?_ settled.1
      cases here : s.usb.pc with
      | call c =>
          rw [here] at usb
          cases c <;> trivial
      | _ =>
          rw [here] at usb
          exact usb.elim
    · refine absurd ?_ settled.2
      cases here : s.maint.pc with
      | call c back =>
          rw [here] at maint
          cases c <;> trivial
      | _ =>
          rw [here] at maint
          exact maint.elim
  have waiting (unapplied : s.e.leaseApplied = false) : s.e.state = .connecting := by
    cases state : s.e.state with
    | idle => exact absurd state inv.started
    | connecting => rfl
    | connected =>
        rw [applied state] at unapplied
        contradiction
    | stopping => exact absurd (.inl state) (inv.status.live_state alive)
    | error => exact absurd (.inr state) (inv.status.live_state alive)
  refine ⟨applied, waiting, fun saw labels wait => ?_⟩
  have unapplied := (wait [] List.nil_prefix s rfl).2
  apply Lost.tests_le _ wait
  refine ⟨⟨inv.status, inv.creation, count⟩, waiting unapplied, saw, ?_, ?_⟩
  · intro here
    apply settled.2
    rw [here]
    trivial
  · intro here
    apply settled.2
    rw [here]
    trivial

/-- **Connected means a live data path.**  In a run whose steps all store `CONNECTED` over a
lease that is still there, a settled engine that is alive is connected only with an applied
lease, and waits for a lost one no longer than its counter allows. -/
theorem connected_has_lease {deviceMac : Mac} {xid : UInt32} {labels : List Label} {s : System}
    (guarded : Guarded engineStep ConnectsHeld (System.start deviceMac xid) labels)
    (ran : run engineStep (System.start deviceMac xid) labels = some s) (settled : Settled s)
    (alive : Alive s) : Held s := by
  have inv := run_guarded_invariant engineStep_pathInv (PathInv.start deviceMac xid) guarded ran
  have low : 0 < dhcpRenewFailTicks := by decide
  have start : CountInv (System.start deviceMac xid) := fun _ => .inl low
  have counted := run_invariant engineStep_countInv
    ⟨(PathInv.start deviceMac xid).status, (PathInv.start deviceMac xid).creation, start⟩ ran
  exact inv.held counted.2.2 settled alive

instance : DecidablePred Call.Clearing
  | .pauseMac | .pauseLoad | .pauseStore => .isTrue trivial
  | .failLoad _ | .failExchange _ _ | .failRecord _ | .failStop | .pauseLease => .isFalse id

instance : DecidablePred UsbPc.Clearing
  | .call c => inferInstanceAs (Decidable c.Clearing)
  | .notCreated | .allocate | .head | .check | .body | .learnLoad _ | .learnRead _
  | .learnStore _ _ | .learnDone _ | .dhcp _ | .exited => .isFalse id

instance (s : System) : DecidablePred (ConnectsHeld s)
  | .maint _ => inferInstanceAs (Decidable (_ → _))
  | .usb _ | .utun | .main _ => .isTrue trivial

/-- The address of the tethered device in the runs below, and the client of its engine. -/
def sampleMac : Mac := sixBytes 0x02 0x11 0x22 0x33 0x44 0x55

def sampleReply (msgType : UInt8) : Bytes :=
  buildReply (atDhcpCreate (hostMacOf sampleMac) 7) msgType 0x02e20b0a 0x01e20b0a
    [0, 0, 0x0e, 0x10]

def fineUsb : Label := .usb (.run ⟨true, false, false⟩)
def fineMaint : Label := .maint (.run ⟨true, false, false⟩)
def fineMain : Label := .main (.run ⟨true, false, false⟩)

/-- A session up to the first lease: `lease_applied` has just been stored. -/
def leasing : List Label :=
  [fineMain, fineMain, .main (.firstTx 1000 ⟨1, 0⟩), fineMain, fineUsb, fineUsb, fineUsb,
    .usb (.frame (sampleReply dhcpOffer)), fineUsb, fineUsb, .usb (.dhcpFrame 1100),
    fineMaint, fineMaint, fineMaint, .maint (.lock 1500 ⟨1, 500000⟩), fineMaint, fineMaint,
    .usb (.frame (sampleReply dhcpAck)), fineUsb, fineUsb, .usb (.dhcpFrame 1600),
    fineMaint, fineMaint, fineMaint, .maint (.lock 2000 ⟨2, 0⟩), fineMaint, fineMaint, fineMaint,
    fineMaint]

theorem leasing_has_lease :
    ∃ s, run engineStep (System.start sampleMac 7) (leasing ++ [fineMaint, fineMaint, fineMaint]) =
      some s ∧ s.e.state = .connected ∧ Held s := by
  have facts : (run engineStep (System.start sampleMac 7)
      (leasing ++ [fineMaint, fineMaint, fineMaint])).map
        (fun s => (s.usb.pc, s.maint.pc, s.e.failed, s.e.stopped, s.e.state)) =
      some (.body, .lostSaw, false, false, .connected) := by
    decide +kernel
  rcases Option.map_eq_some_iff.mp facts with ⟨s, ran, fields⟩
  simp only [Prod.mk.injEq] at fields
  rcases fields with ⟨usb, maint, failed, stopped, state⟩
  refine ⟨s, ran, state, connected_has_lease ?_ ran ⟨?_, ?_⟩ ⟨failed, stopped⟩⟩
  · decide +kernel
  · rw [usb]
    exact not_false
  · rw [maint]
    exact not_false

/-- A NAK comes between the stores of `lease_applied` and of `CONNECTED`, and is done with
the state before the second. -/
def pausedWhileApplying : List Label :=
  leasing ++ [.usb (.frame (sampleReply dhcpNak)), fineUsb, fineUsb, fineUsb, fineUsb,
    .usb (.dhcpFrame 2100), fineUsb, fineUsb, fineUsb, fineMaint, fineMaint, fineMaint]

/-- The engine is left connected without a lease. -/
theorem connected_without_lease :
    ¬ ∀ deviceMac xid labels s, run engineStep (System.start deviceMac xid) labels = some s →
      Settled s → Alive s → s.e.state = .connected → s.e.leaseApplied = true := by
  intro claimed
  have facts : (run engineStep (System.start sampleMac 7) pausedWhileApplying).map
      (fun s => (s.usb.pc, s.maint.pc, s.e.failed, s.e.stopped, s.e.state, s.e.leaseApplied)) =
      some (.body, .lostSaw, false, false, .connected, false) := by
    decide +kernel
  rcases Option.map_eq_some_iff.mp facts with ⟨s, ran, fields⟩
  simp only [Prod.mk.injEq] at fields
  rcases fields with ⟨usb, maint, failed, stopped, state, unapplied⟩
  have applied : s.e.leaseApplied = true := by
    refine claimed sampleMac 7 pausedWhileApplying s ran ⟨?_, ?_⟩ ⟨failed, stopped⟩ state
    · rw [usb]
      exact not_false
    · rw [maint]
      exact not_false
  exact Bool.false_ne_true (unapplied.symm.trans applied)

end WiredTethering.Engine
