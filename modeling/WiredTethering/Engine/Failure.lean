import WiredTethering.Dhcp.Frame
import WiredTethering.Engine.Threads

/-!
# A failed engine stays failed

`engine_fail` replaces the state in an exchange loop that gives up on `STOPPING`
and `ERROR`.  `pause_datapath` and `apply_lease_now` store a live state without
such a test.  `Moves` says once what a step of a thread does to the fields that
tell whether the engine is alive; the invariants follow from it.
-/

namespace WiredTethering.Engine

open WiredTethering.Memory
open WiredTethering.Common
open WiredTethering.Dhcp
open WiredTethering.Transition

/-! ## What a step does to the status -/

/-- The fields that tell whether the engine is alive. -/
structure Status where
  running : Bool
  state : AtState
  failed : Bool
  stopped : Bool

def AtEngine.status (e : AtEngine) : Status :=
  ⟨e.running, e.state, e.failed, e.stopped⟩

/-- Behind the exchange of `engine_fail`. -/
def Call.Published : Call → Prop
  | .failRecord _ => True
  | .failStop => True
  | _ => False

def UsbPc.Published : UsbPc → Prop
  | .call c => c.Published
  | _ => False

def MaintPc.Published : MaintPc → Prop
  | .call c _ => c.Published
  | _ => False

/-- The thread is about to store `CONNECTING` in `pause_datapath`. -/
def UsbPc.Revives : UsbPc → Prop
  | .call c => c = .pauseStore
  | _ => False

/-- The thread is about to store `CONNECTED` in `apply_lease_now` or `CONNECTING`
in `pause_datapath`. -/
def MaintPc.Revives : MaintPc → Prop
  | .applyState => True
  | .call c _ => c = .pauseStore
  | _ => False

/-- What a step of a thread does to the status.  `was` and `is` say that the thread
is behind the exchange of `engine_fail`. -/
inductive Moves (e next : Status) (revives was is : Prop) : Prop where
  | kept (same : next = e) (idle : ¬ revives) (published : is → was)
  | failed (published : next = { e with state := .error, failed := true }) (idle : ¬ revives)
  | halted (published : was) (halt : next = { e with running := false }) (idle : ¬ revives)
      (done : ¬ is)
  | revived (revives : revives) (state : AtState) (live : state ≠ .error ∧ state ≠ .stopping)
      (stored : next = { e with state := state }) (done : ¬ is)

theorem Call.step_moves (e : AtEngine) (spurious : Bool) (c : Call) :
    Moves e.status (c.step e spurious).1.status (c = .pauseStore) c.Published
      (∃ rest, (c.step e spurious).2 = some rest ∧ rest.Published) := by
  cases c with
  | failLoad copy =>
      by_cases isOver : e.state = .stopping ∨ e.state = .error
      · exact .kept (by simp [Call.step, isOver]) nofun (by simp [Call.step, isOver])
      · exact .kept (by simp [Call.step, isOver]) nofun (by simp [Call.step, isOver, Call.Published])
  | failExchange copy cur =>
      by_cases won : e.state = cur ∧ spurious = false
      · exact .failed (by simp [Call.step, won, AtEngine.status]) nofun
      · exact .kept (by simp [Call.step, won]) nofun (by simp [Call.step, won, Call.Published])
  | failRecord copy => exact .kept rfl nofun fun _ => trivial
  | failStop => exact .halted trivial rfl nofun (by simp [Call.step])
  | pauseLease => exact .kept rfl nofun (by simp [Call.step, Call.Published])
  | pauseMac => exact .kept rfl nofun (by simp [Call.step, Call.Published])
  | pauseLoad =>
      by_cases live : e.state = .connected
      · exact .kept rfl nofun (by simp [Call.step, live, Call.Published])
      · exact .kept rfl nofun (by simp [Call.step, live])
  | pauseStore => exact .revived rfl .connecting ⟨nofun, nofun⟩ rfl (by simp [Call.step])

@[simp]
theorem engineFail_not_published (msg : Bytes) : ¬ (engineFail msg).Published :=
  not_false

@[simp]
theorem pauseDatapath_not_published : ¬ pauseDatapath.Published :=
  not_false

@[simp]
theorem MaintBack.pc_not_published (back : MaintBack) : ¬ back.pc.Published := by
  cases back <;> exact not_false

/-- The call of the USB thread moves the status as the call does. -/
theorem UsbThread.call_moves (t : UsbThread) (e : AtEngine) (spurious : Bool) (c : Call) :
    Moves e.status (t.call e spurious c).1.status (c = .pauseStore) c.Published
      (t.call e spurious c).2.pc.Published := by
  have moves := Call.step_moves e spurious c
  rcases result : c.step e spurious with ⟨next, rest⟩
  rw [result] at moves
  simp only [UsbThread.call, result]
  cases rest with
  | none => simpa [UsbPc.Published] using moves
  | some rest => simpa [UsbPc.Published] using moves

/-- The call of the maintenance thread moves the status as the call does. -/
theorem MaintThread.call_moves (t : MaintThread) (e : AtEngine) (spurious : Bool) (c : Call)
    (back : MaintBack) :
    Moves e.status (t.call e spurious c back).1.status (c = .pauseStore) c.Published
      (t.call e spurious c back).2.pc.Published := by
  have moves := Call.step_moves e spurious c
  rcases result : c.step e spurious with ⟨next, rest⟩
  rw [result] at moves
  simp only [MaintThread.call, result]
  cases rest with
  | none => simpa using moves
  | some rest => simpa [MaintPc.Published] using moves

/-- A step outside the calls. -/
theorem Moves.quiet {e next : Status} {revives was is : Prop} (same : next = e)
    (idle : ¬ revives) (outside : ¬ is) : Moves e next revives was is :=
  .kept same idle fun published => absurd published outside

/-- One step of the USB thread. -/
theorem usbStep_moves {e next : AtEngine} {t after : UsbThread} {l : UsbLabel}
    (stepped : usbStep e t l = some (next, after)) :
    Moves e.status next.status t.pc.Revives t.pc.Published after.pc.Published := by
  rcases t with ⟨pc, looping⟩
  cases l with
  | run env =>
      cases pc with
      | call c =>
          have moves := UsbThread.call_moves ⟨.call c, looping⟩ e env.spurious c
          rw [Option.some.inj stepped] at moves
          exact moves
      | allocate =>
          simp only [usbStep] at stepped
          split at stepped <;> cases stepped <;> exact .quiet rfl nofun nofun
      | head =>
          cases stepped
          apply Moves.quiet rfl nofun
          cases e.running <;> exact nofun
      | check =>
          simp only [usbStep] at stepped
          split at stepped <;> cases stepped <;> exact .quiet rfl nofun nofun
      | learnLoad frame =>
          simp only [usbStep] at stepped
          split at stepped <;> cases stepped <;> exact .quiet rfl nofun nofun
      | learnRead frame =>
          simp only [usbStep] at stepped
          split at stepped <;> cases stepped <;> exact .quiet rfl nofun nofun
      | learnStore frame learned =>
          cases stepped
          exact .quiet rfl nofun nofun
      | learnDone frame =>
          cases stepped
          exact .quiet rfl nofun nofun
      | notCreated | body | dhcp | exited => cases stepped
  | goodRead =>
      cases pc with
      | body =>
          cases stepped
          exact .quiet rfl nofun nofun
      | _ => cases stepped
  | frame frame =>
      cases pc with
      | body =>
          simp only [usbStep, if_true] at stepped
          split at stepped <;> cases stepped <;> exact .quiet rfl nofun nofun
      | _ => cases stepped
  | dhcpFrame now =>
      cases pc with
      | dhcp frame =>
          simp only [usbStep] at stepped
          split at stepped
          · split at stepped <;> cases stepped <;> exact .quiet rfl nofun nofun
          · cases stepped
            exact .quiet rfl nofun nofun
      | _ => cases stepped
  | hardFail env =>
      cases pc with
      | body =>
          simp only [usbStep, if_true] at stepped
          split at stepped <;> cases stepped <;> exact .quiet rfl nofun nofun
      | _ => cases stepped
  | bodyDone =>
      cases pc with
      | body =>
          simp only [usbStep, if_true] at stepped
          split at stepped <;> cases stepped <;> exact .quiet rfl nofun nofun
      | _ => cases stepped

theorem MaintThread.applied_quiet {e : Status} {revives was : Prop} (t : MaintThread)
    (idle : ¬ revives) : Moves e e revives was t.applied.pc.Published :=
  .quiet rfl idle t.behindApply.pc_not_published

/-- One step of the maintenance thread. -/
theorem maintStep_moves {e next : AtEngine} {t after : MaintThread} {l : MaintLabel}
    (stepped : maintStep e t l = some (next, after)) :
    Moves e.status next.status t.pc.Revives t.pc.Published after.pc.Published := by
  rcases t with ⟨pc, ticks, kaFails, lostTicks, leased, bound⟩
  cases l with
  | run env =>
      cases pc with
      | call c back =>
          have moves := MaintThread.call_moves
            ⟨.call c back, ticks, kaFails, lostTicks, leased, bound⟩ e env.spurious c back
          rw [Option.some.inj stepped] at moves
          exact moves
      | head =>
          cases stepped
          apply Moves.quiet rfl nofun
          cases e.running <;> exact nofun
      | check =>
          simp only [maintStep] at stepped
          split at stepped
          · cases stepped
            exact .quiet rfl nofun nofun
          · cases stepped
            apply Moves.quiet rfl nofun
            dsimp only
            split <;> exact nofun
      | keepalive =>
          simp only [maintStep] at stepped
          split at stepped <;> cases stepped <;> exact .quiet rfl nofun nofun
      | loadLeased =>
          cases stepped
          exact .quiet rfl nofun nofun
      | applyNet filled =>
          simp only [maintStep] at stepped
          split at stepped <;> cases stepped <;> exact .quiet rfl nofun nofun
      | applyLock filled =>
          cases stepped
          exact .quiet rfl nofun nofun
      | applyMac =>
          cases stepped
          exact .quiet rfl nofun nofun
      | applyLease =>
          cases stepped
          exact .quiet rfl nofun nofun
      | applySaw =>
          cases stepped
          exact .quiet rfl nofun nofun
      | applyState =>
          cases stepped
          exact .revived trivial .connected ⟨nofun, nofun⟩ rfl nofun
      | applyRoute =>
          cases stepped
          exact MaintThread.applied_quiet _ nofun
      | expiry =>
          cases stepped
          apply Moves.quiet rfl nofun
          cases e.leaseApplied <;> exact nofun
      | lostSaw =>
          cases stepped
          apply Moves.quiet rfl nofun
          cases e.sawLease <;> exact nofun
      | lostLease =>
          cases stepped
          apply Moves.quiet rfl nofun
          cases e.leaseApplied <;> exact nofun
      | lostState =>
          simp only [maintStep] at stepped
          split at stepped
          · cases stepped
            apply Moves.quiet rfl nofun
            dsimp only
            split <;> exact nofun
          · cases stepped
            exact .quiet rfl nofun nofun
      | tail =>
          cases stepped
          exact .quiet rfl nofun nofun
      | notCreated | keepaliveLease | lock | exited => cases stepped
  | lock now sent =>
      cases pc with
      | lock =>
          simp only [maintStep, if_true, maintLock] at stepped
          split at stepped
          · cases stepped
            exact .quiet rfl nofun nofun
          · cases stepped
            exact MaintThread.applied_quiet _ nofun
      | _ => cases stepped
  | traffic idle env =>
      cases pc with
      | keepaliveLease =>
          simp only [maintStep, if_true] at stepped
          split at stepped <;> cases stepped <;> exact .quiet rfl nofun nofun
      | _ => cases stepped

/-! ## Invariants -/

/-- `AT_STATE_ERROR` or `AT_STATE_STOPPING` has been published. -/
def Status.Marked (st : Status) : Prop :=
  st.failed = true ∨ st.stopped = true

/-- The state is `ERROR` or `STOPPING`. -/
def Status.Over (st : Status) : Prop :=
  st.state = .error ∨ st.state = .stopping

/-- Each of the two states, and a cleared `running`, comes from its publication. -/
structure Status.Wf (st : Status) : Prop where
  error : st.state = .error → st.failed = true
  stopping : st.state = .stopping → st.stopped = true
  halted : st.running = false → st.Marked

namespace Moves

variable {e next : Status} {revives was is : Prop}

theorem marks (moves : Moves e next revives was is) :
    (e.failed = true → next.failed = true) ∧ next.stopped = e.stopped := by
  cases moves with
  | kept same => simp [same]
  | failed published => simp [published]
  | halted _ halt => simp [halt]
  | revived _ _ _ stored => simp [stored]

theorem published (moves : Moves e next revives was is) (known : was → e.failed = true) :
    is → next.failed = true := by
  cases moves with
  | kept same _ published =>
      rw [same]
      exact fun inside => known (published inside)
  | failed published =>
      rw [published]
      exact fun _ => rfl
  | halted _ _ _ done => exact fun inside => absurd inside done
  | revived _ _ _ _ done => exact fun inside => absurd inside done

theorem wf (moves : Moves e next revives was is) (known : was → e.failed = true) (wf : e.Wf) :
    next.Wf := by
  cases moves with
  | kept same =>
      rw [same]
      exact wf
  | failed published =>
      rw [published]
      exact ⟨fun _ => rfl, nofun, fun _ => .inl rfl⟩
  | halted published halt =>
      rw [halt]
      exact ⟨wf.error, wf.stopping, fun _ => .inl (known published)⟩
  | revived _ state live stored =>
      rw [stored]
      exact ⟨fun error => absurd error live.1, fun stopping => absurd stopping live.2, wf.halted⟩

/-- A step that stores no live state over a final one leaves the engine dead. -/
theorem staysDead (moves : Moves e next revives was is)
    (dead : e.Marked → e.Over) (guard : revives → ¬ e.Over) : next.Marked → next.Over := by
  cases moves with
  | kept same =>
      rw [same]
      exact dead
  | failed published =>
      rw [published]
      exact fun _ => .inl rfl
  | halted _ halt =>
      rw [halt]
      exact dead
  | revived revives _ _ stored =>
      rw [stored]
      exact fun marked => absurd (dead marked) (guard revives)

end Moves

/-- The main thread has not come to `at_engine_stop`. -/
def MainPc.Serving : MainPc → Prop
  | .stopRunning | .join | .done => False
  | _ => True

/-- How the state, the marks and the positions of the threads fit together. -/
structure StatusInv (s : System) : Prop where
  wf : s.e.status.Wf
  usb : s.usb.pc.Published → s.e.failed = true
  maint : s.maint.pc.Published → s.e.failed = true
  serving : s.main.pc.Serving ↔ s.e.stopped = false

theorem StatusInv.start (deviceMac : Mac) (xid : UInt32) :
    StatusInv (System.start deviceMac xid) where
  wf := ⟨nofun, nofun, nofun⟩
  usb := nofun
  maint := nofun
  serving := by simp [System.start, AtEngine.start, MainPc.Serving]

theorem mainStep_inv {s next : System} {l : MainLabel} (inv : StatusInv s)
    (stepped : mainStep s l = some next) : StatusInv next := by
  rcases s with ⟨e, usb, utun, maint, ⟨pc, failed⟩⟩
  have serving := inv.serving
  cases l with
  | run env =>
      cases pc with
      | createUsb =>
          cases stepped
          split
          · exact ⟨inv.wf, nofun, inv.maint, serving⟩
          · exact ⟨inv.wf, inv.usb, inv.maint, serving⟩
      | createUtun =>
          cases stepped
          split <;> dsimp only [System.goto] <;> split <;>
            exact ⟨inv.wf, inv.usb, inv.maint, serving⟩
      | createMaint =>
          cases stepped
          split
          · exact ⟨inv.wf, inv.usb, nofun, serving⟩
          · exact ⟨inv.wf, inv.usb, inv.maint, serving⟩
      | report =>
          cases stepped
          exact ⟨inv.wf, inv.usb, inv.maint, serving⟩
      | stopState =>
          cases stepped
          exact ⟨⟨nofun, fun _ => rfl, fun _ => .inr rfl⟩, inv.usb, inv.maint, ⟨nofun, nofun⟩⟩
      | stopRunning =>
          cases stepped
          have stopped : e.stopped = true := by
            by_contra open_
            exact serving.mpr (Bool.eq_false_iff.mpr open_)
          exact ⟨⟨inv.wf.error, inv.wf.stopping, fun _ => .inr stopped⟩, inv.usb, inv.maint,
            serving⟩
      | join =>
          simp only [mainStep] at stepped
          split at stepped <;> cases stepped
          exact ⟨inv.wf, inv.usb, inv.maint, serving⟩
      | firstTx | polling | done => cases stepped
  | firstTx now sent =>
      cases pc with
      | firstTx =>
          cases stepped
          exact ⟨⟨inv.wf.error, inv.wf.stopping, inv.wf.halted⟩, inv.usb, inv.maint, serving⟩
      | _ => cases stepped
  | poll quit =>
      cases pc with
      | polling =>
          cases stepped
          dsimp only [System.goto]
          split <;> exact ⟨inv.wf, inv.usb, inv.maint, serving⟩
      | _ => cases stepped

/-- The invariant holds in every run. -/
theorem engineStep_inv (s : System) (l : Label) (next : System) (inv : StatusInv s)
    (stepped : engineStep s l = some next) : StatusInv next := by
  cases l with
  | usb l =>
      obtain ⟨⟨e, t⟩, moved, rfl⟩ := Option.map_eq_some_iff.mp stepped
      have moves := usbStep_moves moved
      have stopped : e.stopped = s.e.stopped := moves.marks.2
      constructor
      · exact moves.wf inv.usb inv.wf
      · exact moves.published inv.usb
      · exact fun inside => moves.marks.1 (inv.maint inside)
      · rw [stopped]
        exact inv.serving
  | utun =>
      obtain ⟨pc, moved, rfl⟩ := Option.map_eq_some_iff.mp stepped
      exact ⟨inv.wf, inv.usb, inv.maint, inv.serving⟩
  | maint l =>
      obtain ⟨⟨e, t⟩, moved, rfl⟩ := Option.map_eq_some_iff.mp stepped
      have moves := maintStep_moves moved
      have stopped : e.stopped = s.e.stopped := moves.marks.2
      constructor
      · exact moves.wf inv.maint inv.wf
      · exact fun inside => moves.marks.1 (inv.usb inside)
      · exact moves.published inv.maint
      · rw [stopped]
        exact inv.serving
  | main l => exact mainStep_inv inv stepped

/-! ## Overwriting a failure -/

/-- A failed or stopping engine does not look alive, and the loop of the main
thread sees the failure. -/
structure LooksDead (s : System) : Prop where
  published : s.e.failed = true ∨ s.e.stopped = true → s.e.state = .error ∨ s.e.state = .stopping
  halted : s.e.running = false → s.e.state = .error ∨ s.e.state = .stopping
  polled : s.e.failed = true → s.main.pc = .polling → s.e.state = .error

/-- The step stores a live state: `CONNECTED` in `apply_lease_now` or `CONNECTING`
in `pause_datapath`. -/
def StoresLive (s : System) : Label → Prop
  | .usb (.run _) => s.usb.pc.Revives
  | .maint (.run _) => s.maint.pc.Revives
  | _ => False

/-- The step does not store a live state over `ERROR` or `STOPPING`. -/
def SparesFailure (s : System) (l : Label) : Prop :=
  StoresLive s l → s.e.state ≠ .error ∧ s.e.state ≠ .stopping

/-- Under the invariant it is enough that a published end shows in the state. -/
theorem StatusInv.looksDead_iff {s : System} (inv : StatusInv s) :
    LooksDead s ↔ (s.e.status.Marked → s.e.status.Over) := by
  constructor
  · exact fun dead => dead.published
  · intro isOver
    constructor
    · exact isOver
    · exact fun halt => isOver (inv.wf.halted halt)
    · intro failed polling
      rcases isOver (.inl failed) with error | stopping
      · exact error
      · have serves : s.main.pc.Serving := by
          rw [polling]
          trivial
        exact absurd (inv.wf.stopping stopping) (Bool.eq_false_iff.mp (inv.serving.mp serves))

theorem mainStep_over {s next : System} {l : MainLabel} (inv : StatusInv s)
    (dead : s.e.status.Marked → s.e.status.Over) (stepped : mainStep s l = some next) :
    next.e.status.Marked → next.e.status.Over := by
  rcases s with ⟨e, usb, utun, maint, ⟨pc, failed⟩⟩
  cases l with
  | run env =>
      cases pc with
      | createUsb =>
          cases stepped
          split <;> exact dead
      | createUtun =>
          cases stepped
          split <;> exact dead
      | createMaint =>
          cases stepped
          split <;> exact dead
      | report =>
          cases stepped
          exact dead
      | stopState =>
          cases stepped
          exact fun _ => .inr rfl
      | stopRunning =>
          cases stepped
          exact dead
      | join =>
          simp only [mainStep] at stepped
          split at stepped <;> cases stepped
          exact dead
      | firstTx | polling | done => cases stepped
  | firstTx now sent =>
      cases pc with
      | firstTx =>
          cases stepped
          exact dead
      | _ => cases stepped
  | poll quit =>
      cases pc with
      | polling =>
          cases stepped
          exact dead
      | _ => cases stepped

/-- A thread that is about to store a live state moves with `run` only. -/
theorem usbStep_of_revives {e next : AtEngine} {t after : UsbThread} {l : UsbLabel}
    (revives : t.pc.Revives) (stepped : usbStep e t l = some (next, after)) :
    ∃ env, l = .run env := by
  rcases t with ⟨pc, looping⟩
  cases pc with
  | call c =>
      cases l with
      | run env => exact ⟨env, rfl⟩
      | _ => cases stepped
  | _ => exact absurd revives not_false

theorem maintStep_of_revives {e next : AtEngine} {t after : MaintThread} {l : MaintLabel}
    (revives : t.pc.Revives) (stepped : maintStep e t l = some (next, after)) :
    ∃ env, l = .run env := by
  rcases t with ⟨pc, ticks, kaFails, lostTicks, leased, bound⟩
  cases pc with
  | applyState | call c back =>
      cases l with
      | run env => exact ⟨env, rfl⟩
      | _ => cases stepped
  | _ => exact absurd revives not_false

theorem engineStep_looksDead (s : System) (l : Label) (next : System) (inv : StatusInv s)
    (dead : LooksDead s) (spares : SparesFailure s l) (stepped : engineStep s l = some next) :
    LooksDead next := by
  rw [(engineStep_inv s l next inv stepped).looksDead_iff]
  rw [inv.looksDead_iff] at dead
  cases l with
  | usb l =>
      obtain ⟨⟨e, t⟩, moved, rfl⟩ := Option.map_eq_some_iff.mp stepped
      apply (usbStep_moves moved).staysDead dead
      intro revives
      obtain ⟨env, rfl⟩ := usbStep_of_revives revives moved
      exact not_or.mpr (spares revives)
  | utun =>
      obtain ⟨pc, moved, rfl⟩ := Option.map_eq_some_iff.mp stepped
      exact dead
  | maint l =>
      obtain ⟨⟨e, t⟩, moved, rfl⟩ := Option.map_eq_some_iff.mp stepped
      apply (maintStep_moves moved).staysDead dead
      intro revives
      obtain ⟨env, rfl⟩ := maintStep_of_revives revives moved
      exact not_or.mpr (spares revives)
  | main l => exact mainStep_over inv dead stepped

/-- A step that stores a live state over `ERROR` or `STOPPING` brings a dead engine
back. -/
theorem engineStep_revives (s : System) (l : Label) (inv : StatusInv s) (dead : LooksDead s)
    (spoils : ¬ SparesFailure s l) :
    ∃ next, engineStep s l = some next ∧ ¬ LooksDead next := by
  rw [SparesFailure, Classical.not_imp] at spoils
  obtain ⟨stores, final⟩ := spoils
  have isOver : s.e.status.Over := by
    by_contra live
    exact final (not_or.mp live)
  have marked : s.e.status.Marked := by
    rcases isOver with error | stopping
    · exact .inl (inv.wf.error error)
    · exact .inr (inv.wf.stopping stopping)
  rcases s with ⟨e, ⟨usbPc, looping⟩, utun, ⟨maintPc, ticks, kaFails, lost, leased, bound⟩, main⟩
  have alive {next : System} (marks : next.e.failed = e.failed ∧ next.e.stopped = e.stopped)
      (live : next.e.state ≠ .error ∧ next.e.state ≠ .stopping) : ¬ LooksDead next := by
    intro looksDead
    rcases looksDead.published (by rw [marks.1, marks.2]; exact marked) with error | stopping
    · exact live.1 error
    · exact live.2 stopping
  cases l with
  | usb l =>
      cases l with
      | run env =>
          cases usbPc with
          | call c =>
              cases stores
              exact ⟨_, rfl, alive ⟨rfl, rfl⟩ ⟨nofun, nofun⟩⟩
          | _ => exact absurd stores not_false
      | _ => exact absurd stores not_false
  | maint l =>
      cases l with
      | run env =>
          cases maintPc with
          | applyState => exact ⟨_, rfl, alive ⟨rfl, rfl⟩ ⟨nofun, nofun⟩⟩
          | call c back =>
              cases stores
              exact ⟨_, rfl, alive ⟨rfl, rfl⟩ ⟨nofun, nofun⟩⟩
          | _ => exact absurd stores not_false
      | _ => exact absurd stores not_false
  | _ => exact absurd stores not_false

/-- **A failed engine stays failed.**  In a run of the four threads the state never
becomes live again after `engine_fail` or `at_engine_stop` has published its end,
and the main loop sees a failure, exactly if no step of the run stores `CONNECTING`
in `pause_datapath` or `CONNECTED` in `apply_lease_now` over a published end. -/
theorem engine_looksDead_iff (deviceMac : Mac) (xid : UInt32) (labels : List Label) :
    Throughout engineStep LooksDead (System.start deviceMac xid) labels ↔
      Guarded engineStep SparesFailure (System.start deviceMac xid) labels := by
  have start := StatusInv.start deviceMac xid
  have dead : LooksDead (System.start deviceMac xid) := by
    rw [start.looksDead_iff]
    rintro (failed | stopped)
    · cases failed
    · cases stopped
  exact throughout_iff_guarded engineStep_inv engineStep_looksDead engineStep_revives start dead

/-! ## A failure that is overwritten -/

/-- A session that has just got a lease, up to the store of `CONNECTED`; then the
cable is pulled, the USB thread fails the engine, and the store is made. -/
def overwrittenFailure : List Label :=
  let mac : Mac := #v[0x02, 0x11, 0x22, 0x33, 0x44, 0x55]
  let client := atDhcpCreate (hostMacOf mac) 7
  let offer := buildReply client dhcpOffer 0x02e20b0a 0x01e20b0a [0, 0, 0x0e, 0x10]
  let ack := buildReply client dhcpAck 0x02e20b0a 0x01e20b0a [0, 0, 0x0e, 0x10]
  let fine : Env := ⟨true, false, false⟩
  let usb : Label := .usb (.run fine)
  let maint : Label := .maint (.run fine)
  let receive (frame : Bytes) (now : Nat) : List Label :=
    [.usb (.frame frame), usb, usb, .usb (.dhcpFrame now)]
  [.main (.run fine), .main (.run fine), .main (.firstTx 1000 ⟨1, 0⟩), .main (.run fine),
    usb, usb, usb] ++ receive offer 1100 ++
  [maint, maint, maint, .maint (.lock 1500 ⟨1, 500000⟩), maint, maint] ++ receive ack 1600 ++
  [maint, maint, maint, .maint (.lock 2000 ⟨2, 0⟩), maint, maint, maint, maint, maint] ++
  [.usb .bodyDone, usb, .usb (.run ⟨true, true, false⟩), usb, usb, usb, usb, maint]

/-- The engine has failed and is not running, and reports that it is connected. -/
theorem engine_failure_overwritten :
    ¬ ∀ (deviceMac : Mac) (xid : UInt32) (labels : List Label),
      Throughout engineStep LooksDead (System.start deviceMac xid) labels := by
  intro dead
  have ran : (run engineStep (System.start #v[0x02, 0x11, 0x22, 0x33, 0x44, 0x55] 7)
      overwrittenFailure).map (fun s => (s.e.failed, s.e.running, s.e.state)) =
        some (true, false, .connected) := by
    decide +kernel
  obtain ⟨last, reached, fields⟩ := Option.map_eq_some_iff.mp ran
  simp only [Prod.mk.injEq] at fields
  have looksDead := dead _ 7 overwrittenFailure _ (List.prefix_refl _) last reached
  rcases looksDead.published (.inl fields.1) with error | stopping
  · cases error.symm.trans fields.2.2
  · cases stopping.symm.trans fields.2.2

end WiredTethering.Engine
