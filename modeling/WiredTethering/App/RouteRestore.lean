import WiredTethering.App.Teardown

/-!
# The ladder of a teardown and the warning behind it

A teardown asks the engine to stop in up to four ways, each harder than the one before,
and raises `pendingRouteRestore` behind them.  The module follows one call of
`disconnectAsync` through all its suspensions, whatever others do to the controller
meanwhile: it never sends SIGKILL too early, and the warning is true exactly when the
engine needs a SIGKILL or the helper restores the network.
-/

namespace WiredTethering.App

open WiredTethering.Transition

/-- What a teardown asks of the engine, the gentlest first. -/
inductive Request
  | socketStop
  | helperStop
  | sigterm
  | sigkill
deriving DecidableEq, Repr

/-- Behind which request the engine exits. -/
inductive EngineExit
  | afterStop
  | afterHelper
  | afterTerm
  | afterKill
  | never
deriving DecidableEq, Repr

/-- The engine still lives when the wait behind the request is over. -/
def EngineExit.outlives : EngineExit → Request → Bool
  | .afterStop, _ => false
  | .afterHelper, .socketStop => true
  | .afterHelper, _ => false
  | .afterTerm, .socketStop | .afterTerm, .helperStop => true
  | .afterTerm, _ => false
  | .afterKill, .sigkill => false
  | .afterKill, _ => true
  | .never, _ => true

/-- What `pidIsAlive` says of such an engine. -/
def EngineExit.answers (exit : EngineExit) (calls : Calls) : Calls :=
  { calls with
    aliveBeforeHelper := exit.outlives .socketStop
    aliveBeforeTerm := exit.outlives .helperStop
    aliveBeforeKill := exit.outlives .sigterm
    aliveAtEnd := exit.outlives .sigkill }

/-- What has been asked where a teardown is suspended. -/
def Phase.request : Phase → Option Request
  | .waitStop _ _ => some .socketStop
  | .stopEngine _ _ => some .helperStop
  | .waitTerm _ _ => some .sigterm
  | .waitKill _ _ => some .sigkill
  | .start | .waiting | .waitHelper _ _ | .restoring _ => none

/-- A suspended teardown runs on: the controller as it finds it, and what the outside
answers. -/
structure Wake where
  found : Controller
  calls : Calls

/-- One call of `disconnectAsync`; behind its return it has no phase. -/
structure Ladder where
  phase : Option Phase := some .start
  /-- The newest request comes first. -/
  asked : List Request := []
  /-- What the helper was when its turn came. -/
  helper : HelperStatus := .unavailable

section

variable (resetToIdle : Bool) (exit : EngineExit)

def Wake.runsOn (w : Wake) (phase : Phase) : Controller × Option Phase :=
  w.found.disconnectAsync resetToIdle phase (exit.answers w.calls)

/-- The teardown runs to where it is suspended next, or returns. -/
def climb : Step Ladder Wake := fun l w =>
  l.phase.map fun phase =>
    let next := (w.runsOn resetToIdle exit phase).2
    { phase := next
      asked := (next.bind Phase.request).toList ++ l.asked
      helper := if phase.request = some .socketStop then w.found.helperStatus else l.helper }

namespace Ladder

/-- If the teardown sends SIGKILL in this step, then it has asked in every gentler way that
was open to it, and the engine has outlived them all. -/
def Escalates (l : Ladder) (w : Wake) : Prop :=
  ∀ phase ∈ l.phase,
    (w.runsOn resetToIdle exit phase).2.bind Phase.request = some .sigkill →
      .socketStop ∈ l.asked ∧ (.helperStop ∈ l.asked ∨ l.helper ≠ .enabled) ∧
        .sigterm ∈ l.asked ∧ ∀ request ∈ l.asked, exit.outlives request = true

/-- If the teardown raises the warning in this step, then the engine lives, or it was ended
by SIGKILL and the helper has not restored the network. -/
def Truthful (l : Ladder) (w : Wake) : Prop :=
  ∀ phase ∈ l.phase, w.found.pendingRouteRestore = false →
    (w.runsOn resetToIdle exit phase).1.pendingRouteRestore = true →
      exit = .never ∨
        exit = .afterKill ∧ ¬ ∃ proc, phase = .restoring proc ∧ w.calls.restored = true

end Ladder

/-- The helper makes up for an engine that this step finds gone. -/
def Phase.Recovers (w : Wake) : Phase → Prop
  | .start | .waiting | .stopEngine _ _ => True
  | .waitStop _ _ | .waitHelper _ _ =>
      exit.outlives .helperStop = false → w.found.helperStatus = .enabled
  | .waitTerm _ _ | .waitKill _ _ => w.found.helperStatus = .enabled
  | .restoring _ => w.calls.restored = true

/-- The engine does not exit before SIGKILL, or the warning is there already, or the helper
is enabled when the engine is found gone, and restores the network. -/
def Ladder.Recovers (l : Ladder) (w : Wake) : Prop :=
  ∀ phase ∈ l.phase, exit.outlives .sigterm = true ∨ w.found.pendingRouteRestore = true ∨
    phase.Recovers exit w

end

/-! ## When the warning is raised -/

namespace Controller

section

variable (s : Controller) (resetToIdle : Bool) (pid : Int) (proc : Option Nat) (calls : Calls)

theorem endDisconnect_pendingRouteRestore :
    (s.endDisconnect resetToIdle proc calls).pendingRouteRestore = s.pendingRouteRestore := by
  have stopped : (s.terminateProcess proc calls).pendingRouteRestore = s.pendingRouteRestore := by
    cases proc with
    | none => rfl
    | some proc =>
        rw [terminateProcess]
        split <;> rfl
  have shown (s : Controller) :
      (s.showIdle resetToIdle).pendingRouteRestore = s.pendingRouteRestore := by
    rw [showIdle]
    split <;> rfl
  exact (shown _).trans stopped

theorem stopSession_pendingRouteRestore :
    s.stopSession.pendingRouteRestore = s.pendingRouteRestore := by
  rw [stopSession]
  split <;> rfl

theorem beginDisconnect_pendingRouteRestore :
    (s.beginDisconnect resetToIdle calls).1.pendingRouteRestore = s.pendingRouteRestore := by
  have cancelled (s : Controller) :
      s.cancelWatchdog.pendingRouteRestore = s.pendingRouteRestore := by
    rw [cancelWatchdog]
    split <;> rfl
  have shown (s : Controller) :
      (s.showStopping resetToIdle).pendingRouteRestore = s.pendingRouteRestore := by
    rw [showStopping]
    split <;> rfl
  have restored (s : Controller) :
      (s.restoreWifi calls.markerPresent).pendingRouteRestore = s.pendingRouteRestore := by
    rw [restoreWifi]
    split <;> rfl
  exact (stopSession_pendingRouteRestore _).trans ((restored _).trans ((shown _).trans (cancelled _)))

theorem afterKill_raises_iff (clear : s.pendingRouteRestore = false) :
    (s.afterKill resetToIdle proc calls).1.pendingRouteRestore = true ↔
      calls.aliveAtEnd = true ∨ s.helperStatus ≠ .enabled := by
  rw [afterKill]
  cases calls.aliveAtEnd with
  | true => simp [endDisconnect_pendingRouteRestore]
  | false =>
      by_cases helped : s.helperStatus = .enabled
      · simp [helped, note, clear]
      · simp [helped, endDisconnect_pendingRouteRestore]

theorem afterTerm_raises_iff (clear : s.pendingRouteRestore = false) :
    (s.afterTerm resetToIdle pid proc calls).1.pendingRouteRestore = true ↔
      calls.aliveBeforeKill = false ∧ (calls.aliveAtEnd = true ∨ s.helperStatus ≠ .enabled) := by
  rw [afterTerm]
  cases calls.aliveBeforeKill with
  | true => simp [note, clear]
  | false => simp [afterKill_raises_iff s resetToIdle proc calls clear]

theorem afterHelper_raises_iff (clear : s.pendingRouteRestore = false) :
    (s.afterHelper resetToIdle pid proc calls).1.pendingRouteRestore = true ↔
      calls.aliveBeforeTerm = false ∧ calls.aliveBeforeKill = false ∧
        (calls.aliveAtEnd = true ∨ s.helperStatus ≠ .enabled) := by
  rw [afterHelper]
  cases calls.aliveBeforeTerm with
  | true => simp [note, clear]
  | false => simp [afterTerm_raises_iff s resetToIdle pid proc calls clear]

/-- No phase but the last ones raises the warning. -/
theorem start_pendingRouteRestore :
    (s.disconnectAsync resetToIdle .start calls).1.pendingRouteRestore = s.pendingRouteRestore := by
  rw [disconnectAsync]
  split
  · rfl
  · dsimp only
    split
    · exact beginDisconnect_pendingRouteRestore s resetToIdle calls
    · exact (endDisconnect_pendingRouteRestore _ resetToIdle _ calls).trans
        (beginDisconnect_pendingRouteRestore s resetToIdle calls)

theorem waiting_pendingRouteRestore :
    (s.disconnectAsync resetToIdle .waiting calls).1.pendingRouteRestore =
      s.pendingRouteRestore := by
  rw [disconnectAsync]
  split
  · rfl
  · rw [showIdle]
    split <;> rfl

theorem waitStop_raises_iff (clear : s.pendingRouteRestore = false) :
    (s.disconnectAsync resetToIdle (.waitStop pid proc) calls).1.pendingRouteRestore = true ↔
      ¬ (calls.aliveBeforeHelper = true ∧ s.helperStatus = .enabled) ∧
        calls.aliveBeforeTerm = false ∧ calls.aliveBeforeKill = false ∧
        (calls.aliveAtEnd = true ∨ s.helperStatus ≠ .enabled) := by
  rw [disconnectAsync]
  by_cases asks : calls.aliveBeforeHelper = true ∧ s.helperStatus = .enabled
  · simp [asks, note, clear]
  · rw [if_neg asks, afterHelper_raises_iff s resetToIdle pid proc calls clear]
    simp [asks]

end

end Controller

section

variable (resetToIdle : Bool) {exit : EngineExit} {w : Wake}

/-- Where the engine exits before SIGKILL, the warning is raised unless the helper makes up
for it. -/
theorem raised_iff (early : exit.outlives .sigterm = false)
    (clear : w.found.pendingRouteRestore = false) (phase : Phase) :
    (w.runsOn resetToIdle exit phase).1.pendingRouteRestore = true ↔
      ¬ phase.Recovers exit w := by
  have gone : exit.outlives .sigkill = false := by
    cases exit with
    | never | afterKill => cases early
    | afterStop | afterHelper | afterTerm => rfl
  cases phase with
  | start =>
      rw [Wake.runsOn, Controller.start_pendingRouteRestore, clear]
      simp [Phase.Recovers]
  | waiting =>
      rw [Wake.runsOn, Controller.waiting_pendingRouteRestore, clear]
      simp [Phase.Recovers]
  | waitStop pid proc =>
      rw [Wake.runsOn, Controller.waitStop_raises_iff _ _ _ _ _ clear]
      simp only [EngineExit.answers, Phase.Recovers, early, gone, Bool.false_eq_true, false_or,
        true_and, Classical.not_imp]
      constructor
      · rintro ⟨-, exits, unhelped⟩
        exact ⟨exits, unhelped⟩
      · rintro ⟨exits, unhelped⟩
        exact ⟨fun asks => unhelped asks.2, exits, unhelped⟩
  | stopEngine pid proc =>
      simp [Wake.runsOn, Controller.disconnectAsync, Phase.Recovers, clear]
  | waitHelper pid proc =>
      rw [Wake.runsOn, Controller.disconnectAsync,
        Controller.afterHelper_raises_iff _ _ _ _ _ clear]
      simp [EngineExit.answers, Phase.Recovers, early, gone]
  | waitTerm pid proc =>
      rw [Wake.runsOn, Controller.disconnectAsync, Controller.afterTerm_raises_iff _ _ _ _ _ clear]
      simp [EngineExit.answers, Phase.Recovers, early, gone]
  | waitKill pid proc =>
      rw [Wake.runsOn, Controller.disconnectAsync, Controller.afterKill_raises_iff _ _ _ _ clear]
      simp [EngineExit.answers, Phase.Recovers, gone]
  | restoring proc =>
      rw [Wake.runsOn, Controller.disconnectAsync]
      dsimp only
      rw [Controller.endDisconnect_pendingRouteRestore]
      simp [EngineExit.answers, Phase.Recovers]

theorem restored_clear {proc : Option Nat} (restored : w.calls.restored = true) :
    (w.runsOn resetToIdle exit (.restoring proc)).1.pendingRouteRestore = false := by
  rw [Wake.runsOn, Controller.disconnectAsync]
  dsimp only
  rw [Controller.endDisconnect_pendingRouteRestore]
  exact congrArg not restored

theorem truthful_iff_recovers (l : Ladder) (w : Wake) :
    l.Truthful resetToIdle exit w ↔ l.Recovers exit w := by
  apply forall₂_congr
  intro phase _
  cases clear : w.found.pendingRouteRestore with
  | true => simp
  | false =>
      cases early : exit.outlives .sigterm with
      | true =>
          apply iff_of_true _ (.inl rfl)
          intro _ raised
          cases exit with
          | never => exact .inl rfl
          | afterKill =>
              refine .inr ⟨rfl, ?_⟩
              rintro ⟨proc, rfl, restored⟩
              rw [restored_clear resetToIdle restored] at raised
              contradiction
          | afterStop | afterHelper | afterTerm => cases early
      | false =>
          have lives : exit ≠ .never := by
            rintro rfl
            cases early
          have killed : exit ≠ .afterKill := by
            rintro rfl
            cases early
          simp [raised_iff resetToIdle early clear phase, lives, killed]

end

/-! ## When SIGKILL is sent -/

/-- What has been asked where a teardown is suspended. -/
def Phase.Climbed (asked : List Request) (helper : HelperStatus) : Phase → Prop
  | .start | .waiting => asked = []
  | .waitStop _ _ => asked = [.socketStop]
  | .stopEngine _ _ | .waitHelper _ _ => asked = [.helperStop, .socketStop]
  | .waitTerm _ _ =>
      asked = [.sigterm, .helperStop, .socketStop] ∨
        asked = [.sigterm, .socketStop] ∧ helper ≠ .enabled
  | .waitKill _ _ | .restoring _ => True

theorem outlives_gentler {exit : EngineExit} (lives : exit.outlives .sigterm = true) :
    ∀ request, request ≠ .sigkill → exit.outlives request = true := by
  intro request gentler
  cases exit with
  | afterStop | afterHelper | afterTerm => cases lives
  | never => rfl
  | afterKill =>
      cases request with
      | sigkill => contradiction
      | socketStop | helperStop | sigterm => rfl

theorem outlives_socketStop {exit : EngineExit} (lives : exit.outlives .helperStop = true) :
    exit.outlives .socketStop = true := by
  cases exit with
  | afterStop => cases lives
  | afterHelper | afterTerm | afterKill | never => rfl

theorem outlives_helperStop {exit : EngineExit} (lives : exit.outlives .sigterm = true) :
    exit.outlives .helperStop = true :=
  outlives_gentler lives .helperStop nofun

section

variable (resetToIdle : Bool) {exit : EngineExit} {asked : List Request} {helper : HelperStatus}

namespace Controller

variable (s : Controller) (pid : Int) (proc : Option Nat) (calls : Calls)

/-- A teardown begins with the socket, or waits for another one. -/
theorem start_phase {reached : Phase}
    (next : (s.disconnectAsync resetToIdle .start calls).2 = some reached) :
    reached = .waiting ∨ ∃ pid proc, reached = .waitStop pid proc := by
  rw [disconnectAsync] at next
  split at next
  · exact .inl (Option.some.inj next).symm
  · dsimp only at next
    split at next
    · exact .inr ⟨_, _, (Option.some.inj next).symm⟩
    · cases next

theorem waiting_phase {reached : Phase}
    (next : (s.disconnectAsync resetToIdle .waiting calls).2 = some reached) :
    reached = .waiting := by
  rw [disconnectAsync] at next
  split at next
  · exact (Option.some.inj next).symm
  · cases next

/-- Behind SIGKILL the teardown at most awaits the helper. -/
theorem afterKill_phase {reached : Phase}
    (next : (s.afterKill resetToIdle proc calls).2 = some reached) :
    reached = .restoring proc := by
  rw [afterKill] at next
  split at next
  · cases next
  · split at next
    · exact (Option.some.inj next).symm
    · cases next

theorem afterTerm_phase {reached : Phase}
    (next : (s.afterTerm resetToIdle pid proc calls).2 = some reached) :
    (reached = .waitKill pid proc ∧ calls.aliveBeforeKill = true) ∨
      reached = .restoring proc := by
  rw [afterTerm] at next
  split at next
  · exact .inl ⟨(Option.some.inj next).symm, ‹_›⟩
  · exact .inr (afterKill_phase resetToIdle s proc calls next)

/-- Behind the helper's turn an engine that lives gets a SIGTERM, and no other one a
SIGKILL. -/
theorem afterHelper_phase {reached : Phase}
    (next : (s.afterHelper resetToIdle pid proc (exit.answers calls)).2 = some reached) :
    (reached = .waitTerm pid proc ∧ exit.outlives .helperStop = true) ∨
      reached = .restoring proc := by
  rw [afterHelper] at next
  split at next
  · exact .inl ⟨(Option.some.inj next).symm, ‹_›⟩
  · rename_i gone
    rcases afterTerm_phase resetToIdle s pid proc _ next with ⟨-, lives⟩ | restoring
    · exact absurd (outlives_helperStop lives) gone
    · exact .inr restoring

end Controller

theorem afterHelper_climbed (s : Controller) (pid : Int) (proc : Option Nat) (calls : Calls)
    (turn : exit.outlives .helperStop = true →
      asked = [.helperStop, .socketStop] ∨ asked = [.socketStop] ∧ helper ≠ .enabled)
    {reached : Phase}
    (next : (s.afterHelper resetToIdle pid proc (exit.answers calls)).2 = some reached) :
    reached.Climbed (reached.request.toList ++ asked) helper := by
  rcases s.afterHelper_phase resetToIdle pid proc calls next with ⟨rfl, lives⟩ | rfl
  · rcases turn lives with helped | ⟨alone, unhelped⟩
    · rw [helped]
      exact .inl rfl
    · rw [alone]
      exact .inr ⟨rfl, unhelped⟩
  · trivial

/-- A step up the ladder. -/
theorem runsOn_climbed {w : Wake} {phase reached : Phase}
    (climbed : phase.Climbed asked helper)
    (next : (w.runsOn resetToIdle exit phase).2 = some reached) :
    reached.Climbed (reached.request.toList ++ asked)
      (if phase.request = some .socketStop then w.found.helperStatus else helper) := by
  cases phase with
  | start =>
      rcases w.found.start_phase resetToIdle _ next with rfl | ⟨pid, proc, rfl⟩
      · exact climbed
      · rw [show asked = [] from climbed]
        rfl
  | waiting =>
      rw [w.found.waiting_phase resetToIdle _ next]
      exact climbed
  | waitStop pid proc =>
      rw [show asked = [.socketStop] from climbed, Phase.request, if_pos rfl]
      rw [Wake.runsOn, Controller.disconnectAsync] at next
      split at next
      · cases next
        rfl
      · rename_i unasked
        apply afterHelper_climbed resetToIdle w.found pid proc w.calls _ next
        intro lives
        exact .inr ⟨rfl, fun helped => unasked ⟨outlives_socketStop lives, helped⟩⟩
  | stopEngine pid proc =>
      cases next
      exact climbed
  | waitHelper pid proc =>
      exact afterHelper_climbed resetToIdle w.found pid proc w.calls (fun _ => .inl climbed) next
  | waitTerm pid proc =>
      rcases w.found.afterTerm_phase resetToIdle pid proc _ next with ⟨rfl, -⟩ | rfl
      · trivial
      · trivial
  | waitKill pid proc =>
      rw [w.found.afterKill_phase resetToIdle proc _ next]
      trivial
  | restoring proc => cases next

/-- SIGKILL comes behind SIGTERM only. -/
theorem runsOn_sigkill {w : Wake} {phase reached : Phase}
    (next : (w.runsOn resetToIdle exit phase).2 = some reached)
    (kills : reached.request = some .sigkill) :
    (∃ pid proc, phase = .waitTerm pid proc) ∧ exit.outlives .sigterm = true := by
  cases phase with
  | start =>
      rcases w.found.start_phase resetToIdle _ next with rfl | ⟨pid, proc, rfl⟩
      · cases kills
      · cases kills
  | waiting =>
      rw [w.found.waiting_phase resetToIdle _ next] at kills
      cases kills
  | waitStop pid proc =>
      rw [Wake.runsOn, Controller.disconnectAsync] at next
      split at next
      · cases next
        cases kills
      · rcases w.found.afterHelper_phase resetToIdle pid proc w.calls next with ⟨rfl, -⟩ | rfl
        · cases kills
        · cases kills
  | stopEngine pid proc =>
      cases next
      cases kills
  | waitHelper pid proc =>
      rcases w.found.afterHelper_phase resetToIdle pid proc w.calls next with ⟨rfl, -⟩ | rfl
      · cases kills
      · cases kills
  | waitTerm pid proc =>
      rcases w.found.afterTerm_phase resetToIdle pid proc _ next with ⟨rfl, lives⟩ | rfl
      · exact ⟨⟨pid, proc, rfl⟩, lives⟩
      · cases kills
  | waitKill pid proc =>
      rw [w.found.afterKill_phase resetToIdle proc _ next] at kills
      cases kills
  | restoring proc => cases next

namespace Ladder

/-- Where the call is suspended, it has climbed so far. -/
def Climbed (l : Ladder) : Prop :=
  ∀ phase ∈ l.phase, phase.Climbed l.asked l.helper

theorem Climbed.climb {l next : Ladder} {w : Wake} (climbed : l.Climbed)
    (stepped : App.climb resetToIdle exit l w = some next) : next.Climbed := by
  obtain ⟨phase, suspended, rfl⟩ := Option.map_eq_some_iff.mp stepped
  intro reached later
  have up := runsOn_climbed resetToIdle (climbed phase suspended) later
  rw [show (w.runsOn resetToIdle exit phase).2 = some reached from later]
  exact up

theorem Climbed.escalates {l : Ladder} {w : Wake} (climbed : l.Climbed) :
    l.Escalates resetToIdle exit w := by
  intro phase suspended kills
  obtain ⟨reached, next, sigkill⟩ := Option.bind_eq_some_iff.mp kills
  obtain ⟨⟨pid, proc, rfl⟩, lives⟩ := runsOn_sigkill resetToIdle next sigkill
  have outlived := outlives_gentler lives
  rcases climbed _ suspended with helped | ⟨alone, unhelped⟩
  · rw [helped]
    refine ⟨by simp, .inl (by simp), by simp, ?_⟩
    simp [outlived]
  · rw [alone]
    refine ⟨by simp, .inr unhelped, by simp, ?_⟩
    simp [outlived]

end Ladder

end

/-- A teardown never sends SIGKILL too early, and the warning it raises tells the truth in
exactly the runs in which the helper makes up for every engine that exits before SIGKILL. -/
theorem routeRestore_truthful_iff (resetToIdle : Bool) (exit : EngineExit) (wakes : List Wake) :
    Guarded (climb resetToIdle exit)
        (fun l w => l.Escalates resetToIdle exit w ∧ l.Truthful resetToIdle exit w) {} wakes ↔
      Guarded (climb resetToIdle exit) (fun l w => l.Recovers exit w) {} wakes := by
  have start : ({} : Ladder).Climbed := by
    rintro phase ⟨⟩
    rfl
  apply guarded_iff (fun _ _ _ climbed stepped => climbed.climb resetToIdle stepped) _ start
  intro l w climbed
  rw [truthful_iff_recovers]
  exact and_iff_right (climbed.escalates resetToIdle)

/-! ## The tasks of the controller -/

namespace Controller

variable (l10n : L10n) (s : Controller) (job : Nat) (calls : Calls)

theorem dismiss_pendingRouteRestore (confirmed : Bool) :
    (s.dismiss confirmed).pendingRouteRestore = s.pendingRouteRestore := by
  rw [dismiss]
  split <;> rfl

/-- What awaits a teardown leaves the warning alone. -/
theorem afterDisconnect_pendingRouteRestore (purpose : Purpose) :
    (s.afterDisconnect l10n job purpose calls).pendingRouteRestore = s.pendingRouteRestore := by
  cases purpose with
  | disconnect resetToIdle | removeHelper => rfl
  | connect attempt =>
      unfold afterDisconnect
      dsimp only
      rw [openConnect]
      split
      · rfl
      · cases calls.listenError with
        | some text => exact stopSession_pendingRouteRestore _
        | none =>
            dsimp only [openEngineSession]
            split
            · rfl
            · exact dismiss_pendingRouteRestore _ false

variable {l10n s job} {purpose : Purpose} {phase : Phase} {next : Controller} {exit : EngineExit}

/-- A task that tears down climbs in each of its steps. -/
theorem resume_climbs (found : s.jobs[job]? = some ⟨purpose, .tearDown phase⟩)
    (stepped : s.resume l10n job (exit.answers calls) = some next) :
    next.pendingRouteRestore =
        (Wake.runsOn purpose.resetToIdle exit ⟨s, calls⟩ phase).1.pendingRouteRestore ∧
      ∀ reached ∈ (Wake.runsOn purpose.resetToIdle exit ⟨s, calls⟩ phase).2,
        next.jobs[job]? = some ⟨purpose, .tearDown reached⟩ := by
  have fades := (disconnectAsync_move s purpose.resetToIdle (exit.answers calls) phase).fades
  rw [resume_tearDown found] at stepped
  rw [Wake.runsOn]
  dsimp only
  rcases result : s.disconnectAsync purpose.resetToIdle phase (exit.answers calls) with
    ⟨torn, _ | reached⟩
  · rw [result] at stepped
    cases stepped
    exact ⟨afterDisconnect_pendingRouteRestore l10n torn job _ purpose, nofun⟩
  · rw [result] at stepped fades
    cases stepped
    constructor
    · rfl
    · rintro _ ⟨⟩
      have jobs : torn.jobs[job]? = some ⟨purpose, .tearDown phase⟩ := by
        rw [fades.jobs]
        exact found
      simp [Controller.setStage, jobs]

end Controller

/-- An engine that was started with a password, without the helper, is to be stopped. -/
def stopsOnRequest : List Label :=
  [.poll [phone], .connectSelected true, .resume 0 {}, .answer true, .resume 0 {},
    .thread 0 .start, .thread 0 .accept, .thread 0 .keepClient,
    .thread 0 (.line (.status { state := .connected, pid := 77 })), .receive 0 0, .disconnect]

/-- The engine exits on the request over the socket, and the warning is raised. -/
theorem stopsOnRequest_warned :
    ∃ before behind,
      run (Controller.step plainTexts) (.initial true .unavailable) stopsOnRequest = some before ∧
      before.resume plainTexts 1 {} = some behind ∧
      (behind.resume plainTexts 1 {}).map Controller.pendingRouteRestore = some true ∧
      ¬ Guarded (climb true .afterStop)
        (fun l w => l.Escalates true .afterStop w ∧ l.Truthful true .afterStop w) {}
        [⟨before, {}⟩, ⟨behind, {}⟩] := by
  have asks : (run (Controller.step plainTexts) (.initial true .unavailable) stopsOnRequest).map
      (fun s => (s.disconnectAsync true .start {}).2) = some (some (.waitStop 77 (some 0))) := by
    decide +kernel
  have clears : (run (Controller.step plainTexts) (.initial true .unavailable)
      (stopsOnRequest ++ [.resume 1 {}])).map Controller.pendingRouteRestore = some false := by
    decide +kernel
  have warns : (run (Controller.step plainTexts) (.initial true .unavailable)
      (stopsOnRequest ++ [.resume 1 {}])).map (fun s =>
        ((s.disconnectAsync true (.waitStop 77 (some 0)) {}).1.pendingRouteRestore,
          (s.resume plainTexts 1 {}).map Controller.pendingRouteRestore)) =
            some (true, some true) := by
    decide +kernel
  obtain ⟨before, ran, phase⟩ := Option.map_eq_some_iff.mp asks
  rw [run_concat ran] at clears warns
  obtain ⟨behind, stepped, clear⟩ := Option.map_eq_some_iff.mp clears
  rw [stepped] at warns
  obtain ⟨raised, shown⟩ := Prod.mk.inj (Option.some.inj warns)
  refine ⟨before, behind, ran, stepped, shown, ?_⟩
  rintro ⟨-, later⟩
  have next : climb true .afterStop {} ⟨before, {}⟩ =
      some ⟨some (.waitStop 77 (some 0)), [.socketStop], .unavailable⟩ := by
    have reached : (Wake.runsOn true .afterStop ⟨before, {}⟩ .start).2 =
        some (.waitStop 77 (some 0)) := phase
    simp only [climb, Option.map_some, reached]
    rfl
  obtain ⟨⟨-, truthful⟩, -⟩ := later _ next
  rcases truthful _ rfl clear raised with lives | ⟨killed, -⟩
  · cases lives
  · cases killed

end WiredTethering.App
