import WiredTethering.App.Teardown
import WiredTethering.App.Ledger

/-!
# The controller keeps a ledger

What `connectSelected` and `disconnectAsync` do to `connectedLocation`,
`restoreWifiOnDisconnect` and `disconnectRunning`, along every run: each step of the
controller is none or some steps of the ledger.
-/

namespace WiredTethering.App

open WiredTethering.Transition

def Purpose.gen : Purpose → Option Nat
  | .connect attempt => some attempt.gen
  | .disconnect _ | .removeHelper => none

def Stage.duty : Stage → Duty
  | .tearDown .start => .fresh
  | .tearDown .waiting => .waiting
  | .tearDown _ => .tearing
  | .startConnect _ | .request _ | .answered _ _ => .opening
  | .finished => .finished

def Job.duty (j : Job) : Option Nat × Duty :=
  (j.purpose.gen, j.stage.duty)

def Entry.mark : Entry → Option (Mark UInt32)
  | .recorded location wifi => some (.recorded location wifi)
  | .tearsDown => some .begun
  | .tornDown => some .ended
  | _ => none

def Label.isPoll : Label → Bool
  | .poll _ => true
  | _ => false

namespace Controller

/-- The ledger that the controller keeps. -/
def ledger (s : Controller) : Ledger UInt32 where
  gen := s.connectGen
  record := ⟨s.connectedLocation, s.restoreWifiOnDisconnect, s.disconnectRunning⟩
  missing := s.usbMissingPolls
  marks := s.journal.filterMap Entry.mark
  duties := s.jobs.map Job.duty

section

variable (s : Controller) (resetToIdle : Bool) (proc : Option Nat) (calls : Calls)

theorem cancelWatchdog_ledger : s.cancelWatchdog.ledger = s.ledger := by
  rw [cancelWatchdog]
  split <;> rfl

theorem stopSession_ledger : s.stopSession.ledger = s.ledger := by
  rw [stopSession]
  split <;> rfl

theorem showIdle_ledger : (s.showIdle resetToIdle).ledger = s.ledger := by
  rw [showIdle]
  split <;> rfl

theorem showStopping_ledger : (s.showStopping resetToIdle).ledger = s.ledger := by
  rw [showStopping]
  split <;> rfl

theorem terminateProcess_ledger : (s.terminateProcess proc calls).ledger = s.ledger := by
  cases proc with
  | none => rfl
  | some proc =>
      rw [terminateProcess]
      split <;> rfl

theorem restoreWifi_ledger (markerPresent : Bool) : (s.restoreWifi markerPresent).ledger =
    { s.ledger with record := { s.ledger.record with wifi := false } } := by
  rw [restoreWifi]
  split <;> rfl

theorem beginDisconnect_ledger :
    (s.beginDisconnect resetToIdle calls).1.ledger = s.ledger.begin := by
  rw [beginDisconnect]
  dsimp only
  rw [stopSession_ledger, restoreWifi_ledger, showStopping_ledger, cancelWatchdog_ledger]
  rfl

theorem endDisconnect_ledger :
    (s.endDisconnect resetToIdle proc calls).ledger = s.ledger.finish := by
  have torn (s : Controller) :
      ({ s with disconnectRunning := false }.note .tornDown).ledger =
        { s.ledger with
          record := { s.ledger.record with running := false }
          marks := .ended :: s.ledger.marks } := rfl
  have cleared (s : Controller) :
      { s with
        privilegedProcess := none, enginePid := 0, connectedLocation := 0
        usbMissingPolls := 0 }.ledger =
          { s.ledger with record := { s.ledger.record with location := 0 }, missing := 0 } := rfl
  rw [endDisconnect]
  dsimp only
  rw [torn, showIdle_ledger, cleared, terminateProcess_ledger]
  rfl

theorem setStage_ledger (job : Nat) (stage : Stage) :
    (s.setStage job stage).ledger = s.ledger.turn job stage.duty := by
  have duties : (s.jobs.modify job fun j => { j with stage := stage }).map Job.duty =
      (s.jobs.map Job.duty).modify job fun d => (d.1, stage.duty) := by
    apply List.ext_getElem?
    intro other
    by_cases same : job = other
    · subst same
      cases found : s.jobs[job]? with
      | none => simp [found]
      | some j => simp [found, Job.duty]
    · simp [same]
  exact congrArg (fun duties => { s.ledger with duties := duties }) duties

theorem modify_duties {change : Job → Job} (same : ∀ j, (change j).duty = j.duty)
    (jobs : List Job) (job : Nat) : (jobs.modify job change).map Job.duty = jobs.map Job.duty := by
  apply List.ext_getElem?
  intro other
  rw [List.getElem?_map, List.getElem?_map, List.getElem?_modify]
  cases jobs[other]? with
  | none => rfl
  | some j =>
      by_cases here : job = other
      · simp [here, same]
      · simp [here]

/-- An answered prompt is no other duty than one that waits for the answer. -/
theorem dismiss_ledger (confirmed : Bool) : (s.dismiss confirmed).ledger = s.ledger := by
  rw [dismiss]
  cases s.continuation with
  | none => rfl
  | some job =>
      refine congrArg (fun duties => { s.ledger with duties := duties })
        (modify_duties ?_ s.jobs job)
      rintro ⟨purpose, stage⟩
      cases stage with
      | request session => rfl
      | tearDown phase | startConnect session | answered session confirmed | finished => rfl

theorem request_ledger (job session : Nat) :
    (s.request job session).ledger = s.ledger.turn job .opening := by
  rw [request, setStage_ledger]
  exact congrArg (fun l => l.turn job .opening) (dismiss_ledger s false)

theorem spawn_ledger (purpose : Purpose) :
    (s.spawn purpose).ledger =
      { s.ledger with duties := s.ledger.duties ++ [(purpose.gen, .fresh)] } := by
  have duties : (s.jobs ++ [(⟨purpose, .tearDown .start⟩ : Job)]).map Job.duty =
      s.jobs.map Job.duty ++ [(purpose.gen, .fresh)] := List.map_append
  exact congrArg (fun duties => { s.ledger with duties := duties }) duties

theorem failSession_ledger (reason : String) :
    (s.failSession reason).ledger = s.ledger.spawn (s.ledger.gen + 1) :=
  spawn_ledger _ (.disconnect false)

theorem openEngineSession_ledger (listenError : Option String) :
    (s.openEngineSession listenError).1.ledger = s.ledger := by
  cases listenError with
  | none => rfl
  | some text => rfl

theorem failConnect_ledger (l10n : L10n) (text : String) :
    (s.failConnect l10n text).ledger = s.ledger :=
  stopSession_ledger _

/-- Behind its teardown an attempt opens its session or is finished. -/
theorem openConnect_ledger (l10n : L10n) (job : Nat) (attempt : Attempt) :
    ∃ duty : Duty, duty.behind = true ∧
      (s.openConnect l10n job attempt calls).ledger = s.ledger.turn job duty := by
  rw [openConnect]
  split
  · exact ⟨.finished, rfl, setStage_ledger s job .finished⟩
  · dsimp only
    have opened := openEngineSession_ledger
      { s with userStopping := false, helperStatus := calls.helperStatus } calls.listenError
    change _ = s.ledger at opened
    rcases ran : ({ s with userStopping := false, helperStatus := calls.helperStatus }
      : Controller).openEngineSession calls.listenError with ⟨next, text | session⟩
    · rw [ran] at opened
      refine ⟨.finished, rfl, ?_⟩
      dsimp only
      rw [setStage_ledger, failConnect_ledger, opened]
      rfl
    · rw [ran] at opened
      refine ⟨.opening, rfl, ?_⟩
      dsimp only
      split
      · rw [setStage_ledger, opened]
        rfl
      · rw [request_ledger, opened]

/-- What awaited a teardown is behind it. -/
theorem afterDisconnect_ledger (l10n : L10n) (job : Nat) (purpose : Purpose) :
    ∃ duty : Duty, duty.behind = true ∧
      (s.afterDisconnect l10n job purpose calls).ledger = s.ledger.turn job duty := by
  cases purpose with
  | connect attempt => exact openConnect_ledger s calls l10n job attempt
  | disconnect resets => exact ⟨.finished, rfl, setStage_ledger s job .finished⟩
  | removeHelper => exact ⟨.finished, rfl, setStage_ledger _ job .finished⟩

end

theorem inner_duty {phase : Phase} (inner : phase.inner = true) :
    (Stage.tearDown phase).duty = .tearing := by
  cases phase with
  | start => contradiction
  | waiting => contradiction
  | _ => rfl

theorem outer_duty {phase : Phase} (outer : phase.inner = false) :
    (Stage.tearDown phase).duty = .fresh ∨ (Stage.tearDown phase).duty = .waiting := by
  cases phase with
  | start => exact .inl rfl
  | waiting => exact .inr rfl
  | _ => contradiction

theorem duty_found {s : Controller} {job : Nat} {j : Job} (found : s.jobs[job]? = some j) :
    Does s.ledger.duties job j.purpose.gen j.stage.duty := by
  simp [Does, ledger, found, Job.duty]

/-- A teardown on its way, or what it gives way to, is some steps of the ledger. -/
theorem tearDown_ledger (l10n : L10n) {s : Controller} {job : Nat} {purpose : Purpose}
    {phase : Phase} (calls : Calls)
    (found : s.jobs[job]? = some ⟨purpose, .tearDown phase⟩) :
    Relation.ReflTransGen Ledger.Step s.ledger
      (match s.disconnectAsync purpose.resetToIdle phase calls with
        | (s, some phase) => s.setStage job (.tearDown phase)
        | (s, none) => s.afterDisconnect l10n job purpose calls).ledger := by
  have does := duty_found found
  have move := disconnectAsync_move s purpose.resetToIdle calls phase
  generalize s.disconnectAsync purpose.resetToIdle phase calls = result at move
  cases move with
  | waits _ outer running =>
      dsimp only
      rw [setStage_ledger]
      exact .single (.waits s.ledger job _ _ does running (outer_duty outer))
  | begins next inner free =>
      dsimp only
      rw [setStage_ledger, beginDisconnect_ledger, inner_duty inner]
      exact .single (.begins s.ledger job _ does free)
  | passes proc free =>
      obtain ⟨duty, behind, after⟩ := afterDisconnect_ledger
        ((s.beginDisconnect purpose.resetToIdle calls).1.endDisconnect purpose.resetToIdle proc
          calls) calls l10n job purpose
      have last : (s.ledger.begin.turn job .tearing).finish.turn job duty =
          s.ledger.begin.finish.turn job duty :=
        Ledger.turn_turn s.ledger.begin.finish job .tearing duty
      dsimp only
      rw [after, endDisconnect_ledger, beginDisconnect_ledger, ← last]
      apply Relation.ReflTransGen.tail (.single (.begins s.ledger job _ does free))
      exact .ends _ job _ duty (Ledger.turn_same does) behind
  | returns free =>
      obtain ⟨duty, behind, after⟩ := afterDisconnect_ledger (s.showIdle purpose.resetToIdle) calls
        l10n job purpose
      dsimp only
      rw [after, showIdle_ledger]
      exact .single (.returns s.ledger job _ duty does free behind)
  | goesOn _ next before inner =>
      rw [inner_duty before] at does
      dsimp only
      rw [setStage_ledger, inner_duty inner, Ledger.turn_self does]
  | requests _ next e before inner request =>
      have unmarked : (s.note e).ledger = s.ledger := by
        cases e with
        | askedHelper => rfl
        | sigterm pid => rfl
        | sigkill pid => rfl
        | _ => contradiction
      rw [inner_duty before] at does
      dsimp only
      rw [setStage_ledger, inner_duty inner, unmarked, Ledger.turn_self does]
  | ends _ before pending proc =>
      obtain ⟨duty, behind, after⟩ := afterDisconnect_ledger
        ({ s with pendingRouteRestore := pending }.endDisconnect purpose.resetToIdle proc calls)
        calls l10n job purpose
      rw [inner_duty before] at does
      dsimp only
      rw [after, endDisconnect_ledger]
      exact .single (.ends s.ledger job _ duty does behind)

theorem answerConnect_ledger (l10n : L10n) (s : Controller) (job : Nat) (attempt : Attempt)
    (confirmed : Bool) (calls : Calls) :
    (s.answerConnect l10n job attempt confirmed calls).ledger = s.ledger := by
  rw [answerConnect]
  split
  · exact stopSession_ledger _
  · split
    · rfl
    · split
      · exact failConnect_ledger s l10n _
      · rfl

/-- A task that runs on is some steps of the ledger. -/
theorem resume_ledger {l10n : L10n} {s next : Controller} {job : Nat} {calls : Calls}
    (stepped : s.resume l10n job calls = some next) :
    Relation.ReflTransGen Ledger.Step s.ledger next.ledger := by
  cases found : s.jobs[job]? with
  | none =>
      rw [resume, found] at stepped
      contradiction
  | some j =>
      rcases j with ⟨purpose, stage⟩
      have does := duty_found found
      cases stage with
      | tearDown phase =>
          rw [resume_tearDown found] at stepped
          cases stepped
          exact tearDown_ledger l10n calls found
      | startConnect session =>
          cases purpose with
          | connect attempt =>
              rw [resume_startConnect found] at stepped
              cases stepped
              cases calls.startConnect with
              | ok pid =>
                  dsimp only
                  rw [setStage_ledger]
                  exact .single (.answers s.ledger job _ .finished does rfl)
              | error text =>
                  dsimp only
                  rw [request_ledger]
                  exact .single (.answers s.ledger job _ .opening does rfl)
          | _ =>
              rw [resume, found] at stepped
              contradiction
      | request session =>
          rw [resume, found] at stepped
          contradiction
      | answered session confirmed =>
          cases purpose with
          | connect attempt =>
              rw [resume, found] at stepped
              cases stepped
              rw [setStage_ledger, answerConnect_ledger]
              exact .single (.answers s.ledger job _ .finished does rfl)
          | _ =>
              rw [resume, found] at stepped
              contradiction
      | finished =>
          rw [resume, found] at stepped
          contradiction

/-- A teardown of its own that is asked for. -/
theorem spawned_ledger (s : Controller) {purpose : Purpose} (own : purpose.gen = none) :
    Relation.ReflTransGen Ledger.Step s.ledger (s.spawn purpose).ledger := by
  rw [spawn_ledger, own]
  exact .single (.spawn s.ledger s.ledger.gen (Nat.le_refl _))

theorem failed_ledger (s : Controller) (reason : String) :
    Relation.ReflTransGen Ledger.Step s.ledger (s.failSession reason).ledger := by
  rw [failSession_ledger]
  exact .single (.spawn s.ledger _ (Nat.le_succ _))

theorem failUnexpectedEngineExit_ledger (l10n : L10n) (s : Controller) :
    Relation.ReflTransGen Ledger.Step s.ledger (s.failUnexpectedEngineExit l10n).ledger := by
  rw [failUnexpectedEngineExit]
  split
  · exact .refl
  · exact failed_ledger s _

theorem connectSelected_ledger (s : Controller) (wifiIsOn : Bool) :
    Relation.ReflTransGen Ledger.Step s.ledger (s.connectSelected wifiIsOn).ledger := by
  rw [connectSelected]
  split
  · exact .refl
  · rename_i device _
    split
    · exact .refl
    · dsimp only
      rw [spawn_ledger]
      exact .single (.connect s.ledger device.location (s.preferDefaultRoute && wifiIsOn))

theorem handlePrivilegedExit_ledger (l10n : L10n) (s : Controller) (proc : Nat) (code : Int) :
    Relation.ReflTransGen Ledger.Step s.ledger (s.handlePrivilegedExit l10n proc code).ledger := by
  rw [handlePrivilegedExit]
  split
  · exact .refl
  · split
    · exact .refl
    · split
      · exact spawned_ledger { s with status := _ } rfl
      · split
        · exact spawned_ledger { s with status := _ } rfl
        · exact .refl

theorem handle_ledger (l10n : L10n) (s : Controller) (event : EngineEvent) (now : Int) :
    Relation.ReflTransGen Ledger.Step s.ledger (s.handle l10n event now).ledger := by
  cases event with
  | log level message => exact .refl
  | status incoming =>
      simp only [handle]
      split
      · exact .refl
      · have cancelled (s : Controller) (failed : Prop) [Decidable failed] :
            (if failed then s.cancelWatchdog else s).ledger = s.ledger := by
          split
          · exact cancelWatchdog_ledger s
          · rfl
        have cleared (s : Controller) (connected : Prop) [Decidable connected] :
            (if connected then { s with pendingRouteRestore := false } else s).ledger =
              s.ledger := by
          split <;> rfl
        rw [cleared, cancelled]
        exact .refl
  | closed =>
      simp only [handle]
      split
      · exact .refl
      · split
        · exact failUnexpectedEngineExit_ledger l10n
            { s with sawEngineTraffic := true, session := none }
        · split
          · exact .refl
          · exact .refl

theorem failSilentEngine_ledger (l10n : L10n) (s : Controller) :
    Relation.ReflTransGen Ledger.Step s.ledger (s.failSilentEngine l10n).ledger := by
  rw [failSilentEngine]
  split
  · exact failed_ledger s _
  · exact .refl

theorem acceptLoop_ledger {s next : Controller} {session : Nat} {op : ThreadOp}
    (stepped : s.acceptLoop session op = some next) : next.ledger = s.ledger := by
  rw [acceptLoop] at stepped
  split at stepped
  · contradiction
  · rename_i e found
    split at stepped
    · split at stepped
      · contradiction
      · split at stepped <;> cases stepped <;> rfl
    · cases stepped
      rfl
    · split at stepped
      · cases stepped
        rfl
      · contradiction
    · cases stepped
      rfl
    · cases stepped
      rfl
    · cases stepped
      rfl
    · cases stepped
      rfl
    · contradiction

theorem dealloc_ledger {s next : Controller} {session : Nat}
    (stepped : s.dealloc session = some next) : next.ledger = s.ledger := by
  rw [dealloc] at stepped
  split at stepped
  · contradiction
  · split at stepped
    · contradiction
    · cases stepped
      rfl

/-- A step that is no poll is none or some steps of the ledger. -/
theorem step_ledger {l10n : L10n} {s next : Controller} {label : Label}
    (other : label.isPoll = false) (stepped : step l10n s label = some next) :
    Relation.ReflTransGen Ledger.Step s.ledger next.ledger := by
  cases label with
  | select id =>
      cases stepped
      exact .refl
  | prefer on =>
      cases stepped
      exact .refl
  | connectSelected wifiIsOn =>
      cases stepped
      exact connectSelected_ledger s wifiIsOn
  | disconnect =>
      cases stepped
      rw [disconnect, spawn_ledger]
      exact .single (.spawn s.ledger _ (Nat.le_succ _))
  | quit =>
      rw [step] at stepped
      split at stepped
      · cases stepped
        exact spawned_ledger s rfl
      · contradiction
  | toggleHelper calls =>
      rw [step, toggleHelper] at stepped
      split at stepped
      · exact (spawned_ledger s rfl).trans (resume_ledger stepped)
      · cases stepped
        exact .refl
  | poll devices => contradiction
  | enginePoll alive =>
      cases stepped
      rw [noteHelperEngineGoneIfNeeded]
      split
      · exact .refl
      · split
        · exact .refl
        · split
          · exact failUnexpectedEngineExit_ledger l10n s
          · exact .refl
  | resume job calls => exact resume_ledger stepped
  | answer confirmed =>
      rw [step] at stepped
      split at stepped
      · cases stepped
        rw [dismiss_ledger]
      · contradiction
  | watchdog watchdog =>
      rw [step, runWatchdog] at stepped
      split at stepped
      · contradiction
      · split at stepped
        · contradiction
        · cases stepped
          exact failSilentEngine_ledger l10n { s with
            watchdogs := s.watchdogs.modify watchdog fun w => { w with finished := true } }
  | privilegedExit proc code =>
      rw [step] at stepped
      split at stepped
      · cases stepped
        exact handlePrivilegedExit_ledger l10n { s with processes := s.processes.set proc true }
          proc code
      · contradiction
  | thread session op =>
      rw [acceptLoop_ledger stepped]
  | receive index now =>
      rw [step] at stepped
      split at stepped
      · contradiction
      · rename_i session event found
        cases stepped
        exact handle_ledger l10n { s with events := s.events.eraseIdx index } event now
  | dealloc session =>
      rw [dealloc_ledger stepped]

end Controller

end WiredTethering.App
