import WiredTethering.App.Sessions
import WiredTethering.App.Teardown

/-!
# An error stays

Once the controller shows an error, nothing but a new attempt takes it away: the guards
of `handle` let only further error lines through, the polls and the exit of a process
look for a session that is up, and a teardown resets only an active one.  An error line
replaces what it carries and keeps the rest.
-/

namespace WiredTethering.App

open WiredTethering.Transition

/-- What happens to a controller besides the user's commands. -/
inductive Happening
  | line (event : EngineEvent) (now : Int)
  | poll (devices : List USBDevice)
  | enginePoll (alive : Bool)
  | privilegedExit (proc : Nat) (code : Int)
  | disconnectAsync (resetToIdle : Bool)
  /-- A task that waits runs on. -/
  | resume (job : Nat) (calls : Calls)

namespace Controller

def happen (l10n : L10n) : Step Controller Happening
  | s, .line event now => some (s.handle l10n event now)
  | s, .poll devices => some (s.refreshDevices l10n devices)
  | s, .enginePoll alive => some (s.noteHelperEngineGoneIfNeeded l10n alive)
  | s, .privilegedExit proc code => some (s.handlePrivilegedExit l10n proc code)
  | s, .disconnectAsync resetToIdle => some (s.spawn (.disconnect resetToIdle))
  | s, .resume job calls => s.resume l10n job calls

/-- No attempt to connect is pending. -/
def NoAttempt (s : Controller) : Prop :=
  ∀ (job : Nat) (attempt : Attempt) (stage : Stage),
    s.jobs[job]? = some ⟨.connect attempt, stage⟩ → stage = .finished

end Controller

/-- The error lines among what happens. -/
def errorLine : Happening → Option EngineStatus
  | .line (.status s) _ => if s.state = .error then some s else none
  | _ => none

/-- The last value that is not blank, or the first one. -/
def latest {α : Type} (blank : α → Bool) (first : α) (later : List α) : α :=
  later.foldl (fun kept v => if blank v then kept else v) first

/-- What `after` shows of a session is what `before` showed, but for what `lines` carry. -/
structure KeepsSession (before after : EngineStatus) (lines : List EngineStatus) : Prop where
  rxBytes : after.rxBytes = latest (· == 0) before.rxBytes (lines.map EngineStatus.rxBytes)
  txBytes : after.txBytes = latest (· == 0) before.txBytes (lines.map EngineStatus.txBytes)
  rxErrors : after.rxErrors = latest (· == 0) before.rxErrors (lines.map EngineStatus.rxErrors)
  txErrors : after.txErrors = latest (· == 0) before.txErrors (lines.map EngineStatus.txErrors)
  iface : after.iface = latest String.isEmpty before.iface (lines.map EngineStatus.iface)
  ip : after.ip = latest String.isEmpty before.ip (lines.map EngineStatus.ip)

/-! ## Error lines -/

theorem latest_append {α : Type} (blank : α → Bool) (first : α) (front back : List α) :
    latest blank first (front ++ back) = latest blank (latest blank first front) back :=
  List.foldl_append

theorem mergedCounter (incoming previous : UInt64) :
    (if incoming = 0 ∧ 0 < previous then previous else incoming) =
      if incoming == 0 then previous else incoming := by
  by_cases zero : incoming = 0
  · subst zero
    by_cases positive : 0 < previous
    · rw [if_pos ⟨rfl, positive⟩]
      rfl
    · have none_ : previous = 0 := UInt64.le_zero_iff.mp (UInt64.not_lt.mp positive)
      rw [none_, ite_self]
      rfl
  · rw [if_neg fun both => zero both.1, if_neg (by simpa using zero)]

theorem mergedText (incoming previous : String) :
    keepText incoming previous = if incoming.isEmpty then previous else incoming := by
  rw [keepText]
  cases empty : incoming.isEmpty with
  | false => rfl
  | true =>
      cases other : previous.isEmpty with
      | false => rfl
      | true =>
          rw [String.isEmpty_iff.mp empty, String.isEmpty_iff.mp other]
          rfl

theorem KeepsSession.refl (s : EngineStatus) : KeepsSession s s [] :=
  ⟨rfl, rfl, rfl, rfl, rfl, rfl⟩

theorem KeepsSession.trans {first second third : EngineStatus} {front back : List EngineStatus}
    (here : KeepsSession first second front) (later : KeepsSession second third back) :
    KeepsSession first third (front ++ back) where
  rxBytes := by rw [later.rxBytes, here.rxBytes, List.map_append, latest_append]
  txBytes := by rw [later.txBytes, here.txBytes, List.map_append, latest_append]
  rxErrors := by rw [later.rxErrors, here.rxErrors, List.map_append, latest_append]
  txErrors := by rw [later.txErrors, here.txErrors, List.map_append, latest_append]
  iface := by rw [later.iface, here.iface, List.map_append, latest_append]
  ip := by rw [later.ip, here.ip, List.map_append, latest_append]

namespace Controller

theorem shownStatus_error (l10n : L10n) (previous : EngineStatus) {incoming : EngineStatus}
    (error : incoming.state = .error) :
    (shownStatus l10n previous incoming).state = .error ∧
      KeepsSession previous (shownStatus l10n previous incoming) [incoming] := by
  rw [shownStatus, if_pos error]
  exact ⟨error, mergedCounter _ _, mergedCounter _ _, mergedCounter _ _, mergedCounter _ _,
    mergedText _ _, mergedText _ _⟩

/-! ## Steps -/

/-- An error is shown and no attempt is pending. -/
structure Failed (s : Controller) : Prop where
  state : s.status.state = .error
  settled : s.NoAttempt

theorem Failed.inactive {s : Controller} (failed : s.Failed) :
    s.status.state.isActive = false := by
  rw [failed.state]
  rfl

theorem Failed.down {s : Controller} (failed : s.Failed) : s.status.state.isUp = false :=
  isUp_of_inactive failed.inactive

/-- A new teardown is no attempt. -/
theorem Failed.spawn {s : Controller} (failed : s.Failed) (resetToIdle : Bool) :
    (s.spawn (.disconnect resetToIdle)).Failed where
  state := failed.state
  settled := by
    intro job attempt stage found
    simp only [Controller.spawn] at found
    by_cases old : job < s.jobs.length
    · rw [List.getElem?_append_left old] at found
      exact failed.settled job attempt stage found
    · rw [List.getElem?_append_right (Nat.le_of_not_lt old)] at found
      cases offset : job - s.jobs.length with
      | zero =>
          rw [offset] at found
          cases found
      | succ n =>
          rw [offset] at found
          cases found

/-- What clears keeps the error. -/
theorem Failed.fades {s next : Controller} (failed : s.Failed) (fades : Fades s next) :
    next.Failed ∧ next.status = s.status := by
  have status := fades.status failed.inactive
  constructor
  · constructor
    · rw [status]
      exact failed.state
    · rw [NoAttempt, fades.jobs]
      exact failed.settled
  · exact status

/-- A task that is no attempt goes on. -/
theorem Failed.setStage {s torn : Controller} (failed : s.Failed) (fades : Fades s torn)
    {job : Nat} {purpose : Purpose} {before : Stage}
    (found : s.jobs[job]? = some ⟨purpose, before⟩)
    (other : ∀ attempt, purpose ≠ .connect attempt) (stage : Stage) :
    (torn.setStage job stage).Failed ∧ (torn.setStage job stage).status = s.status := by
  obtain ⟨still, status⟩ := failed.fades fades
  constructor
  · constructor
    · exact still.state
    · intro index attempt reached there
      have read : (s.jobs.modify job fun j => { j with stage := stage })[index]? =
          some ⟨.connect attempt, reached⟩ := by
        rw [← fades.jobs]
        exact there
      rw [List.getElem?_modify] at read
      obtain ⟨old, here, changed⟩ := Option.map_eq_some_iff.mp read
      by_cases same : job = index
      · subst same
        rw [found] at here
        cases here
        rw [if_pos rfl] at changed
        exact absurd (congrArg Job.purpose changed) (other attempt)
      · rw [if_neg same] at changed
        subst changed
        exact failed.settled index attempt reached here
  · exact status

/-- What is no attempt only ends behind its teardown. -/
theorem Failed.afterDisconnect {l10n : L10n} {s torn : Controller} (failed : s.Failed)
    (fades : Fades s torn) {job : Nat} {purpose : Purpose} {before : Stage}
    (found : s.jobs[job]? = some ⟨purpose, before⟩)
    (other : ∀ attempt, purpose ≠ .connect attempt) (calls : Calls) :
    (torn.afterDisconnect l10n job purpose calls).Failed ∧
      (torn.afterDisconnect l10n job purpose calls).status = s.status := by
  cases purpose with
  | connect attempt => exact absurd rfl (other attempt)
  | disconnect resetToIdle => exact failed.setStage fades found other .finished
  | removeHelper =>
      have asked : Fades s { torn with helperStatus := calls.helperStatus } :=
        fades.trans (.of_eq rfl rfl rfl rfl rfl rfl)
      exact failed.setStage asked found other .finished

/-- A task that runs on leaves the error shown. -/
theorem Failed.resume {l10n : L10n} {s next : Controller} (failed : s.Failed) {job : Nat}
    {calls : Calls} (resumed : s.resume l10n job calls = some next) :
    next.Failed ∧ next.status = s.status := by
  cases found : s.jobs[job]? with
  | none =>
      rw [Controller.resume, found] at resumed
      contradiction
  | some waiting =>
      rcases waiting with ⟨purpose, stage⟩
      have running : ∀ attempt, purpose = .connect attempt → stage = .finished := by
        rintro attempt rfl
        exact failed.settled job attempt stage found
      cases stage with
      | tearDown phase =>
          have other : ∀ attempt, purpose ≠ .connect attempt := by
            intro attempt connects
            cases running attempt connects
          have fades := (disconnectAsync_move s purpose.resetToIdle calls phase).fades
          rw [resume_tearDown found] at resumed
          rcases result : s.disconnectAsync purpose.resetToIdle phase calls with
            ⟨torn, _ | reached⟩
          · rw [result] at resumed fades
            cases resumed
            exact failed.afterDisconnect fades found other calls
          · rw [result] at resumed fades
            cases resumed
            exact failed.setStage fades found other (.tearDown reached)
      | startConnect session | request session | answered session confirmed | finished =>
          rw [Controller.resume, found] at resumed
          cases purpose with
          | connect attempt =>
              cases running attempt rfl
              all_goals cases resumed
          | disconnect resetToIdle | removeHelper => cases resumed

theorem Failed.refreshDevices {s : Controller} (failed : s.Failed) (l10n : L10n)
    (devices : List USBDevice) : Fades s (s.refreshDevices l10n devices) := by
  rw [Controller.refreshDevices, noteUsbUnplugIfNeeded, if_pos (.inl failed.down)]
  exact .of_eq rfl rfl rfl rfl rfl rfl

theorem Failed.noteHelperEngineGoneIfNeeded {s : Controller} (failed : s.Failed) (l10n : L10n)
    (alive : Bool) : s.noteHelperEngineGoneIfNeeded l10n alive = s := by
  rw [Controller.noteHelperEngineGoneIfNeeded, failed.down]
  exact ite_self s

theorem Failed.handlePrivilegedExit {s : Controller} (failed : s.Failed) (l10n : L10n)
    (proc : Nat) (code : Int) : Fades s (s.handlePrivilegedExit l10n proc code) := by
  rw [Controller.handlePrivilegedExit, failed.state]
  split
  · exact .refl s
  · split
    · exact .of_eq rfl rfl rfl rfl rfl rfl
    · exact .refl s

theorem Failed.closed {s : Controller} (failed : s.Failed) (l10n : L10n) (now : Int) :
    Fades s (s.handle l10n .closed now) := by
  have kept : shouldKeepStateOnSocketClosed s.status.state s.userStopping = true := by
    unfold shouldKeepStateOnSocketClosed
    rw [failed.state]
    exact ite_self true
  simp only [handle, kept, if_true]
  exact ⟨⟨rfl, .inr rfl, .inl rfl⟩, rfl, rfl, fun _ => rfl⟩

/-- A line that is no error line is not shown. -/
theorem Failed.passed {s : Controller} (failed : s.Failed) (l10n : L10n) (now : Int)
    {incoming : EngineStatus} (other : incoming.state ≠ .error) :
    Fades s (s.handle l10n (.status incoming) now) := by
  have passes : shouldApplyEngineStatus s.status.state incoming.state s.userStopping = false := by
    rw [shouldApplyEngineStatus, if_neg other, failed.state]
    rfl
  simp only [handle, passes, Bool.not_false, if_true]
  exact .of_eq rfl rfl rfl rfl rfl rfl

/-- An error line is shown, and is no attempt. -/
theorem Failed.handleError {s : Controller} (failed : s.Failed) (l10n : L10n) (now : Int)
    {incoming : EngineStatus} (error : incoming.state = .error) :
    (s.handle l10n (.status incoming) now).Failed ∧
      KeepsSession s.status (s.handle l10n (.status incoming) now).status [incoming] := by
  have applies : shouldApplyEngineStatus s.status.state incoming.state s.userStopping = true := by
    rw [shouldApplyEngineStatus, if_pos error]
  have shown := (handle_applied l10n now applies).1
  have merged := shownStatus_error l10n s.status error
  have jobs : (s.handle l10n (.status incoming) now).jobs = s.jobs := by
    simp only [handle, applies, Bool.not_true, Bool.false_eq_true, if_false]
    split
    · split
      · exact (cancelWatchdog_fades _).jobs
      · rfl
    · split
      · exact (cancelWatchdog_fades _).jobs
      · rfl
  rw [← shown] at merged
  constructor
  · constructor
    · exact merged.1
    · rw [NoAttempt, jobs]
      exact failed.settled
  · exact merged.2

/-- What happens to a failed controller leaves it failed, and only an error line changes
what it shows. -/
theorem Failed.happen {l10n : L10n} {s next : Controller} (failed : s.Failed) {h : Happening}
    (happened : s.happen l10n h = some next) :
    next.Failed ∧ KeepsSession s.status next.status (errorLine h).toList := by
  have unchanged : next.Failed ∧ next.status = s.status →
      next.Failed ∧ KeepsSession s.status next.status [] := by
    rintro ⟨failed, same⟩
    rw [same]
    exact ⟨failed, .refl s.status⟩
  cases h with
  | line event now =>
      cases happened
      cases event with
      | log level message => exact unchanged (failed.fades (.of_eq rfl rfl rfl rfl rfl rfl))
      | status incoming =>
          by_cases error : incoming.state = .error
          · rw [errorLine, if_pos error]
            exact failed.handleError l10n now error
          · rw [errorLine, if_neg error]
            exact unchanged (failed.fades (failed.passed l10n now error))
      | closed => exact unchanged (failed.fades (failed.closed l10n now))
  | poll devices =>
      cases happened
      exact unchanged (failed.fades (failed.refreshDevices l10n devices))
  | enginePoll alive =>
      cases happened
      rw [failed.noteHelperEngineGoneIfNeeded l10n alive]
      exact ⟨failed, .refl s.status⟩
  | privilegedExit proc code =>
      cases happened
      exact unchanged (failed.fades (failed.handlePrivilegedExit l10n proc code))
  | disconnectAsync resetToIdle =>
      cases happened
      exact unchanged ⟨failed.spawn resetToIdle, rfl⟩
  | resume job calls => exact unchanged (failed.resume happened)

/-- The error stays in every run, with what the last session has shown. -/
theorem Failed.run {l10n : L10n} {s last : Controller} {happened : List Happening}
    (failed : s.Failed) (ran : Transition.run (Controller.happen l10n) s happened = some last) :
    last.Failed ∧ KeepsSession s.status last.status (happened.filterMap errorLine) := by
  induction happened generalizing s with
  | nil =>
      cases ran
      exact ⟨failed, .refl _⟩
  | cons h later ih =>
      obtain ⟨next, stepped, rest⟩ := run_cons_eq_some_iff.mp ran
      obtain ⟨still, here⟩ := failed.happen stepped
      obtain ⟨ended, there⟩ := ih still rest
      constructor
      · exact ended
      · cases line : errorLine h with
        | none =>
            rw [List.filterMap_cons_none line]
            rw [line] at here
            exact here.trans there
        | some shown =>
            rw [List.filterMap_cons_some line]
            rw [line] at here
            exact here.trans there

theorem closed_fails (l10n : L10n) {s : Controller} (up : s.status.state.isUp = true)
    (unasked : s.userStopping = false) (now : Int) :
    (s.handle l10n .closed now).status.state = .error := by
  have drops : shouldKeepStateOnSocketClosed s.status.state s.userStopping = false := by
    cases shown : s.status.state with
    | connecting | connected => rw [unasked]; rfl
    | idle | stopping | error => rw [shown] at up; cases up
  have shown : s.status.state ≠ .error := by
    intro failed
    rw [failed] at up
    cases up
  simp only [handle, drops, up, Bool.false_eq_true, if_false, if_true, failUnexpectedEngineExit]
  rw [if_neg (by simp [shown, unasked])]
  rfl

/-- An error stays until the next attempt, with what the last session has shown, and a
socket that closes without a request is an error. -/
theorem error_stays (l10n : L10n) (s : Controller) :
    (s.status.state = .error → s.NoAttempt → ∀ happened last,
      run (happen l10n) s happened = some last →
        last.status.state = .error ∧
          KeepsSession s.status last.status (happened.filterMap errorLine)) ∧
    (s.status.state.isUp = true → s.userStopping = false → ∀ now,
      (s.handle l10n .closed now).status.state = .error) := by
  constructor
  · intro state settled happened last ran
    have failed : s.Failed := ⟨state, settled⟩
    obtain ⟨still, kept⟩ := failed.run ran
    exact ⟨still.state, kept⟩
  · intro up unasked now
    exact closed_fails l10n up unasked now

/-- A session that has failed, and what may come behind that. -/
def failedSession : Controller :=
  { status := { state := .error, iface := "feth0", ip := "192.168.42.7", rxBytes := 900 }
    session := some 0
    sessions := [{ client := true, thread := .reading }] }

def afterFailure : List Happening :=
  [.line (.status { state := .connected }) 0, .disconnectAsync true, .resume 0 {},
    .line .closed 1, .line (.status { state := .error, rxBytes := 1200 }) 2]

theorem error_stays_failed :
    (run (happen plainTexts) failedSession afterFailure).map (fun last =>
        (last.status.state, last.status.rxBytes, last.status.ip)) =
          some (.error, 1200, "192.168.42.7") ∧
      (Controller.handle plainTexts { status := { state := .connecting } } .closed 0).status.state =
        .error := by
  constructor
  · have runs : (run (happen plainTexts) failedSession afterFailure).isSome = true := by
      decide +kernel
    obtain ⟨last, ran⟩ := Option.isSome_iff_exists.mp runs
    have settled : failedSession.NoAttempt := nofun
    obtain ⟨state, kept⟩ := (error_stays plainTexts failedSession).1 rfl settled
      afterFailure last ran
    have rxBytes : last.status.rxBytes = 1200 := kept.rxBytes
    have ip : last.status.ip = "192.168.42.7" := kept.ip
    rw [ran, Option.map_some, state, rxBytes, ip]
  · exact (error_stays plainTexts { status := { state := .connecting } }).2 rfl rfl 0

end Controller

end WiredTethering.App
