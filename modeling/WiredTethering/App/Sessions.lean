import WiredTethering.App.Controller

/-!
# The messages and the end of an old session

The messages of all sessions come to the one `handle`, and all sessions have one socket
path.  The module says exactly which messages of a session that is no longer the current
one change what the current one relies on, and when the end of an old session removes
the path.
-/

namespace WiredTethering.App

open WiredTethering.Transition

/-- A line that leaves a value out, or has the value shown. -/
def Repeated {α : Type} [Zero α] [LT α] (incoming shown : α) : Prop :=
  incoming = shown ∨ incoming = 0 ∧ 0 < shown

/-- An error line that says nothing new. -/
structure RepeatsError (l10n : L10n) (shown incoming : EngineStatus) : Prop where
  state : shown.state = .error
  pid : incoming.pid = shown.pid
  error : l10n.display (if incoming.error.isEmpty then shown.error else incoming.error) =
    shown.error
  rxBytes : Repeated incoming.rxBytes shown.rxBytes
  txBytes : Repeated incoming.txBytes shown.txBytes
  rxErrors : Repeated incoming.rxErrors shown.rxErrors
  txErrors : Repeated incoming.txErrors shown.txErrors
  linkMbps : Repeated incoming.linkMbps shown.linkMbps
  mtu : Repeated incoming.mtu shown.mtu
  iface : incoming.iface = shown.iface ∨ incoming.iface = ""
  ip : incoming.ip = shown.ip ∨ incoming.ip = ""
  gateway : incoming.gateway = shown.gateway ∨ incoming.gateway = ""
  dns : incoming.dns = shown.dns ∨ incoming.dns = ""

/-- A status line that says what is shown. -/
def Repeats (l10n : L10n) (shown incoming : EngineStatus) : Prop :=
  if incoming.state = .error then RepeatsError l10n shown incoming else incoming = shown

theorem keepText_eq_iff (incoming shown : String) :
    keepText incoming shown = shown ↔ incoming = shown ∨ incoming = "" := by
  rw [keepText]
  by_cases empty : incoming = ""
  · by_cases nothing : shown = ""
    · simp [empty, nothing]
    · simp [empty, nothing]
  · simp [empty]

theorem merged_eq_iff {α : Type} [Zero α] [LT α] (incoming shown : α)
    [Decidable (incoming = 0 ∧ 0 < shown)] :
    (if incoming = 0 ∧ 0 < shown then shown else incoming) = shown ↔
      Repeated incoming shown := by
  rw [Repeated]
  by_cases left : incoming = 0 ∧ 0 < shown
  · simp [left]
  · simp [left]

namespace Controller

theorem shownStatus_eq_iff (l10n : L10n) (shown incoming : EngineStatus) :
    shownStatus l10n shown incoming = shown ↔ Repeats l10n shown incoming := by
  rw [shownStatus, Repeats]
  by_cases failed : incoming.state = .error
  · rw [if_pos failed, if_pos failed]
    rcases shown with ⟨state, iface, ip, gateway, dns, error, rx, tx, rxErr, txErr, pid, mbps, mtu⟩
    simp only [mergeErrorStatus, EngineStatus.mk.injEq, merged_eq_iff, keepText_eq_iff, failed]
    constructor
    · rintro ⟨rfl, iface, ip, gateway, dns, error, rx, tx, rxErr, txErr, pid, mbps, mtu⟩
      exact ⟨rfl, pid, error, rx, tx, rxErr, txErr, mbps, mtu, iface, ip, gateway, dns⟩
    · rintro ⟨state, pid, error, rx, tx, rxErr, txErr, mbps, mtu, iface, ip, gateway, dns⟩
      exact ⟨state.symm, iface, ip, gateway, dns, error, rx, tx, rxErr, txErr, pid, mbps, mtu⟩
  · rw [if_neg failed, if_neg failed]

/-- Nothing that the current session relies on has changed. -/
def Undisturbed (s next : Controller) : Prop :=
  next.status = s.status ∧ next.enginePid = s.enginePid ∧ next.session = s.session ∧
    ∀ session, s.session = some session → s.socketFile = some session →
      next.socketFile = some session

/-- The step receives a message of, or deallocates, a session that is not the current
one. -/
def OfOldSession (s : Controller) : Label → Prop
  | .receive index _ => ∃ session event, s.events[index]? = some (session, event) ∧
      s.session ≠ some session
  | .dealloc session => s.session ≠ some session
  | _ => False

/-- A message that changes neither the status, nor the process id, nor the session. -/
def SparedBy (l10n : L10n) (s : Controller) : EngineEvent → Prop
  | .log _ _ => True
  | .status incoming =>
      shouldApplyEngineStatus s.status.state incoming.state s.userStopping = true →
        Repeats l10n s.status incoming ∧ (1 < incoming.pid → incoming.pid = s.enginePid)
  | .closed => s.session = none ∧ (s.userStopping = true ∨ s.status.state.isUp = false)

/-- An old session does not reach the current one in this step. -/
def OldSessionApart (l10n : L10n) (s : Controller) : Label → Prop
  | .receive index _ => ∀ session event, s.events[index]? = some (session, event) →
      s.session ≠ some session → s.SparedBy l10n event
  | .dealloc session => (s.dealloc session).isSome = true →
      ∀ current, s.session = some current → s.socketFile ≠ some current
  | _ => True

section

variable (s : Controller)

@[simp] theorem cancelWatchdog_status : s.cancelWatchdog.status = s.status := by
  rw [cancelWatchdog]
  split <;> rfl

@[simp] theorem cancelWatchdog_enginePid : s.cancelWatchdog.enginePid = s.enginePid := by
  rw [cancelWatchdog]
  split <;> rfl

@[simp] theorem cancelWatchdog_session : s.cancelWatchdog.session = s.session := by
  rw [cancelWatchdog]
  split <;> rfl

@[simp] theorem cancelWatchdog_socketFile : s.cancelWatchdog.socketFile = s.socketFile := by
  rw [cancelWatchdog]
  split <;> rfl

end

/-- A message does not touch the socket path. -/
theorem handle_socketFile (l10n : L10n) (s : Controller) (event : EngineEvent) (now : Int) :
    (s.handle l10n event now).socketFile = s.socketFile := by
  cases event with
  | log level message => rfl
  | status incoming =>
      simp only [handle]
      split
      · rfl
      · split <;> split <;> simp
  | closed =>
      simp only [handle, failUnexpectedEngineExit, failSession, spawn]
      split
      · rfl
      · split
        · split <;> rfl
        · split <;> rfl

theorem shownStatus_pid (l10n : L10n) (shown incoming : EngineStatus) :
    (shownStatus l10n shown incoming).pid = incoming.pid := by
  rw [shownStatus]
  split <;> rfl

/-- What an applied status changes. -/
theorem handle_applied (l10n : L10n) {s : Controller} {incoming : EngineStatus} (now : Int)
    (applies :
      shouldApplyEngineStatus s.status.state incoming.state s.userStopping = true) :
    (s.handle l10n (.status incoming) now).status = shownStatus l10n s.status incoming ∧
      (s.handle l10n (.status incoming) now).enginePid =
        (if 1 < incoming.pid then incoming.pid else s.enginePid) ∧
      (s.handle l10n (.status incoming) now).session = s.session := by
  simp only [handle, applies, Bool.not_true, Bool.false_eq_true, if_false, shownStatus_pid]
  split <;> split <;> simp

/-- A closed socket always ends the session that the controller has. -/
theorem handle_closed_session (l10n : L10n) (s : Controller) (now : Int) :
    (s.handle l10n .closed now).session = none := by
  simp only [handle, failUnexpectedEngineExit, failSession, spawn]
  split
  · rfl
  · split
    · split <;> rfl
    · split <;> rfl

/-- A closed socket ends a session that is up, unless the user stops it. -/
theorem handle_closed_status_iff (l10n : L10n) (s : Controller) (now : Int) :
    (s.handle l10n .closed now).status = s.status ↔
      s.userStopping = true ∨ s.status.state.isUp = false := by
  simp only [handle]
  by_cases stopping : s.userStopping = true
  · simp [shouldKeepStateOnSocketClosed, stopping]
  · rcases s.status with ⟨shown⟩
    cases shown with
    | idle => simp [shouldKeepStateOnSocketClosed, ConnectionState.isUp, stopping]
    | connecting =>
        simp [shouldKeepStateOnSocketClosed, ConnectionState.isUp, failUnexpectedEngineExit,
          failSession, spawn, stopping]
    | connected =>
        simp [shouldKeepStateOnSocketClosed, ConnectionState.isUp, failUnexpectedEngineExit,
          failSession, spawn, stopping]
    | stopping => simp [shouldKeepStateOnSocketClosed, ConnectionState.isUp, stopping]
    | error => simp [shouldKeepStateOnSocketClosed, ConnectionState.isUp, stopping]

theorem handle_closed_enginePid (l10n : L10n) (s : Controller) (now : Int) :
    (s.handle l10n .closed now).enginePid = s.enginePid := by
  simp only [handle, failUnexpectedEngineExit, failSession, spawn]
  split
  · rfl
  · split
    · split <;> rfl
    · split <;> rfl

theorem handle_undisturbed_iff (l10n : L10n) (s : Controller) (event : EngineEvent) (now : Int) :
    Undisturbed s (s.handle l10n event now) ↔ s.SparedBy l10n event := by
  have path : ∀ session, s.session = some session → s.socketFile = some session →
      (s.handle l10n event now).socketFile = some session := by
    intro session _ bound
    rw [handle_socketFile, bound]
  rw [Undisturbed, and_iff_left path]
  cases event with
  | log level message => simp [handle, SparedBy]
  | status incoming =>
      rw [SparedBy, ← shownStatus_eq_iff]
      by_cases applies : shouldApplyEngineStatus s.status.state incoming.state s.userStopping
      · obtain ⟨status, enginePid, session⟩ := handle_applied l10n now applies
        rw [status, enginePid, session]
        by_cases running : 1 < incoming.pid
        · simp [applies, running]
        · simp [applies, running]
      · simp [handle, applies]
  | closed =>
      rw [SparedBy, handle_closed_session, handle_closed_status_iff, handle_closed_enginePid]
      constructor
      · rintro ⟨kept, -, gone⟩
        exact ⟨gone.symm, kept⟩
      · rintro ⟨gone, kept⟩
        exact ⟨kept, rfl, gone.symm⟩

/-- The current session is not deallocated. -/
theorem dealloc_old {s next : Controller} {session : Nat}
    (stepped : s.dealloc session = some next) : s.session ≠ some session := by
  intro current
  rw [dealloc] at stepped
  split at stepped
  · contradiction
  · simp [current] at stepped

/-- The end of a session removes the path of whatever session bound it. -/
theorem dealloc_undisturbed_iff {s next : Controller} {session : Nat}
    (stepped : s.dealloc session = some next) :
    Undisturbed s next ↔ ∀ current, s.session = some current → s.socketFile ≠ some current := by
  have ends : ∃ e, next = (s.setSession session e).closeSession session := by
    rw [dealloc] at stepped
    split at stepped
    · contradiction
    · rename_i e found
      split at stepped
      · contradiction
      · exact ⟨_, (Option.some.inj stepped).symm⟩
  obtain ⟨e, rfl⟩ := ends
  constructor
  · rintro ⟨-, -, -, path⟩ current shown bound
    exact absurd (path current shown bound) (by simp [closeSession])
  · intro unbound
    refine ⟨rfl, rfl, rfl, ?_⟩
    intro current shown bound
    exact absurd bound (unbound current shown)

/-- Old sessions leave the current one alone in exactly the runs in which they are apart
from it in every step. -/
theorem oldSessions_undisturbing_iff (l10n : L10n) (s : Controller) (labels : List Label) :
    Guarded (step l10n)
        (fun s label => s.OfOldSession label →
          ∀ next, step l10n s label = some next → Undisturbed s next) s labels ↔
      Guarded (step l10n) (fun s label => s.OldSessionApart l10n label) s labels := by
  apply guarded_congr
  intro s label
  cases label with
  | receive index now =>
      simp only [OfOldSession, OldSessionApart, step]
      cases found : s.events[index]? with
      | none => simp
      | some message =>
          rcases message with ⟨session, event⟩
          have undisturbed := handle_undisturbed_iff l10n { s with events := s.events.eraseIdx index }
            event now
          constructor
          · rintro apart session event ⟨⟩ old
            exact undisturbed.mp (apart ⟨_, _, rfl, old⟩ _ rfl)
          · rintro apart ⟨session, event, ⟨⟩, old⟩ next ⟨⟩
            exact undisturbed.mpr (apart _ _ rfl old)
  | dealloc session =>
      simp only [OfOldSession, OldSessionApart, step]
      constructor
      · intro apart freed
        obtain ⟨next, stepped⟩ := Option.isSome_iff_exists.mp freed
        exact (dealloc_undisturbed_iff stepped).mp (apart (dealloc_old stepped) next stepped)
      · intro apart _ next stepped
        exact (dealloc_undisturbed_iff stepped).mpr
          (apart (Option.isSome_iff_exists.mpr ⟨next, stepped⟩))
  | _ => simp [OfOldSession, OldSessionApart]

end Controller

/-- The engine connects, the user disconnects and connects again; the first session ends
on its socket behind that. -/
def reconnects : List Label :=
  helperConnects ++
    [.thread 0 .start, .thread 0 .accept, .thread 0 .keepClient, .disconnect, .resume 1 helped,
      .resume 1 helped, .resume 1 helped, .connectSelected true, .resume 2 helped,
      .thread 0 .readEnds]

/-- The `closed` message of the first session ends the second one, and so does the
deallocation of the first with its path. -/
theorem firstSession_ends_second :
    ¬ Guarded (Controller.step plainTexts)
        (fun s label => s.OfOldSession label →
          ∀ next, Controller.step plainTexts s label = some next → s.Undisturbed next)
        (.initial true .enabled) (reconnects ++ [.receive 0 0]) ∧
      ¬ Guarded (Controller.step plainTexts)
        (fun s label => s.OfOldSession label →
          ∀ next, Controller.step plainTexts s label = some next → s.Undisturbed next)
        (.initial true .enabled) (reconnects ++ [.dealloc 0]) := by
  have before : (run (Controller.step plainTexts) (.initial true .enabled) reconnects).map
      (fun s => (s.session, s.socketFile, s.events[0]?)) =
        some (some 1, some 1, some (0, .closed)) := by
    decide +kernel
  have closed : (run (Controller.step plainTexts) (.initial true .enabled)
      (reconnects ++ [.receive 0 0])).map Controller.session = some none := by
    decide +kernel
  have freed : (run (Controller.step plainTexts) (.initial true .enabled)
      (reconnects ++ [.dealloc 0])).map Controller.socketFile = some none := by
    decide +kernel
  obtain ⟨s, ran, shown⟩ := Option.map_eq_some_iff.mp before
  obtain ⟨session, path, event⟩ : s.session = some 1 ∧ s.socketFile = some 1 ∧
      s.events[0]? = some (0, .closed) := by
    simpa using shown
  constructor
  · intro guarded
    rw [run_concat ran] at closed
    obtain ⟨next, stepped, ended⟩ := Option.map_eq_some_iff.mp closed
    have old : s.OfOldSession (.receive 0 0) := ⟨0, .closed, event, by simp [session]⟩
    have kept := (guarded.last ran old next stepped).2.2.1
    rw [ended, session] at kept
    contradiction
  · intro guarded
    rw [run_concat ran] at freed
    obtain ⟨next, stepped, removed⟩ := Option.map_eq_some_iff.mp freed
    have old : s.OfOldSession (.dealloc 0) := by simp [Controller.OfOldSession, session]
    have kept := (guarded.last ran old next stepped).2.2.2 1 session path
    rw [removed] at kept
    contradiction

end WiredTethering.App
