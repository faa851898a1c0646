import WiredTethering.App.Controller

/-!
# What a teardown does in one step

`disconnectAsync` is suspended at up to six places.  `TeardownMove` lists what it does
from where it is suspended to where it is suspended next; everything that is kept by a
teardown is proved along this list.
-/

namespace WiredTethering.App

/-- Behind the start of a teardown that runs itself. -/
def Phase.inner : Phase → Bool
  | .start | .waiting => false
  | _ => true

/-- A request to the engine or the helper while a teardown runs. -/
def Entry.isRequest : Entry → Bool
  | .askedHelper | .sigterm _ | .sigkill _ => true
  | _ => false

namespace Controller

/-- What `disconnectAsync` does from one suspension to the next, or to its return. -/
inductive TeardownMove (s : Controller) (resetToIdle : Bool) (calls : Calls) :
    Phase → Controller × Option Phase → Prop
  | waits (phase : Phase) (outer : phase.inner = false) (running : s.disconnectRunning = true) :
      TeardownMove s resetToIdle calls phase (s, some .waiting)
  | begins (next : Phase) (inner : next.inner = true) (free : s.disconnectRunning = false) :
      TeardownMove s resetToIdle calls .start ((s.beginDisconnect resetToIdle calls).1, some next)
  | passes (proc : Option Nat) (free : s.disconnectRunning = false) :
      TeardownMove s resetToIdle calls .start
        ((s.beginDisconnect resetToIdle calls).1.endDisconnect resetToIdle proc calls, none)
  | returns (free : s.disconnectRunning = false) :
      TeardownMove s resetToIdle calls .waiting (s.showIdle resetToIdle, none)
  | goesOn (phase next : Phase) (before : phase.inner = true) (inner : next.inner = true) :
      TeardownMove s resetToIdle calls phase (s, some next)
  | requests (phase next : Phase) (e : Entry) (before : phase.inner = true)
      (inner : next.inner = true) (request : e.isRequest = true) :
      TeardownMove s resetToIdle calls phase (s.note e, some next)
  | ends (phase : Phase) (before : phase.inner = true) (pending : Bool) (proc : Option Nat) :
      TeardownMove s resetToIdle calls phase
        ({ s with pendingRouteRestore := pending }.endDisconnect resetToIdle proc calls, none)

section

variable (s : Controller) (resetToIdle : Bool) (pid : Int) (proc : Option Nat) (calls : Calls)

theorem afterKill_move (phase : Phase) (before : phase.inner = true) :
    TeardownMove s resetToIdle calls phase (s.afterKill resetToIdle proc calls) := by
  rw [afterKill]
  split
  · exact .ends phase before true proc
  · split
    · exact .requests phase (.restoring proc) .askedHelper before rfl rfl
    · exact .ends phase before true proc

theorem afterTerm_move (phase : Phase) (before : phase.inner = true) :
    TeardownMove s resetToIdle calls phase (s.afterTerm resetToIdle pid proc calls) := by
  rw [afterTerm]
  split
  · exact .requests phase (.waitKill pid proc) (.sigkill pid) before rfl rfl
  · exact afterKill_move s resetToIdle proc calls phase before

theorem afterHelper_move (phase : Phase) (before : phase.inner = true) :
    TeardownMove s resetToIdle calls phase (s.afterHelper resetToIdle pid proc calls) := by
  rw [afterHelper]
  split
  · exact .requests phase (.waitTerm pid proc) (.sigterm pid) before rfl rfl
  · exact afterTerm_move s resetToIdle pid proc calls phase before

/-- Every step of a teardown is one of the moves. -/
theorem disconnectAsync_move (phase : Phase) :
    TeardownMove s resetToIdle calls phase (s.disconnectAsync resetToIdle phase calls) := by
  cases phase with
  | start =>
      rw [disconnectAsync]
      by_cases running : s.disconnectRunning = true
      · rw [if_pos running]
        exact .waits .start rfl running
      · have free : s.disconnectRunning = false := Bool.eq_false_iff.mpr running
        rw [if_neg running]
        dsimp only
        split
        · exact .begins _ rfl free
        · exact .passes _ free
  | waiting =>
      rw [disconnectAsync]
      by_cases running : s.disconnectRunning = true
      · rw [if_pos running]
        exact .waits .waiting rfl running
      · have free : s.disconnectRunning = false := Bool.eq_false_iff.mpr running
        rw [if_neg running]
        exact .returns free
  | waitStop pid proc =>
      rw [disconnectAsync]
      split
      · exact .requests _ _ .askedHelper rfl rfl rfl
      · exact afterHelper_move s resetToIdle pid proc calls _ rfl
  | stopEngine pid proc => exact .goesOn _ _ rfl rfl
  | waitHelper pid proc => exact afterHelper_move s resetToIdle pid proc calls _ rfl
  | waitTerm pid proc => exact afterTerm_move s resetToIdle pid proc calls _ rfl
  | waitKill pid proc => exact afterKill_move s resetToIdle proc calls _ rfl
  | restoring proc => exact .ends _ rfl (!calls.restored) proc

end

/-- No message comes in, and the session and the counters of the last status are only
cleared. -/
structure Dims (s next : Controller) : Prop where
  events : next.events = s.events
  session : next.session = s.session ∨ next.session = none
  lastBytes : next.rates.lastBytes = s.rates.lastBytes ∨ next.rates.lastBytes = none

/-- No task and no attempt comes in either, and what an inactive controller shows stays. -/
structure Fades (s next : Controller) : Prop extends Dims s next where
  connectGen : next.connectGen = s.connectGen
  jobs : next.jobs = s.jobs
  status : s.status.state.isActive = false → next.status = s.status

/-- A value that is kept or cleared twice is kept or cleared. -/
theorem cleared_trans {α : Type} {empty first second third : α}
    (here : second = first ∨ second = empty) (there : third = second ∨ third = empty) :
    third = first ∨ third = empty := by
  rcases there with same | cleared
  · rw [same]
    exact here
  · exact .inr cleared

theorem Dims.refl (s : Controller) : Dims s s :=
  ⟨rfl, .inl rfl, .inl rfl⟩

theorem Dims.trans {s middle next : Controller} (first : Dims s middle)
    (second : Dims middle next) : Dims s next where
  events := second.events.trans first.events
  session := cleared_trans first.session second.session
  lastBytes := cleared_trans first.lastBytes second.lastBytes

/-- None of it changes. -/
theorem Fades.of_eq {s next : Controller} (events : next.events = s.events)
    (session : next.session = s.session) (rates : next.rates = s.rates)
    (connectGen : next.connectGen = s.connectGen) (jobs : next.jobs = s.jobs)
    (status : next.status = s.status) : Fades s next :=
  ⟨⟨events, .inl session, .inl (congrArg Rates.lastBytes rates)⟩, connectGen, jobs, fun _ => status⟩

theorem Fades.refl (s : Controller) : Fades s s :=
  .of_eq rfl rfl rfl rfl rfl rfl

theorem Fades.trans {s middle next : Controller} (first : Fades s middle)
    (second : Fades middle next) : Fades s next where
  toDims := first.toDims.trans second.toDims
  connectGen := second.connectGen.trans first.connectGen
  jobs := second.jobs.trans first.jobs
  status := by
    intro inactive
    have kept := first.status inactive
    rw [← kept] at inactive
    exact (second.status inactive).trans kept

section

variable (s : Controller) (resetToIdle : Bool) (proc : Option Nat) (calls : Calls)

theorem cancelWatchdog_fades : Fades s s.cancelWatchdog := by
  rw [cancelWatchdog]
  split
  · exact .refl s
  · exact .of_eq rfl rfl rfl rfl rfl rfl

theorem stopSession_session : s.stopSession.session = none := by
  rw [stopSession]
  split
  · assumption
  · rfl

theorem stopSession_fades : Fades s s.stopSession where
  events := by
    rw [stopSession]
    split <;> rfl
  session := .inr (stopSession_session s)
  lastBytes := by
    rw [stopSession]
    split <;> exact .inl rfl
  connectGen := by
    rw [stopSession]
    split <;> rfl
  jobs := by
    rw [stopSession]
    split <;> rfl
  status := by
    intro _
    rw [stopSession]
    split <;> rfl

theorem terminateProcess_fades : Fades s (s.terminateProcess proc calls) := by
  cases proc with
  | none => exact .refl s
  | some proc =>
      rw [terminateProcess]
      split
      · exact .of_eq rfl rfl rfl rfl rfl rfl
      · exact .refl s

theorem showIdle_fades : Fades s (s.showIdle resetToIdle) := by
  rw [showIdle]
  split
  · rename_i shows
    refine ⟨⟨rfl, .inl rfl, .inr rfl⟩, rfl, rfl, ?_⟩
    intro inactive
    rw [inactive, Bool.and_false] at shows
    contradiction
  · exact .refl s

theorem isUp_of_inactive {state : ConnectionState} (inactive : state.isActive = false) :
    state.isUp = false :=
  (Bool.or_eq_false_iff.mp inactive).1

theorem showStopping_fades : Fades s (s.showStopping resetToIdle) := by
  rw [showStopping]
  split
  · rename_i shows
    refine ⟨⟨rfl, .inl rfl, .inl rfl⟩, rfl, rfl, ?_⟩
    intro inactive
    rw [isUp_of_inactive inactive, Bool.and_false] at shows
    contradiction
  · exact .refl s

theorem restoreWifi_fades (markerPresent : Bool) : Fades s (s.restoreWifi markerPresent) := by
  rw [restoreWifi]
  split
  · exact .of_eq rfl rfl rfl rfl rfl rfl
  · exact .of_eq rfl rfl rfl rfl rfl rfl

theorem beginDisconnect_session : (s.beginDisconnect resetToIdle calls).1.session = none :=
  stopSession_session _

theorem beginDisconnect_fades : Fades s (s.beginDisconnect resetToIdle calls).1 := by
  have begun : Fades s
      ({ s with disconnectRunning := true, userStopping := true }.note .tearsDown) :=
    .of_eq rfl rfl rfl rfl rfl rfl
  have shown := (begun.trans (cancelWatchdog_fades _)).trans (showStopping_fades _ resetToIdle)
  exact (shown.trans (restoreWifi_fades _ calls.markerPresent)).trans (stopSession_fades _)

theorem endDisconnect_fades : Fades s (s.endDisconnect resetToIdle proc calls) := by
  have ended : Fades s { s.terminateProcess proc calls with
      privilegedProcess := none, enginePid := 0, connectedLocation := 0, usbMissingPolls := 0 } :=
    (terminateProcess_fades s proc calls).trans (.of_eq rfl rfl rfl rfl rfl rfl)
  exact (ended.trans (showIdle_fades _ resetToIdle)).trans
    (.of_eq rfl rfl rfl rfl rfl rfl)

end

/-- A teardown only clears. -/
theorem TeardownMove.fades {s : Controller} {resetToIdle : Bool} {calls : Calls}
    {phase : Phase} {result : Controller × Option Phase}
    (move : TeardownMove s resetToIdle calls phase result) : Fades s result.1 := by
  cases move with
  | waits _ _ => exact .refl s
  | begins _ _ _ => exact beginDisconnect_fades s resetToIdle calls
  | passes proc _ =>
      exact (beginDisconnect_fades s resetToIdle calls).trans
        (endDisconnect_fades _ resetToIdle proc calls)
  | returns _ => exact showIdle_fades s resetToIdle
  | goesOn _ _ _ _ => exact .refl s
  | requests _ _ _ _ _ _ => exact .of_eq rfl rfl rfl rfl rfl rfl
  | ends _ _ pending proc =>
      have raised : Fades s { s with pendingRouteRestore := pending } :=
        .of_eq rfl rfl rfl rfl rfl rfl
      exact raised.trans (endDisconnect_fades _ resetToIdle proc calls)

section

variable {l10n : L10n} {s : Controller} {job : Nat} {calls : Calls} {attempt : Attempt}

/-- A task that awaits a `disconnectAsync`. -/
theorem resume_tearDown {purpose : Purpose} {phase : Phase}
    (found : s.jobs[job]? = some ⟨purpose, .tearDown phase⟩) :
    s.resume l10n job calls =
      some (match s.disconnectAsync purpose.resetToIdle phase calls with
        | (s, some phase) => s.setStage job (.tearDown phase)
        | (s, none) => s.afterDisconnect l10n job purpose calls) := by
  rw [resume, found]
  dsimp only
  rcases s.disconnectAsync purpose.resetToIdle phase calls with ⟨torn, _ | next⟩
  · rfl
  · rfl

/-- An attempt that awaits the helper. -/
theorem resume_startConnect {session : Nat}
    (found : s.jobs[job]? = some ⟨.connect attempt, .startConnect session⟩) :
    s.resume l10n job calls =
      some (match calls.startConnect with
        | .ok pid => (s.launchViaHelper job attempt.gen pid).setStage job .finished
        | .error _ => s.request job session) := by
  rw [resume, found]
  dsimp only
  cases calls.startConnect with
  | ok pid => rfl
  | error text => rfl

end

end Controller

end WiredTethering.App
