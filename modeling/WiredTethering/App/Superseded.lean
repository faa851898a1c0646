import WiredTethering.App.Teardown

/-!
# The steps of a superseded attempt

A call of `connectSelected`, `disconnect` or a failing session increments `connectGen`.
The module says exactly which later steps of an attempt with another generation, and of
its cancelled watchdog, leave the status and the session alone and launch nothing.
-/

namespace WiredTethering.App

open WiredTethering.Transition

/-- The engine's start, or the stop of a session. -/
def Entry.isDeed : Entry → Bool
  | .stopped _ | .launched _ => true
  | _ => false

namespace Controller

/-- The step belongs to an attempt with another generation than the current one, or to its
cancelled watchdog. -/
def OfSuperseded (s : Controller) : Label → Prop
  | .resume job _ => ∃ attempt stage, s.jobs[job]? = some ⟨.connect attempt, stage⟩ ∧
      s.connectGen ≠ attempt.gen
  | .watchdog watchdog => ∃ w, s.watchdogs[watchdog]? = some w ∧ w.cancelled = true ∧
      s.connectGen ≠ w.gen
  | _ => False

/-- The status and the session are as they were; no session is stopped and no engine is
launched. -/
structure Ineffective (s next : Controller) : Prop where
  status : next.status = s.status
  session : next.session = s.session
  deeds : next.journal.filter Entry.isDeed = s.journal.filter Entry.isDeed

/-- Where a superseded attempt is suspended such that its next step does no harm. -/
def HarmlessStage (s : Controller) (calls : Calls) : Stage → Prop
  | .tearDown .start => s.disconnectRunning = true ∨ s.session = none
  | .startConnect _ => ∃ text, calls.startConnect = .error text
  | .answered _ false => s.status = {} ∧ s.session = none
  | _ => True

/-- A superseded attempt does no harm in this step. -/
def SupersededHarmless (s : Controller) : Label → Prop
  | .resume job calls => ∀ attempt stage, s.jobs[job]? = some ⟨.connect attempt, stage⟩ →
      s.connectGen ≠ attempt.gen → s.HarmlessStage calls stage
  | .watchdog watchdog => ∀ w, s.watchdogs[watchdog]? = some w → w.cancelled = true →
      s.connectGen ≠ w.gen → w.finished = false →
        ¬ (s.status.state = .connecting ∧ s.sawEngineTraffic = false)
  | _ => True

theorem Ineffective.refl (s : Controller) : Ineffective s s :=
  ⟨rfl, rfl, rfl⟩

theorem Ineffective.trans {s middle next : Controller} (first : Ineffective s middle)
    (second : Ineffective middle next) : Ineffective s next :=
  ⟨second.status.trans first.status, second.session.trans first.session,
    second.deeds.trans first.deeds⟩

theorem note_ineffective (s : Controller) {e : Entry} (quiet : e.isDeed = false) :
    Ineffective s (s.note e) :=
  ⟨rfl, rfl, by simp [note, quiet]⟩

theorem cancelWatchdog_ineffective (s : Controller) : Ineffective s s.cancelWatchdog := by
  rw [cancelWatchdog]
  split
  · exact .refl s
  · exact ⟨rfl, rfl, rfl⟩

theorem request_ineffective (s : Controller) (job session : Nat) :
    Ineffective s (s.request job session) := by
  rw [request, dismiss]
  split
  · exact ⟨rfl, rfl, rfl⟩
  · exact ⟨rfl, rfl, rfl⟩

theorem stopSession_ineffective {s : Controller} (nothing : s.session = none) :
    Ineffective s s.stopSession := by
  rw [stopSession, nothing]
  exact .refl s

theorem terminateProcess_ineffective (s : Controller) (proc : Option Nat) (calls : Calls) :
    Ineffective s (s.terminateProcess proc calls) := by
  cases proc with
  | none => exact .refl s
  | some proc =>
      rw [terminateProcess]
      split
      · exact note_ineffective s rfl
      · exact .refl s

theorem restoreWifi_ineffective (s : Controller) (markerPresent : Bool) :
    Ineffective s (s.restoreWifi markerPresent) := by
  rw [restoreWifi]
  split
  · exact ⟨rfl, rfl, rfl⟩
  · exact ⟨rfl, rfl, rfl⟩

theorem endDisconnect_ineffective (s : Controller) (proc : Option Nat) (calls : Calls) :
    Ineffective s (s.endDisconnect false proc calls) :=
  (terminateProcess_ineffective s proc calls).trans ⟨rfl, rfl, rfl⟩

/-- A teardown that finds no session only changes what it keeps for itself. -/
theorem beginDisconnect_ineffective {s : Controller} (nothing : s.session = none)
    (calls : Calls) : Ineffective s (s.beginDisconnect false calls).1 := by
  have begun : Ineffective s
      ({ s with disconnectRunning := true, userStopping := true }.note .tearsDown) :=
    ⟨rfl, rfl, rfl⟩
  have restored := (begun.trans (cancelWatchdog_ineffective _)).trans
    (restoreWifi_ineffective _ calls.markerPresent)
  exact restored.trans (stopSession_ineffective (restored.session.trans nothing))

/-- A teardown on the way harms nothing; one that begins stops the session. -/
theorem disconnectAsync_ineffective_iff (s : Controller) (phase : Phase) (calls : Calls) :
    Ineffective s (s.disconnectAsync false phase calls).1 ↔
      s.HarmlessStage calls (.tearDown phase) := by
  have move := disconnectAsync_move s false calls phase
  generalize s.disconnectAsync false phase calls = result at move
  have always (after : phase ≠ .start) : s.HarmlessStage calls (.tearDown phase) := by
    cases phase with
    | start => contradiction
    | _ => trivial
  have later (inner : phase.inner = true) : phase ≠ .start := by
    rintro rfl
    contradiction
  cases move with
  | waits _ outer running =>
      constructor
      · intro _
        cases phase with
        | start => exact .inl running
        | _ => exact always nofun
      · exact fun _ => .refl s
  | begins next inner free =>
      have begun := beginDisconnect_session s false calls
      constructor
      · exact fun ineffective => .inr (ineffective.session.symm.trans begun)
      · rintro (running | nothing)
        · rw [free] at running
          contradiction
        · exact beginDisconnect_ineffective nothing calls
  | passes proc free =>
      have ended := endDisconnect_ineffective (s.beginDisconnect false calls).1 proc calls
      have begun := ended.session.trans (beginDisconnect_session s false calls)
      constructor
      · exact fun ineffective => .inr (ineffective.session.symm.trans begun)
      · rintro (running | nothing)
        · rw [free] at running
          contradiction
        · exact (beginDisconnect_ineffective nothing calls).trans ended
  | returns free => exact iff_of_true (.refl s) (always nofun)
  | goesOn _ next before inner => exact iff_of_true (.refl s) (always (later before))
  | requests _ next e before inner request =>
      have quiet : e.isDeed = false := by
        cases e with
        | askedHelper => rfl
        | sigterm pid => rfl
        | sigkill pid => rfl
        | _ => contradiction
      exact iff_of_true (note_ineffective s quiet) (always (later before))
  | ends _ before pending proc =>
      have changed : Ineffective s { s with pendingRouteRestore := pending } := ⟨rfl, rfl, rfl⟩
      exact iff_of_true (changed.trans (endDisconnect_ineffective _ proc calls))
        (always (later before))

theorem ineffective_setStage_iff (s next : Controller) (job : Nat) (stage : Stage) :
    Ineffective s (next.setStage job stage) ↔ Ineffective s next :=
  ⟨fun ⟨status, session, deeds⟩ => ⟨status, session, deeds⟩,
    fun ⟨status, session, deeds⟩ => ⟨status, session, deeds⟩⟩

/-- A launch is noticed. -/
theorem launchViaHelper_effective (s : Controller) (job gen : Nat) (pid : Int) :
    ¬ Ineffective s (s.launchViaHelper job gen pid) := by
  intro ineffective
  have longer : (Entry.launched job :: s.journal).filter Entry.isDeed =
      s.journal.filter Entry.isDeed := ineffective.deeds
  rw [List.filter_cons_of_pos rfl] at longer
  exact List.cons_ne_self _ _ longer

/-- The prompt of an attempt is answered with no: the status and the session are reset. -/
theorem dismissed_ineffective_iff (s : Controller) :
    Ineffective s { s with status := {} }.stopSession ↔ s.status = {} ∧ s.session = none := by
  have cleared := stopSession_session { s with status := {} }
  have status : { s with status := {} }.stopSession.status = {} := by
    rw [stopSession]
    split <;> rfl
  constructor
  · intro ineffective
    exact ⟨ineffective.status.symm.trans status, ineffective.session.symm.trans cleared⟩
  · rintro ⟨idle, nothing⟩
    have reset : Ineffective s { s with status := {} } := ⟨idle.symm, rfl, rfl⟩
    exact reset.trans (stopSession_ineffective nothing)

/-- The task of a superseded attempt harms nothing in a step if and only if its stage is
harmless. -/
theorem resume_ineffective_iff {l10n : L10n} {s next : Controller} {job : Nat} {calls : Calls}
    {attempt : Attempt} {stage : Stage} (found : s.jobs[job]? = some ⟨.connect attempt, stage⟩)
    (superseded : s.connectGen ≠ attempt.gen)
    (stepped : s.resume l10n job calls = some next) :
    Ineffective s next ↔ s.HarmlessStage calls stage := by
  cases stage with
  | tearDown phase =>
      have harmless := disconnectAsync_ineffective_iff s phase calls
      have gen := (disconnectAsync_move s false calls phase).fades.connectGen
      rw [resume_tearDown found, Purpose.resetToIdle] at stepped
      rcases ran : s.disconnectAsync false phase calls with ⟨torn, waits⟩
      rw [ran] at harmless gen stepped
      rw [← harmless]
      cases waits with
      | some phase =>
          cases stepped
          exact ineffective_setStage_iff s torn job _
      | none =>
          have behind : torn.connectGen ≠ attempt.gen := fun same => superseded (gen.symm.trans same)
          have stopped : torn.setStage job .finished = next := by
            simpa [afterDisconnect, openConnect, behind] using stepped
          rw [← stopped]
          exact ineffective_setStage_iff s torn job _
  | startConnect session =>
      rw [resume_startConnect found] at stepped
      cases reply : calls.startConnect with
      | ok pid =>
          rw [reply] at stepped
          cases stepped
          rw [ineffective_setStage_iff]
          apply iff_of_false (launchViaHelper_effective s job attempt.gen pid)
          rintro ⟨text, failed⟩
          cases reply.symm.trans failed
      | error text =>
          rw [reply] at stepped
          cases stepped
          exact iff_of_true (request_ineffective s job session) ⟨text, reply⟩
  | request session =>
      rw [resume, found] at stepped
      contradiction
  | answered session confirmed =>
      rw [resume, found] at stepped
      cases stepped
      rw [ineffective_setStage_iff]
      cases confirmed with
      | false => exact dismissed_ineffective_iff s
      | true =>
          have ignored : s.answerConnect l10n job attempt true calls = s := by
            simp [answerConnect, superseded]
          rw [ignored]
          exact iff_of_true (.refl s) trivial
  | finished =>
      rw [resume, found] at stepped
      contradiction

/-- An attempt that is not to be resumed is suspended where it is harmless. -/
theorem resume_none_harmless {l10n : L10n} {s : Controller} {job : Nat} {calls : Calls}
    {attempt : Attempt} {stage : Stage} (found : s.jobs[job]? = some ⟨.connect attempt, stage⟩)
    (stuck : s.resume l10n job calls = none) : s.HarmlessStage calls stage := by
  cases stage with
  | tearDown phase =>
      rw [resume_tearDown found] at stuck
      contradiction
  | startConnect session =>
      rw [resume_startConnect found] at stuck
      contradiction
  | request session => trivial
  | answered session confirmed =>
      rw [resume, found] at stuck
      contradiction
  | finished => trivial

/-- The watchdog fails whatever attempt is connecting. -/
theorem failSilentEngine_ineffective_iff (l10n : L10n) (s : Controller) :
    Ineffective s (s.failSilentEngine l10n) ↔
      ¬ (s.status.state = .connecting ∧ s.sawEngineTraffic = false) := by
  rw [failSilentEngine]
  by_cases silent : s.status.state = .connecting ∧ s.sawEngineTraffic = false
  · rw [if_pos silent]
    apply iff_of_false _ (not_not_intro silent)
    intro ineffective
    have same := congrArg EngineStatus.state ineffective.status
    rw [silent.1] at same
    contradiction
  · rw [if_neg silent]
    exact iff_of_true (.refl s) silent

/-- A watchdog runs once. -/
theorem runWatchdog_waiting (l10n : L10n) {s : Controller} {watchdog : Nat} {w : Watchdog}
    (found : s.watchdogs[watchdog]? = some w) (waits : w.finished = false) :
    ∃ watchdogs, s.runWatchdog l10n watchdog =
      some ({ s with watchdogs := watchdogs }.failSilentEngine l10n) := by
  simp only [runWatchdog, found, waits]
  exact ⟨_, rfl⟩

theorem runWatchdog_finished (l10n : L10n) {s : Controller} {watchdog : Nat} {w : Watchdog}
    (found : s.watchdogs[watchdog]? = some w) (finished : w.finished = true) :
    s.runWatchdog l10n watchdog = none := by
  simp only [runWatchdog, found, finished]
  rfl

/-- Superseded attempts have no effect in exactly the runs in which each of their steps is
a harmless one. -/
theorem superseded_ineffective_iff (l10n : L10n) (s : Controller) (labels : List Label) :
    Guarded (step l10n)
        (fun s label => s.OfSuperseded label →
          ∀ next, step l10n s label = some next → Ineffective s next) s labels ↔
      Guarded (step l10n) (fun s label => s.SupersededHarmless label) s labels := by
  apply guarded_congr
  intro s label
  cases label with
  | resume job calls =>
      constructor
      · intro ineffective attempt stage found superseded
        cases stepped : s.resume l10n job calls with
        | some next =>
            apply (resume_ineffective_iff found superseded stepped).mp
            exact ineffective ⟨attempt, stage, found, superseded⟩ next stepped
        | none => exact resume_none_harmless found stepped
      · rintro harmless ⟨attempt, stage, found, superseded⟩ next stepped
        apply (resume_ineffective_iff found superseded stepped).mpr
        exact harmless attempt stage found superseded
  | watchdog watchdog =>
      have fires (watchdogs : List Watchdog) :=
        failSilentEngine_ineffective_iff l10n { s with watchdogs := watchdogs }
      constructor
      · intro ineffective w found cancelled superseded waits
        obtain ⟨watchdogs, stepped⟩ := runWatchdog_waiting l10n found waits
        obtain ⟨status, session, deeds⟩ :=
          ineffective ⟨w, found, cancelled, superseded⟩ _ stepped
        exact (fires watchdogs).mp ⟨status, session, deeds⟩
      · rintro harmless ⟨w, found, cancelled, superseded⟩ next stepped
        change s.runWatchdog l10n watchdog = some next at stepped
        cases waits : w.finished with
        | true =>
            rw [runWatchdog_finished l10n found waits] at stepped
            contradiction
        | false =>
            obtain ⟨watchdogs, ran⟩ := runWatchdog_waiting l10n found waits
            rw [ran] at stepped
            cases stepped
            obtain ⟨status, session, deeds⟩ :=
              (fires watchdogs).mpr (harmless w found cancelled superseded waits)
            exact ⟨status, session, deeds⟩
  | _ => simp [OfSuperseded, SupersededHarmless]

end Controller

/-- Without the helper: an attempt asks for the password, the user disconnects and connects
again, and the second attempt asks for it too. -/
def asksTwice : List Label :=
  [.poll [phone], .connectSelected true, .resume 0 {}, .disconnect, .resume 1 {},
    .connectSelected true, .resume 2 {}]

/-- An engine connects and ends by itself, and the user connects again; the teardown of
that attempt cancels the watchdog of the first. -/
def endsEarly : List Label :=
  helperConnects ++
    [.thread 0 .start, .thread 0 .accept, .thread 0 .keepClient,
      .thread 0 (.line (.status { state := .connected, pid := 77 })), .receive 0 0,
      .thread 0 (.line (.status { state := .idle, pid := 77 })), .receive 0 1000,
      .connectSelected true, .resume 1 helped]

/-- The dismissed prompt of the first attempt ends the session of the second, and the
cancelled watchdog of the first fails the second. -/
theorem firstAttempt_ends_second :
    ¬ Guarded (Controller.step plainTexts)
        (fun s label => s.OfSuperseded label →
          ∀ next, Controller.step plainTexts s label = some next → s.Ineffective next)
        (.initial true .notRegistered) (asksTwice ++ [.resume 0 {}]) ∧
      ¬ Guarded (Controller.step plainTexts)
        (fun s label => s.OfSuperseded label →
          ∀ next, Controller.step plainTexts s label = some next → s.Ineffective next)
        (.initial true .enabled) (endsEarly ++ [.watchdog 0]) := by
  have asked : (run (Controller.step plainTexts) (.initial true .notRegistered) asksTwice).map
      (fun s => (s.jobs[0]?, s.connectGen, s.session)) =
        some (some ⟨.connect ⟨1, phone.location, true, true⟩, .answered 0 false⟩, 3, some 1) := by
    decide +kernel
  have dismissed : (run (Controller.step plainTexts) (.initial true .notRegistered)
      (asksTwice ++ [.resume 0 {}])).map Controller.session = some none := by
    decide +kernel
  have cancelled : (run (Controller.step plainTexts) (.initial true .enabled) endsEarly).map
      (fun s => (s.watchdogs[0]?, s.connectGen, s.status.state)) =
        some (some ⟨1, true, false⟩, 2, .connecting) := by
    decide +kernel
  have fired : (run (Controller.step plainTexts) (.initial true .enabled)
      (endsEarly ++ [.watchdog 0])).map (fun s => s.status.state) = some .error := by
    decide +kernel
  constructor
  · obtain ⟨s, ran, shown⟩ := Option.map_eq_some_iff.mp asked
    simp only [Prod.mk.injEq] at shown
    obtain ⟨job, gen, session⟩ := shown
    intro guarded
    rw [run_concat ran] at dismissed
    obtain ⟨next, stepped, ended⟩ := Option.map_eq_some_iff.mp dismissed
    have old : s.OfSuperseded (.resume 0 {}) := ⟨_, _, job, by simp [gen]⟩
    have kept := (guarded.last ran old next stepped).session
    rw [ended, session] at kept
    contradiction
  · obtain ⟨s, ran, shown⟩ := Option.map_eq_some_iff.mp cancelled
    simp only [Prod.mk.injEq] at shown
    obtain ⟨watchdog, gen, state⟩ := shown
    intro guarded
    rw [run_concat ran] at fired
    obtain ⟨next, stepped, failed⟩ := Option.map_eq_some_iff.mp fired
    have old : s.OfSuperseded (.watchdog 0) := ⟨_, watchdog, rfl, by simp [gen]⟩
    have kept := congrArg EngineStatus.state (guarded.last ran old next stepped).status
    rw [failed, state] at kept
    contradiction

end WiredTethering.App
