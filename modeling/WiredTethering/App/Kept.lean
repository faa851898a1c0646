import WiredTethering.App.Record

/-!
# What an attempt has recorded when its engine starts

`connectSelected` records where the phone is and whether Wi-Fi is to be turned on again,
and awaits a teardown, which clears both.  The module says exactly when an attempt that
launches its engine still finds what it has recorded.
-/

namespace WiredTethering.App

open WiredTethering.Transition

namespace Controller

variable {l10n : L10n}

/-- The attempt launches its engine in this step: the helper has started it, or the prompt
is confirmed and `launchPrivilegedConnect` works. -/
def Launches (s : Controller) (job : Nat) (calls : Calls) (attempt : Attempt) : Prop :=
  ∃ session,
    (s.jobs[job]? = some ⟨.connect attempt, .startConnect session⟩ ∧
      ∃ pid, calls.startConnect = .ok pid) ∨
    (s.jobs[job]? = some ⟨.connect attempt, .answered session true⟩ ∧
      s.connectGen = attempt.gen ∧ calls.launchError = none)

/-- `later` comes before the next `connectSelected` and the next start of a teardown. -/
def Later (l10n : L10n) (s later : Controller) : Prop :=
  ∃ labels, run (step l10n) s labels = some later ∧
    later.ledger.boundaries = s.ledger.boundaries

/-- The list has no phone that tethers there. -/
def Lacks (devices : List USBDevice) (location : UInt32) : Prop :=
  ∀ d ∈ devices, d.location = location → d.kind ≠ .rndis

/-- Whatever status that is up is shown, two polls in a row that lack the phone end the
session. -/
def NoticesUnplug (l10n : L10n) (s : Controller) (location : UInt32) : Prop :=
  ∀ status first between middle second,
    status.state.isUp = true → Lacks first location →
    run (step l10n) ({ s with status := status }.refreshDevices l10n first) between = some middle →
    (∀ label ∈ between, label.isPoll = false) → middle.ledger.boundaries = s.ledger.boundaries →
    middle.status.state.isUp = true → Lacks second location →
    (middle.refreshDevices l10n second).status.state = .error

/-- The record of an attempt is there from now on, until the next teardown, and does what
it is for. -/
structure Kept (l10n : L10n) (s : Controller) (location : UInt32) (wifi : Bool) : Prop where
  place : ∀ later, Later l10n s later → later.connectedLocation = location
  radio : ∀ later, Later l10n s later → later.restoreWifiOnDisconnect = wifi
  unplug : ∀ later, Later l10n s later → NoticesUnplug l10n later location
  turnsOn : wifi = true → ∀ later, Later l10n s later → ∀ resetToIdle calls,
    .turnedWifiOn :: .tearsDown :: later.journal <:+
      (later.beginDisconnect resetToIdle calls).1.journal

theorem initial_sound (preferDefaultRoute : Bool) (helperStatus : HelperStatus) :
    (initial preferDefaultRoute helperStatus).ledger.Sound where
  tracked := rfl
  gens := nofun
  opening := nofun
  waiting := nofun
  owned := nofun
  runs := nofun
  alone := nofun

theorem noteUsbUnplugIfNeeded_ledger (l10n : L10n) (s : Controller) (devices : List USBDevice) :
    ∃ missing, Relation.ReflTransGen Ledger.Step { s.ledger with missing := missing }
      (s.noteUsbUnplugIfNeeded l10n devices).ledger := by
  rw [noteUsbUnplugIfNeeded]
  split
  · exact ⟨s.usbMissingPolls, .refl⟩
  · dsimp only
    split
    · exact ⟨0, .refl⟩
    · split
      · exact ⟨s.usbMissingPolls + 1, .refl⟩
      · refine ⟨s.usbMissingPolls + 1, ?_⟩
        rw [failUsbSession]
        split
        · exact .refl
        · exact failed_ledger { s with usbMissingPolls := s.usbMissingPolls + 1 } _

/-- A poll only counts how often the phone was missing, and may end the session. -/
theorem refreshDevices_ledger (l10n : L10n) (s : Controller) (parsed : List USBDevice) :
    ∃ missing, Relation.ReflTransGen Ledger.Step { s.ledger with missing := missing }
      (s.refreshDevices l10n parsed).ledger :=
  noteUsbUnplugIfNeeded_ledger l10n { s with devices := parsed, selectedID := _ } parsed

/-- What a step does to the ledger. -/
theorem step_steps {s next : Controller} {label : Label}
    (stepped : step l10n s label = some next) :
    ∃ missing, Relation.ReflTransGen Ledger.Step { s.ledger with missing := missing } next.ledger ∧
      (label.isPoll = false → missing = s.ledger.missing) := by
  cases poll : label.isPoll with
  | false => exact ⟨s.ledger.missing, step_ledger poll stepped, fun _ => rfl⟩
  | true =>
      cases label with
      | poll devices =>
          cases stepped
          obtain ⟨missing, steps⟩ := refreshDevices_ledger l10n s devices
          exact ⟨missing, steps, nofun⟩
      | _ => contradiction

theorem step_sound {s next : Controller} {label : Label} (sound : s.ledger.Sound)
    (stepped : step l10n s label = some next) : next.ledger.Sound := by
  obtain ⟨missing, steps, -⟩ := step_steps stepped
  exact (sound.polled missing).steps steps

theorem run_sound {s last : Controller} {labels : List Label} (sound : s.ledger.Sound)
    (ran : run (step l10n) s labels = some last) : last.ledger.Sound :=
  run_invariant (fun _ _ _ => step_sound) sound ran

theorem step_boundaries_le {s next : Controller} {label : Label}
    (stepped : step l10n s label = some next) :
    s.ledger.boundaries ≤ next.ledger.boundaries := by
  obtain ⟨missing, steps, -⟩ := step_steps stepped
  have grown := Ledger.steps_boundaries_le steps
  exact grown

theorem run_boundaries_le {s last : Controller} {labels : List Label}
    (ran : run (step l10n) s labels = some last) :
    s.ledger.boundaries ≤ last.ledger.boundaries := by
  apply @run_invariant _ _ (step l10n) (fun t => s.ledger.boundaries ≤ t.ledger.boundaries) _ _ _ _
    (Nat.le_refl _) ran
  exact fun _ _ _ before stepped => Nat.le_trans before (step_boundaries_le stepped)

/-- Unless its time ends, the record stays as it is in a step without a teardown. -/
theorem step_stays {s next : Controller} {label : Label} (sound : s.ledger.Sound)
    (free : s.disconnectRunning = false) (stepped : step l10n s label = some next)
    (same : next.ledger.boundaries = s.ledger.boundaries) :
    next.ledger.record = s.ledger.record ∧ next.ledger.marks = s.ledger.marks ∧
      (label.isPoll = false → next.usbMissingPolls = s.usbMissingPolls) := by
  obtain ⟨missing, steps, polled⟩ := step_steps stepped
  rcases Ledger.steps_stay steps (sound.polled missing) free with passed | ⟨record, marks, still⟩
  · exact absurd same (Nat.ne_of_gt passed)
  · exact ⟨record, marks, fun other => still.trans (polled other)⟩

/-- Unless its time ends, the record stays as it is in a run without a teardown. -/
theorem run_stays {s last : Controller} {labels : List Label} (sound : s.ledger.Sound)
    (free : s.disconnectRunning = false) (ran : run (step l10n) s labels = some last)
    (same : last.ledger.boundaries = s.ledger.boundaries) :
    last.ledger.record = s.ledger.record ∧ last.ledger.marks = s.ledger.marks ∧
      ((∀ label ∈ labels, label.isPoll = false) → last.usbMissingPolls = s.usbMissingPolls) := by
  induction labels generalizing s with
  | nil =>
      cases ran
      exact ⟨rfl, rfl, fun _ => rfl⟩
  | cons label labels ih =>
      obtain ⟨next, stepped, rest⟩ := run_cons_eq_some_iff.mp ran
      -- the count of boundaries can only grow, so it is the same in between
      have between : next.ledger.boundaries = s.ledger.boundaries :=
        Nat.le_antisymm (same ▸ run_boundaries_le rest) (step_boundaries_le stepped)
      obtain ⟨record, marks, missing⟩ := step_stays sound free stepped between
      have still : next.disconnectRunning = false :=
        (congrArg Record.running record).trans free
      obtain ⟨record', marks', missing'⟩ :=
        ih (step_sound sound stepped) still rest (same.trans between.symm)
      refine ⟨record'.trans record, marks'.trans marks, fun polls => ?_⟩
      rw [missing' fun other member => polls other (List.mem_cons_of_mem _ member)]
      exact missing (polls label List.mem_cons_self)

theorem noteUsbUnplugIfNeeded_lacks (l10n : L10n) {s : Controller} {devices : List USBDevice}
    (up : s.status.state.isUp = true) (somewhere : s.connectedLocation ≠ 0)
    (lacks : Lacks devices s.connectedLocation) :
    (s.noteUsbUnplugIfNeeded l10n devices).usbMissingPolls = s.usbMissingPolls + 1 ∧
      (0 < s.usbMissingPolls → (s.noteUsbUnplugIfNeeded l10n devices).status.state = .error) := by
  have missing : (devices.find? fun d => d.location = s.connectedLocation).map USBDevice.kind ≠
      some .rndis := by
    intro found
    obtain ⟨d, first, kind⟩ := Option.map_eq_some_iff.mp found
    have there : d.location = s.connectedLocation := by simpa using List.find?_some first
    exact lacks d (List.mem_of_find?_eq_some first) there kind
  rw [noteUsbUnplugIfNeeded, if_neg (by simp [up, somewhere])]
  dsimp only
  rw [if_neg missing]
  by_cases once : s.usbMissingPolls + 1 < 2
  · rw [if_pos once]
    exact ⟨rfl, fun before => absurd once (Nat.not_lt_of_le (Nat.succ_le_succ before))⟩
  · rw [if_neg once, failUsbSession]
    split
    · rename_i failed
      exact ⟨rfl, fun _ => failed⟩
    · exact ⟨rfl, fun _ => rfl⟩

/-- The poll finds no phone that tethers. -/
theorem refreshDevices_lacks (l10n : L10n) {s : Controller} {devices : List USBDevice}
    (up : s.status.state.isUp = true) (somewhere : s.connectedLocation ≠ 0)
    (lacks : Lacks devices s.connectedLocation) :
    (s.refreshDevices l10n devices).usbMissingPolls = s.usbMissingPolls + 1 ∧
      (0 < s.usbMissingPolls → (s.refreshDevices l10n devices).status.state = .error) :=
  @noteUsbUnplugIfNeeded_lacks l10n { s with devices := devices, selectedID := _ } devices up
    somewhere lacks

/-- Without a location no poll is of use. -/
theorem refreshDevices_nowhere (l10n : L10n) {s : Controller} (nowhere : s.connectedLocation = 0)
    (devices : List USBDevice) : (s.refreshDevices l10n devices).status = s.status ∧
      (s.refreshDevices l10n devices).ledger = s.ledger := by
  rw [refreshDevices, noteUsbUnplugIfNeeded, if_pos (.inr nowhere)]
  exact ⟨rfl, rfl⟩

theorem lacks_nil (location : UInt32) : Lacks [] location :=
  fun _ member => absurd member List.not_mem_nil

/-- A record without a location notices nothing. -/
theorem not_noticesUnplug {s : Controller} (nowhere : s.connectedLocation = 0)
    (location : UInt32) : ¬ NoticesUnplug l10n s location := by
  intro notices
  have polls := notices { state := .connecting } []
  have first := @refreshDevices_nowhere l10n { s with status := { state := .connecting } } nowhere []
  generalize Controller.refreshDevices l10n _ [] = polled at polls first
  obtain ⟨status, ledger⟩ := first
  have up : polled.status.state = .connecting := congrArg EngineStatus.state status
  have still : polled.connectedLocation = 0 :=
    (congrArg (fun l => l.record.location) ledger).trans nowhere
  have failed := polls [] polled [] rfl (lacks_nil location) rfl
    (fun _ member => absurd member List.not_mem_nil)
    (congrArg Ledger.boundaries ledger) (congrArg ConnectionState.isUp up) (lacks_nil location)
  rw [(refreshDevices_nowhere l10n still []).1, up] at failed
  contradiction

/-- A record with the location of the phone notices that it is gone. -/
theorem noticesUnplug {s : Controller} (sound : s.ledger.Sound)
    (free : s.disconnectRunning = false) (somewhere : s.connectedLocation ≠ 0) :
    NoticesUnplug l10n s s.connectedLocation := by
  intro status first between middle second up lacks ran others same still lacks'
  let shown : Controller := { s with status := status }
  have polled : step l10n shown (.poll first) = some (shown.refreshDevices l10n first) := rfl
  have sound' := @step_sound l10n shown _ _ sound polled
  have grown := step_boundaries_le polled
  have grown' := run_boundaries_le ran
  have unchanged : (shown.refreshDevices l10n first).ledger.boundaries = s.ledger.boundaries :=
    Nat.le_antisymm (same ▸ grown') grown
  obtain ⟨record, -⟩ := @step_stays l10n shown _ _ sound free polled unchanged
  obtain ⟨record', -, missing⟩ := run_stays sound' ((congrArg Record.running record).trans free)
    ran (same.trans unchanged.symm)
  have place : middle.connectedLocation = s.connectedLocation :=
    congrArg Record.location (record'.trans record)
  obtain ⟨counted, -⟩ := @refreshDevices_lacks l10n shown first up somewhere lacks
  rw [← place] at somewhere lacks'
  apply (refreshDevices_lacks l10n still somewhere lacks').2
  rw [missing others, counted]
  exact Nat.succ_pos _

/-- A teardown turns Wi-Fi on first, if that is recorded. -/
theorem beginDisconnect_turnsOn {s : Controller} (wifi : s.restoreWifiOnDisconnect = true)
    (resetToIdle : Bool) (calls : Calls) :
    .turnedWifiOn :: .tearsDown :: s.journal <:+
      (s.beginDisconnect resetToIdle calls).1.journal := by
  let running := { s with disconnectRunning := true, userStopping := true }.note .tearsDown
  let shown := running.cancelWatchdog.showStopping resetToIdle
  have recorded : shown.restoreWifiOnDisconnect = true := by
    have ledger : shown.ledger = running.ledger :=
      (showStopping_ledger _ resetToIdle).trans (cancelWatchdog_ledger running)
    exact (congrArg (fun l => l.record.wifi) ledger).trans wifi
  have journal : shown.journal = .tearsDown :: s.journal := by
    have cancelled : running.cancelWatchdog.journal = running.journal := by
      rw [cancelWatchdog]
      split <;> rfl
    have stopping (s : Controller) : (s.showStopping resetToIdle).journal = s.journal := by
      rw [showStopping]
      split <;> rfl
    exact (stopping _).trans cancelled
  have turned : (shown.restoreWifi calls.markerPresent).journal =
      .turnedWifiOn :: .tearsDown :: s.journal := by
    rw [restoreWifi, recorded, Bool.true_or, if_pos rfl, ← journal]
    rfl
  rw [← turned]
  change _ <:+ (shown.restoreWifi calls.markerPresent).stopSession.journal
  rw [stopSession]
  split
  · exact List.suffix_refl _
  · exact List.suffix_cons _ _

/-- The run can go on to a state without a location before the time of the record ends. -/
def Finishes (l10n : L10n) (s : Controller) : Prop :=
  ∃ last, Later l10n s last ∧ last.connectedLocation = 0

theorem Finishes.step {s next : Controller} {label : Label} (finishes : Finishes l10n next)
    (stepped : step l10n s label = some next)
    (same : next.ledger.boundaries = s.ledger.boundaries) : Finishes l10n s := by
  obtain ⟨last, ⟨labels, ran, still⟩, nowhere⟩ := finishes
  exact ⟨last, ⟨label :: labels, run_cons_eq_some_iff.mpr ⟨next, stepped, ran⟩, still.trans same⟩,
    nowhere⟩

theorem setStage_found {s : Controller} {job : Nat} {purpose : Purpose} {before : Stage}
    (found : s.jobs[job]? = some ⟨purpose, before⟩) (stage : Stage) :
    (s.setStage job stage).jobs[job]? = some ⟨purpose, stage⟩ := by
  simp [setStage, found]

/-- A teardown that ends in its next step clears the location. -/
theorem ending_finishes (l10n : L10n) {s : Controller} {job : Nat} {purpose : Purpose}
    {phase : Phase} (calls : Calls) {pending : Bool} {proc : Option Nat}
    (found : s.jobs[job]? = some ⟨purpose, .tearDown phase⟩)
    (ends : s.disconnectAsync purpose.resetToIdle phase calls =
      ({ s with pendingRouteRestore := pending }.endDisconnect purpose.resetToIdle proc calls,
        none)) : Finishes l10n s := by
  obtain ⟨duty, -, ledger⟩ := afterDisconnect_ledger
    ({ s with pendingRouteRestore := pending }.endDisconnect purpose.resetToIdle proc calls)
    calls l10n job purpose
  rw [endDisconnect_ledger] at ledger
  have stepped : s.resume l10n job calls = _ := resume_tearDown found
  rw [ends] at stepped
  refine ⟨_, ⟨[.resume job calls], run_cons_eq_some_iff.mpr ⟨_, stepped, rfl⟩, ?_⟩, ?_⟩
  · rw [ledger]
    rfl
  · exact congrArg (fun l => l.record.location) ledger

/-- A teardown that waits for an engine ends when that is gone. -/
theorem waiting_finishes (l10n : L10n) {s : Controller} {job : Nat} {purpose : Purpose}
    {phase : Phase} {proc : Option Nat}
    (found : s.jobs[job]? = some ⟨purpose, .tearDown phase⟩)
    (gone : s.disconnectAsync purpose.resetToIdle phase {} =
      s.afterKill purpose.resetToIdle proc {}) : Finishes l10n s := by
  by_cases helper : s.helperStatus = .enabled
  · have asks : s.disconnectAsync purpose.resetToIdle phase {} =
        (s.note .askedHelper, some (.restoring proc)) := by
      rw [gone, afterKill, if_neg Bool.false_ne_true, if_pos helper]
    have stepped : step l10n s (.resume job {}) = _ := resume_tearDown found
    rw [asks] at stepped
    have restoring : Finishes l10n
        ((s.note .askedHelper).setStage job (.tearDown (.restoring proc))) :=
      ending_finishes l10n {} (setStage_found found _) rfl
    exact restoring.step stepped rfl
  · apply ending_finishes l10n {} found
    rw [gone, afterKill, if_neg Bool.false_ne_true, if_neg helper]

/-- A teardown that runs can end before another one begins. -/
theorem running_finishes (l10n : L10n) {s : Controller} (sound : s.ledger.Sound)
    (running : s.disconnectRunning = true) : Finishes l10n s := by
  obtain ⟨job, owner, does⟩ := sound.owned running
  obtain ⟨j, found, duty⟩ : ∃ j, s.jobs[job]? = some j ∧ j.duty = (owner, .tearing) := by
    simpa [Does, ledger] using does
  rcases j with ⟨purpose, stage⟩
  have tearing : stage.duty = .tearing := congrArg Prod.snd duty
  cases stage with
  | tearDown phase =>
      cases phase with
      | start => contradiction
      | waiting => contradiction
      | waitStop pid proc => exact waiting_finishes l10n found rfl
      | stopEngine pid proc =>
          have stepped : step l10n s (.resume job {}) = _ := resume_tearDown found
          have waiting : Finishes l10n (s.setStage job (.tearDown (.waitHelper pid proc))) :=
            waiting_finishes l10n (setStage_found found _) rfl
          exact waiting.step stepped rfl
      | waitHelper pid proc => exact waiting_finishes l10n found rfl
      | waitTerm pid proc => exact waiting_finishes l10n found rfl
      | waitKill pid proc => exact waiting_finishes l10n found rfl
      | restoring proc => exact ending_finishes l10n {} found rfl
  | _ => contradiction

/-- The record is kept from now on if and only if it is the newest mark and no teardown
runs. -/
theorem kept_iff {s : Controller} (sound : s.ledger.Sound) (location : UInt32) (wifi : Bool) :
    Kept l10n s location wifi ↔
      location ≠ 0 ∧ s.disconnectRunning = false ∧
        s.ledger.marks.head? = some (.recorded location wifi) := by
  have now : Later l10n s s := ⟨[], rfl, rfl⟩
  constructor
  · intro kept
    have place := kept.place s now
    have somewhere : location ≠ 0 := by
      rintro rfl
      exact not_noticesUnplug place 0 (kept.unplug s now)
    have free : s.disconnectRunning = false := by
      rw [Bool.eq_false_iff]
      intro running
      obtain ⟨last, later, nowhere⟩ := running_finishes l10n sound running
      exact somewhere ((kept.place last later).symm.trans nowhere)
    have newest := sound.newest free (place ▸ somewhere : s.connectedLocation ≠ 0)
    refine ⟨somewhere, free, newest.trans ?_⟩
    exact congrArg₂ (fun location wifi => some (Mark.recorded location wifi)) place
      (kept.radio s now)
  · rintro ⟨somewhere, free, newest⟩
    obtain ⟨place, radio, -⟩ := sound.of_newest newest
    have stays (later : Controller) (soon : Later l10n s later) :
        later.ledger.Sound ∧ later.disconnectRunning = false ∧
          later.connectedLocation = location ∧ later.restoreWifiOnDisconnect = wifi := by
      obtain ⟨labels, ran, same⟩ := soon
      obtain ⟨record, -⟩ := run_stays sound free ran same
      refine ⟨run_sound sound ran, (congrArg Record.running record).trans free, ?_, ?_⟩
      · exact (congrArg Record.location record).trans place
      · exact (congrArg Record.wifi record).trans radio
    constructor
    · exact fun later soon => (stays later soon).2.2.1
    · exact fun later soon => (stays later soon).2.2.2
    · intro later soon
      obtain ⟨sound', free', rfl, -⟩ := stays later soon
      exact noticesUnplug sound' free' somewhere
    · rintro rfl later soon resetToIdle calls
      exact beginDisconnect_turnsOn (stays later soon).2.2.2 resetToIdle calls

/-- A launch does not touch the record. -/
theorem Launches.ledger {s next : Controller} {job : Nat} {calls : Calls} {attempt : Attempt}
    (launches : s.Launches job calls attempt)
    (stepped : step l10n s (.resume job calls) = some next) :
    next.ledger = s.ledger.turn job .finished := by
  obtain ⟨session, ⟨found, pid, started⟩ | ⟨found, current, launched⟩⟩ := launches
  · change s.resume l10n job calls = some next at stepped
    rw [resume_startConnect found, started] at stepped
    cases stepped
    exact setStage_ledger (s.launchViaHelper job attempt.gen pid) job .finished
  · change s.resume l10n job calls = some next at stepped
    rw [resume, found] at stepped
    cases stepped
    rw [setStage_ledger, answerConnect_ledger]
    rfl

theorem Launches.does {s : Controller} {job : Nat} {calls : Calls} {attempt : Attempt}
    (launches : s.Launches job calls attempt) :
    Does s.ledger.duties job (some attempt.gen) .opening := by
  obtain ⟨session, ⟨found, -⟩ | ⟨found, -⟩⟩ := launches
  · exact duty_found found
  · exact duty_found found

/-- An attempt that launches its engine has its record if and only if it is superseded by
an attempt that has recorded the same phone and no teardown has come since. -/
theorem launch_kept_iff {preferDefaultRoute : Bool} {helperStatus : HelperStatus}
    {labels : List Label} {s next : Controller} {job : Nat} {calls : Calls} {attempt : Attempt}
    (ran : run (step l10n) (initial preferDefaultRoute helperStatus) labels = some s)
    (launches : s.Launches job calls attempt)
    (stepped : step l10n s (.resume job calls) = some next) :
    Kept l10n next attempt.location attempt.wifi ↔
      attempt.gen ≠ s.connectGen ∧ attempt.location ≠ 0 ∧ s.disconnectRunning = false ∧
        s.ledger.marks.head? = some (.recorded attempt.location attempt.wifi) := by
  have sound := run_sound (initial_sound preferDefaultRoute helperStatus) ran
  have ledger := launches.ledger stepped
  have marks : next.ledger.marks = s.ledger.marks := by
    rw [ledger]
    rfl
  have running : next.disconnectRunning = s.disconnectRunning :=
    congrArg (fun l => l.record.running) ledger
  rw [kept_iff (step_sound sound stepped), running, marks]
  constructor
  · rintro ⟨somewhere, free, newest⟩
    refine ⟨?_, somewhere, free, newest⟩
    -- the teardown of the current attempt has ended behind its record
    intro current
    have does := launches.does
    rw [current] at does
    have cleared := sound.opening job does
    rw [(sound.of_newest newest).2.2] at cleared
    contradiction
  · exact And.right

end Controller

/-- The phone is found, the user connects twice, and the helper starts the engine of the
first attempt. -/
def connectsTwice : List Label :=
  [.poll [phone], .connectSelected true, .resume 0 helped, .connectSelected true]

/-- The first attempt finds the record of the second. -/
theorem connectsTwice_kept :
    ∃ s next, run (Controller.step plainTexts) (.initial true .enabled) connectsTwice = some s ∧
      Controller.step plainTexts s (.resume 0 helped) = some next ∧
      Controller.Kept plainTexts next phone.location true := by
  have shown : (run (Controller.step plainTexts) (.initial true .enabled) connectsTwice).map
      (fun s => (s.jobs[0]?, s.connectGen, s.disconnectRunning, s.ledger.marks.head?)) =
        some (some ⟨.connect ⟨1, phone.location, true, true⟩, .startConnect 0⟩, 2, false,
          some (.recorded phone.location true)) := by
    decide +kernel
  obtain ⟨s, ran, found⟩ := Option.map_eq_some_iff.mp shown
  simp only [Prod.mk.injEq] at found
  obtain ⟨job, gen, free, newest⟩ := found
  have stepped : Controller.step plainTexts s (.resume 0 helped) = _ :=
    Controller.resume_startConnect job
  refine ⟨s, _, ran, stepped, ?_⟩
  apply (Controller.launch_kept_iff ran ⟨0, .inl ⟨job, 77, rfl⟩⟩ stepped).mpr
  exact ⟨gen ▸ nofun, by decide, free, newest⟩

/-- The helper starts the engine of the only attempt, and its record is gone. -/
theorem helperConnects_forgets :
    ∃ s next, run (Controller.step plainTexts) (.initial true .enabled)
        [.poll [phone], .connectSelected true, .resume 0 helped] = some s ∧
      s.Launches 0 helped ⟨1, phone.location, true, true⟩ ∧
      Controller.step plainTexts s (.resume 0 helped) = some next ∧
      next.connectedLocation = 0 ∧ next.restoreWifiOnDisconnect = false ∧
      ¬ Controller.Kept plainTexts next phone.location true := by
  have shown : (run (Controller.step plainTexts) (.initial true .enabled)
      [.poll [phone], .connectSelected true, .resume 0 helped]).map
        (fun s => (s.jobs[0]?, s.connectedLocation, s.restoreWifiOnDisconnect)) =
          some (some ⟨.connect ⟨1, phone.location, true, true⟩, .startConnect 0⟩, 0, false) := by
    decide +kernel
  obtain ⟨s, ran, found⟩ := Option.map_eq_some_iff.mp shown
  simp only [Prod.mk.injEq] at found
  obtain ⟨job, nowhere, forgotten⟩ := found
  have stepped : Controller.step plainTexts s (.resume 0 helped) = _ :=
    Controller.resume_startConnect job
  refine ⟨s, _, ran, ⟨0, .inl ⟨job, 77, rfl⟩⟩, stepped, nowhere, forgotten, fun kept => ?_⟩
  have place := kept.place _ ⟨[], rfl, rfl⟩
  exact absurd (nowhere.symm.trans place) (by decide)

end WiredTethering.App
