import WiredTethering.App.Status
import WiredTethering.Transition.Core

/-!
# The controller of the menu-bar app

`TetherController`, `EngineSession` and `AdminAuthPrompt` as one labelled transition
system.  The main actor runs one piece of a task at a time: a step is a call from the
user interface, a message of an accept thread, or a task running up to where it is
suspended next.  The label carries what the calls to the outside return in the step.

Accept threads and deallocations run beside the main actor.  All sessions of the
process have one socket path.  What goes to the log, and the animation of the menu-bar
icon, are left out.
-/

namespace WiredTethering.App

open WiredTethering.Transition

/-- Where a `disconnectAsync` is suspended; behind its start it holds the process id of
the engine and the `Process` of the launch. -/
inductive Phase
  | start
  | waiting
  | waitStop (pid : Int) (proc : Option Nat)
  | stopEngine (pid : Int) (proc : Option Nat)
  | waitHelper (pid : Int) (proc : Option Nat)
  | waitTerm (pid : Int) (proc : Option Nat)
  | waitKill (pid : Int) (proc : Option Nat)
  | restoring (proc : Option Nat)
deriving DecidableEq, Repr

/-- What the task of `connectSelected` captures.  Whether Wi-Fi is to be turned on again
is only recorded in the controller. -/
structure Attempt where
  gen : Nat
  location : UInt32
  prefer : Bool
  wifi : Bool
deriving DecidableEq, Repr

/-- Who awaits a `disconnectAsync`. -/
inductive Purpose
  | connect (attempt : Attempt)
  | disconnect (resetToIdle : Bool)
  | removeHelper
deriving DecidableEq, Repr

def Purpose.resetToIdle : Purpose → Bool
  | .connect _ => false
  | .disconnect resetToIdle => resetToIdle
  | .removeHelper => true

/-- Where a task is suspended.  An attempt that has opened its session holds it. -/
inductive Stage
  | tearDown (phase : Phase)
  | startConnect (session : Nat)
  | request (session : Nat)
  | answered (session : Nat) (confirmed : Bool)
  | finished
deriving DecidableEq, Repr

structure Job where
  purpose : Purpose
  stage : Stage
deriving DecidableEq, Repr

/-- The session that the rest of the task uses. -/
def Stage.holds : Stage → Option Nat
  | .startConnect session | .request session | .answered session _ => some session
  | .tearDown _ | .finished => none

/-- The thread of an `EngineSession`. -/
inductive Thread
  | absent
  | starting
  | accepting
  | accepted
  | reading
  | ended
deriving DecidableEq, Repr

def Thread.running : Thread → Bool
  | .accepting | .accepted | .reading => true
  | .absent | .starting | .ended => false

structure EngineSession where
  listener : Bool := false
  client : Bool := false
  thread : Thread := .absent
  freed : Bool := false
deriving DecidableEq, Repr

/-- The task of a watchdog, and the generation of the attempt that started it. -/
structure Watchdog where
  gen : Nat
  cancelled : Bool := false
  finished : Bool := false
deriving DecidableEq, Repr

/-- What the controller has done, as far as others notice. -/
inductive Entry
  | recorded (location : UInt32) (wifi : Bool)
  | tearsDown
  | tornDown
  | turnedWifiOn
  | stopped (session : Nat)
  | askedHelper
  | sigterm (pid : Int)
  | sigkill (pid : Int)
  | terminated (proc : Nat)
  | launched (job : Nat)
deriving DecidableEq, Repr

/-- The fields of `TetherController`, and behind `disconnectRunning` what is around it. -/
structure Controller where
  devices : List USBDevice := []
  selectedID : Option String := none
  status : EngineStatus := {}
  preferDefaultRoute : Bool := true
  rates : Rates := {}
  helperStatus : HelperStatus := .unavailable
  pendingRouteRestore : Bool := false
  session : Option Nat := none
  privilegedProcess : Option Nat := none
  engineWatchdog : Option Nat := none
  sawEngineTraffic : Bool := false
  userStopping : Bool := false
  enginePid : Int := 0
  /-- Whether `lastSocketPath` is set; there is one path. -/
  lastSocketPath : Bool := false
  connectGen : Nat := 0
  restoreWifiOnDisconnect : Bool := false
  connectedLocation : UInt32 := 0
  usbMissingPolls : Nat := 0
  disconnectRunning : Bool := false
  /-- The attempt that `AdminAuthPrompt.continuation` resumes. -/
  continuation : Option Nat := none
  jobs : List Job := []
  sessions : List EngineSession := []
  watchdogs : List Watchdog := []
  /-- The launched processes; `true` where the exit has been handled. -/
  processes : List Bool := []
  /-- The messages on the way to the main actor.  The session that posted one is not part
  of the message. -/
  events : List (Nat × EngineEvent) := []
  /-- Which session bound the file at the socket path. -/
  socketFile : Option Nat := none
  /-- The newest entry comes first. -/
  journal : List Entry := []
deriving DecidableEq, Repr

/-- What the outside answers while a task runs on. -/
structure Calls where
  /-- `WiFiPower.markerPresent()`. -/
  markerPresent : Bool := false
  pidfile : Int := 0
  /-- `pidIsAlive` before the helper is asked, before SIGTERM, before SIGKILL, and last. -/
  aliveBeforeHelper : Bool := false
  aliveBeforeTerm : Bool := false
  aliveBeforeKill : Bool := false
  aliveAtEnd : Bool := false
  /-- Whether the launched `Process` still runs at the end. -/
  procRunning : Bool := false
  /-- Whether `restoreNetwork` returned without an error. -/
  restored : Bool := true
  /-- `HelperClient.status()`. -/
  helperStatus : HelperStatus := .unavailable
  /-- The error of `startListening`. -/
  listenError : Option String := none
  /-- `HelperClient.startConnect`: the process id of the engine. -/
  startConnect : Except String Int := .ok 2
  /-- The error of `launchPrivilegedConnect`. -/
  launchError : Option String := none
deriving Repr

namespace Controller

/-- `selectedDevice`. -/
def selectedDevice (s : Controller) : Option USBDevice :=
  (s.devices.find? fun d => some d.id = s.selectedID).or s.devices.head?

/-- `needsEngineTeardown`. -/
def needsEngineTeardown (s : Controller) : Bool :=
  s.session.isSome || s.privilegedProcess.isSome || 1 < s.enginePid || s.status.state.isActive

def note (s : Controller) (e : Entry) : Controller :=
  { s with journal := e :: s.journal }

/-- A new task, which has not begun. -/
def spawn (s : Controller) (purpose : Purpose) : Controller :=
  { s with jobs := s.jobs ++ [⟨purpose, .tearDown .start⟩] }

def setStage (s : Controller) (job : Nat) (stage : Stage) : Controller :=
  { s with jobs := s.jobs.modify job fun j => { j with stage := stage } }

/-- `EngineSession.stop` of any session: it unlinks the path, whoever bound it. -/
def closeSession (s : Controller) (session : Nat) : Controller :=
  { s with
    sessions := s.sessions.modify session fun e => { e with listener := false, client := false }
    socketFile := none }

/-- `session?.stop()` and `session = nil`. -/
def stopSession (s : Controller) : Controller :=
  match s.session with
  | none => s
  | some session => { (s.closeSession session).note (.stopped session) with session := none }

/-- `engineWatchdog?.cancel()` and `engineWatchdog = nil`. -/
def cancelWatchdog (s : Controller) : Controller :=
  match s.engineWatchdog with
  | none => s
  | some watchdog =>
      { s with
        watchdogs := s.watchdogs.modify watchdog fun w => { w with cancelled := true }
        engineWatchdog := none }

/-- `startEngineWatchdog`, called by the attempt with the generation `gen`. -/
def startEngineWatchdog (s : Controller) (gen : Nat) : Controller :=
  { s with
    watchdogs := s.watchdogs ++ [⟨gen, false, false⟩]
    engineWatchdog := some s.watchdogs.length }

/-- `proc.terminate()` for a process that still runs. -/
def terminateProcess (s : Controller) (proc : Option Nat) (calls : Calls) : Controller :=
  match proc with
  | some proc => if calls.procRunning then s.note (.terminated proc) else s
  | none => s

/-- The status behind a teardown that resets to idle. -/
def showIdle (s : Controller) (resetToIdle : Bool) : Controller :=
  if resetToIdle && s.status.state.isActive then { s with status := {}, rates := {} } else s

/-- The last part of `disconnectAsync`. -/
def endDisconnect (s : Controller) (resetToIdle : Bool) (proc : Option Nat) (calls : Calls) :
    Controller :=
  let s := { s.terminateProcess proc calls with
    privilegedProcess := none, enginePid := 0, connectedLocation := 0, usbMissingPolls := 0 }
  { s.showIdle resetToIdle with disconnectRunning := false }.note .tornDown

/-- The state that is shown while a teardown resets to idle. -/
def showStopping (s : Controller) (resetToIdle : Bool) : Controller :=
  if resetToIdle && s.status.state.isUp then
    { s with status := { s.status with state := .stopping } }
  else s

/-- `disconnectAsync` turns Wi-Fi on in the user's session. -/
def restoreWifi (s : Controller) (markerPresent : Bool) : Controller :=
  let shouldWifi := s.restoreWifiOnDisconnect || markerPresent
  let s := { s with restoreWifiOnDisconnect := false }
  if shouldWifi then s.note .turnedWifiOn else s

/-- The first part of `disconnectAsync`, up to the process id of the engine. -/
def beginDisconnect (s : Controller) (resetToIdle : Bool) (calls : Calls) : Controller × Int :=
  let s := { s with disconnectRunning := true, userStopping := true }.note .tearsDown
  let s := (s.cancelWatchdog.showStopping resetToIdle).restoreWifi calls.markerPresent
  let pid := if s.enginePid ≤ 1 ∧ (s.session.isSome || s.lastSocketPath) then calls.pidfile
    else s.enginePid
  (s.stopSession, pid)

/-- Behind the SIGKILL of `disconnectAsync`. -/
def afterKill (s : Controller) (resetToIdle : Bool) (proc : Option Nat) (calls : Calls) :
    Controller × Option Phase :=
  let pending := { s with pendingRouteRestore := true }
  if calls.aliveAtEnd then (pending.endDisconnect resetToIdle proc calls, none)
  else if s.helperStatus = .enabled then (s.note .askedHelper, some (.restoring proc))
  else (pending.endDisconnect resetToIdle proc calls, none)

/-- Behind the SIGTERM of `disconnectAsync`. -/
def afterTerm (s : Controller) (resetToIdle : Bool) (pid : Int) (proc : Option Nat)
    (calls : Calls) : Controller × Option Phase :=
  if calls.aliveBeforeKill then (s.note (.sigkill pid), some (.waitKill pid proc))
  else s.afterKill resetToIdle proc calls

/-- Behind the request to the helper in `disconnectAsync`. -/
def afterHelper (s : Controller) (resetToIdle : Bool) (pid : Int) (proc : Option Nat)
    (calls : Calls) : Controller × Option Phase :=
  if calls.aliveBeforeTerm then (s.note (.sigterm pid), some (.waitTerm pid proc))
  else s.afterTerm resetToIdle pid proc calls

/-- `disconnectAsync`, from where it is suspended to where it is suspended next or
returns. -/
def disconnectAsync (s : Controller) (resetToIdle : Bool) (phase : Phase) (calls : Calls) :
    Controller × Option Phase :=
  match phase with
  | .start =>
      if s.disconnectRunning then (s, some .waiting)
      else
        let (s, pid) := s.beginDisconnect resetToIdle calls
        if 1 < pid then (s, some (.waitStop pid s.privilegedProcess))
        else (s.endDisconnect resetToIdle s.privilegedProcess calls, none)
  | .waiting =>
      if s.disconnectRunning then (s, some .waiting) else (s.showIdle resetToIdle, none)
  | .waitStop pid proc =>
      if calls.aliveBeforeHelper ∧ s.helperStatus = .enabled then
        (s.note .askedHelper, some (.stopEngine pid proc))
      else s.afterHelper resetToIdle pid proc calls
  | .stopEngine pid proc => (s, some (.waitHelper pid proc))
  | .waitHelper pid proc => s.afterHelper resetToIdle pid proc calls
  | .waitTerm pid proc => s.afterTerm resetToIdle pid proc calls
  | .waitKill _ proc => s.afterKill resetToIdle proc calls
  | .restoring proc =>
      let s := { s with pendingRouteRestore := !calls.restored }
      (s.endDisconnect resetToIdle proc calls, none)

/-- `openEngineSession`: the session, or the error it throws. -/
def openEngineSession (s : Controller) (listenError : Option String) :
    Controller × Except String Nat :=
  let session := s.sessions.length
  let s := { s with socketFile := none, session := some session }
  match listenError with
  | some text => ({ s with sessions := s.sessions ++ [({} : EngineSession)] }, .error text)
  | none =>
      ({ s with
        sessions := s.sessions ++ [{ listener := true, thread := .starting }]
        socketFile := some session
        lastSocketPath := true
        enginePid := 0 }, .ok session)

/-- The outer `catch` of the task of `connectSelected`. -/
def failConnect (s : Controller) (l10n : L10n) (text : String) : Controller :=
  { s with status := { s.status with state := .error, error := l10n.display text } }.stopSession

/-- `AdminAuthPrompt.dismiss`. -/
def dismiss (s : Controller) (confirmed : Bool) : Controller :=
  match s.continuation with
  | none => s
  | some job =>
      { s with
        continuation := none
        jobs := s.jobs.modify job fun j =>
          match j.stage with
          | .request session => { j with stage := .answered session confirmed }
          | _ => j }

/-- `AdminAuthPrompt.request`, called by `job`, which has opened `session`. -/
def request (s : Controller) (job session : Nat) : Controller :=
  { s.dismiss false with continuation := some job }.setStage job (.request session)

/-- The rest of the task of `connectSelected` behind `disconnectAsync`. -/
def openConnect (s : Controller) (l10n : L10n) (job : Nat) (attempt : Attempt) (calls : Calls) :
    Controller :=
  if s.connectGen ≠ attempt.gen then s.setStage job .finished
  else
    let s := { s with userStopping := false, helperStatus := calls.helperStatus }
    match s.openEngineSession calls.listenError with
    | (s, .error text) => (s.failConnect l10n text).setStage job .finished
    | (s, .ok session) =>
        if s.helperStatus = .enabled then s.setStage job (.startConnect session)
        else s.request job session

/-- What awaits a `disconnectAsync` runs on when it returns. -/
def afterDisconnect (s : Controller) (l10n : L10n) (job : Nat) (purpose : Purpose)
    (calls : Calls) : Controller :=
  match purpose with
  | .connect attempt => s.openConnect l10n job attempt calls
  | .disconnect _ => s.setStage job .finished
  | .removeHelper => { s with helperStatus := calls.helperStatus }.setStage job .finished

/-- `launchViaHelper` behind its `await`. -/
def launchViaHelper (s : Controller) (job gen : Nat) (pid : Int) : Controller :=
  ({ s with enginePid := pid, privilegedProcess := none }.startEngineWatchdog gen).note
    (.launched job)

/-- `launchViaOsascript` with a launch that succeeds. -/
def launchViaOsascript (s : Controller) (job gen : Nat) : Controller :=
  ({ s with
    processes := s.processes ++ [false]
    privilegedProcess := some s.processes.length }.startEngineWatchdog gen).note (.launched job)

/-- The prompt of `connectSelected` has been answered. -/
def answerConnect (s : Controller) (l10n : L10n) (job : Nat) (attempt : Attempt) (confirmed : Bool)
    (calls : Calls) : Controller :=
  if !confirmed then { s with status := {} }.stopSession
  else if s.connectGen ≠ attempt.gen then s
  else
    match calls.launchError with
    | some text => s.failConnect l10n text
    | none => s.launchViaOsascript job attempt.gen

/-- A task runs from where it is suspended to where it is suspended next. -/
def resume (l10n : L10n) (s : Controller) (job : Nat) (calls : Calls) : Option Controller :=
  match s.jobs[job]? with
  | none => none
  | some ⟨purpose, .tearDown phase⟩ =>
      match s.disconnectAsync purpose.resetToIdle phase calls with
      | (s, some phase) => some (s.setStage job (.tearDown phase))
      | (s, none) => some (s.afterDisconnect l10n job purpose calls)
  | some ⟨.connect attempt, .startConnect session⟩ =>
      match calls.startConnect with
      | .ok pid => some ((s.launchViaHelper job attempt.gen pid).setStage job .finished)
      | .error _ => some (s.request job session)
  | some ⟨.connect attempt, .answered _ confirmed⟩ =>
      some ((s.answerConnect l10n job attempt confirmed calls).setStage job .finished)
  | some _ => none

/-- `connectSelected`; the radio is on or off. -/
def connectSelected (s : Controller) (wifiIsOn : Bool) : Controller :=
  match s.selectedDevice with
  | none => s
  | some device =>
      if device.kind ≠ .rndis then s
      else
        let gen := s.connectGen + 1
        let wifi := s.preferDefaultRoute && wifiIsOn
        let s := { s with
          connectGen := gen
          restoreWifiOnDisconnect := wifi
          connectedLocation := device.location
          status := { state := .connecting }
          sawEngineTraffic := false
          usbMissingPolls := 0 }
        (s.note (.recorded device.location wifi)).spawn
          (.connect ⟨gen, device.location, s.preferDefaultRoute, wifi⟩)

/-- `disconnect`. -/
def disconnect (s : Controller) : Controller :=
  { s with connectGen := s.connectGen + 1 }.spawn (.disconnect true)

/-- The end of a session that failed: `failUsbSession`, `failUnexpectedEngineExit`, the
watchdog. -/
def failSession (s : Controller) (reason : String) : Controller :=
  { s with
    status := { s.status with state := .error, error := reason }
    connectGen := s.connectGen + 1 }.spawn (.disconnect false)

/-- `failUsbSession`. -/
def failUsbSession (s : Controller) (reason : String) : Controller :=
  if s.status.state = .error then s else s.failSession reason

/-- `failUnexpectedEngineExit`. -/
def failUnexpectedEngineExit (l10n : L10n) (s : Controller) : Controller :=
  if s.status.state = .error ∨ s.userStopping then s
  else s.failSession (l10n.t "error.engine_unexpected")

/-- `noteUsbUnplugIfNeeded`. -/
def noteUsbUnplugIfNeeded (l10n : L10n) (s : Controller) (devices : List USBDevice) : Controller :=
  if s.status.state.isUp = false ∨ s.connectedLocation = 0 then s
  else
    let found := devices.find? fun d => d.location = s.connectedLocation
    if (found.map USBDevice.kind) = some .rndis then { s with usbMissingPolls := 0 }
    else
      let s := { s with usbMissingPolls := s.usbMissingPolls + 1 }
      if s.usbMissingPolls < 2 then s
      else
        s.failUsbSession (l10n.t (if found.isSome then "engine.tether_off" else "engine.usb_gone"))

/-- `refreshDevices` with the list it has parsed. -/
def refreshDevices (l10n : L10n) (s : Controller) (parsed : List USBDevice) : Controller :=
  let kept := s.selectedID.isSome && parsed.any fun d => some d.id = s.selectedID
  let first := (parsed.find? fun d => d.kind = .rndis).or parsed.head?
  let s := { s with
    devices := parsed
    selectedID := if kept then s.selectedID else first.map USBDevice.id }
  s.noteUsbUnplugIfNeeded l10n parsed

/-- `noteHelperEngineGoneIfNeeded`; the engine lives or not. -/
def noteHelperEngineGoneIfNeeded (l10n : L10n) (s : Controller) (alive : Bool) : Controller :=
  if s.userStopping || s.disconnectRunning then s
  else if !s.status.state.isUp then s
  else if 1 < s.enginePid ∧ !alive then s.failUnexpectedEngineExit l10n
  else s

/-- What a watchdog does when its sleep is over. -/
def failSilentEngine (l10n : L10n) (s : Controller) : Controller :=
  if s.status.state = .connecting ∧ s.sawEngineTraffic = false then
    s.failSession (l10n.t "error.engine_silent")
  else s

/-- The task of a watchdog.  A cancelled one only sleeps less. -/
def runWatchdog (l10n : L10n) (s : Controller) (watchdog : Nat) : Option Controller :=
  match s.watchdogs[watchdog]? with
  | none => none
  | some w =>
      if w.finished then none
      else
        let watchdogs := s.watchdogs.modify watchdog fun w => { w with finished := true }
        some ({ s with watchdogs := watchdogs }.failSilentEngine l10n)

/-- `handlePrivilegedExit` of a process that exits with `code`. -/
def handlePrivilegedExit (l10n : L10n) (s : Controller) (proc : Nat) (code : Int) : Controller :=
  if s.privilegedProcess ≠ some proc then s
  else if s.userStopping then { s with userStopping := false }
  else if s.status.state = .connecting then
    { s with status := { s.status with
        state := .error
        error := l10n.t (if code ≠ 0 ∧ !s.sawEngineTraffic then "error.auth_or_start"
          else "error.engine_died_start") } }.spawn (.disconnect false)
  else if s.status.state = .connected then
    { s with status := { s.status with
        state := .error, error := l10n.t "error.engine_unexpected" } }.spawn (.disconnect false)
  else s

/-- The status that `handle` shows for one it applies. -/
def shownStatus (l10n : L10n) (previous incoming : EngineStatus) : EngineStatus :=
  if incoming.state = .error then
    let merged := mergeErrorStatus previous incoming
    { merged with error := l10n.display merged.error }
  else incoming

/-- `handle` at the time `now`. -/
def handle (l10n : L10n) (s : Controller) (event : EngineEvent) (now : Int) : Controller :=
  let s := { s with sawEngineTraffic := true }
  match event with
  | .log _ _ => s
  | .status incoming =>
      if !shouldApplyEngineStatus s.status.state incoming.state s.userStopping then s
      else
        let shown := shownStatus l10n s.status incoming
        let s := { s with
          rates := updateRates s.rates shown now
          status := shown
          enginePid := if 1 < shown.pid then shown.pid else s.enginePid }
        let s := if shown.state = .error then s.cancelWatchdog else s
        if shown.state = .connected then { s with pendingRouteRestore := false } else s
  | .closed =>
      let s := { s with session := none }
      if shouldKeepStateOnSocketClosed s.status.state s.userStopping then s
      else if s.status.state.isUp then s.failUnexpectedEngineExit l10n
      else if s.status.state ≠ .error then { s with status := { s.status with state := .idle } }
      else s

end Controller

/-- What an accept thread does. -/
inductive ThreadOp
  | start
  | acceptFails
  | accept
  | keepClient
  | line (event : EngineEvent)
  | readEnds
deriving DecidableEq, Repr

namespace Controller

def setSession (s : Controller) (session : Nat) (e : EngineSession) : Controller :=
  { s with sessions := s.sessions.set session e }

/-- `onEvent`: a task for the main actor. -/
def post (s : Controller) (session : Nat) (event : EngineEvent) : Controller :=
  { s with events := s.events ++ [(session, event)] }

/-- `acceptLoop`, between two points where other threads may come in. -/
def acceptLoop (s : Controller) (session : Nat) (op : ThreadOp) : Option Controller :=
  match s.sessions[session]? with
  | none => none
  | some e =>
      match op, e.thread with
      | .start, .starting =>
          if e.freed then none
          else if e.listener then some (s.setSession session { e with thread := .accepting })
          else some ((s.setSession session { e with thread := .ended }).post session .closed)
      | .acceptFails, .accepting =>
          some ((s.setSession session { e with thread := .ended }).post session .closed)
      | .accept, .accepting =>
          if e.listener then some (s.setSession session { e with thread := .accepted }) else none
      | .keepClient, .accepted =>
          some (s.setSession session { e with thread := .reading, client := true })
      | .line (.log level message), .reading => some (s.post session (.log level message))
      | .line (.status status), .reading => some (s.post session (.status status))
      | .readEnds, .reading =>
          some ((s.setSession session { e with thread := .ended, client := false }).post session
            .closed)
      | _, _ => none

/-- A session that nothing refers to any more is deallocated, which stops it. -/
def dealloc (s : Controller) (session : Nat) : Option Controller :=
  match s.sessions[session]? with
  | none => none
  | some e =>
      if e.freed ∨ e.thread.running ∨ s.session = some session ∨
          s.jobs.any (fun j => j.stage.holds = some session) then none
      else some ((s.setSession session { e with freed := true }).closeSession session)

end Controller

inductive Label
  | select (id : Option String)
  | prefer (on : Bool)
  | connectSelected (wifiIsOn : Bool)
  | disconnect
  | quit
  /-- The task of `toggleHelper` begins. -/
  | toggleHelper (calls : Calls)
  | poll (devices : List USBDevice)
  | enginePoll (alive : Bool)
  | resume (job : Nat) (calls : Calls)
  | answer (confirmed : Bool)
  | watchdog (watchdog : Nat)
  | privilegedExit (proc : Nat) (code : Int)
  | thread (session : Nat) (op : ThreadOp)
  | receive (index : Nat) (now : Int)
  | dealloc (session : Nat)
deriving Repr

namespace Controller

/-- The task of `toggleHelper`. -/
def toggleHelper (l10n : L10n) (s : Controller) (calls : Calls) : Option Controller :=
  if s.helperStatus = .enabled ∧ s.status.state.isActive then
    (s.spawn .removeHelper).resume l10n s.jobs.length calls
  else some { s with helperStatus := calls.helperStatus }

def step (l10n : L10n) : Step Controller Label := fun s label =>
  match label with
  | .select id => some { s with selectedID := id }
  | .prefer on => some { s with preferDefaultRoute := on }
  | .connectSelected wifiIsOn => some (s.connectSelected wifiIsOn)
  | .disconnect => some s.disconnect
  | .quit => if s.needsEngineTeardown then some (s.spawn (.disconnect true)) else none
  | .toggleHelper calls => s.toggleHelper l10n calls
  | .poll devices => some (s.refreshDevices l10n devices)
  | .enginePoll alive => some (s.noteHelperEngineGoneIfNeeded l10n alive)
  | .resume job calls => s.resume l10n job calls
  | .answer confirmed => if s.continuation.isSome then some (s.dismiss confirmed) else none
  | .watchdog watchdog => s.runWatchdog l10n watchdog
  | .privilegedExit proc code =>
      if s.processes[proc]? = some false then
        some ({ s with processes := s.processes.set proc true }.handlePrivilegedExit l10n proc code)
      else none
  | .thread session op => s.acceptLoop session op
  | .receive index now =>
      match s.events[index]? with
      | none => none
      | some (_, event) =>
          some ({ s with events := s.events.eraseIdx index }.handle l10n event now)
  | .dealloc session => s.dealloc session

/-- The app has been launched. -/
def initial (preferDefaultRoute : Bool) (helperStatus : HelperStatus) : Controller :=
  { preferDefaultRoute := preferDefaultRoute, helperStatus := helperStatus }

end Controller

/-- Every text is shown as it comes. -/
def plainTexts : L10n :=
  ⟨id, id⟩

/-- A phone that tethers. -/
def phone : USBDevice :=
  ⟨0x04e8, 0x6863, 0x01100000, "Phone", "Vendor", "R58", .rndis⟩

/-- The helper is enabled, and starts the engine as process 77. -/
def helped : Calls :=
  { helperStatus := .enabled, startConnect := .ok 77 }

/-- The phone is found, and the helper starts an engine for it. -/
def helperConnects : List Label :=
  [.poll [phone], .connectSelected true, .resume 0 helped, .resume 0 helped]

end WiredTethering.App
