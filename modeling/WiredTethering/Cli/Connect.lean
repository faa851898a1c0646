import WiredTethering.Status.Channel
import WiredTethering.Usb.Registry

/-!
# The connect command

`cmd_connect` opens the status channel, writes its pid file, starts the engine and reports it
once a second, until a signal, a failure or the app stops it.  Its steps are taken one by one,
with what each call answers in the label.
-/

namespace WiredTethering.Cli

open WiredTethering.Memory
open WiredTethering.Common
open WiredTethering.Engine
open WiredTethering.Status
open WiredTethering.Transition
open WiredTethering.Usb

/-! ## The socket and the pid file -/

/-- `addr.sun_path` in `at_status_open`, which is filled with zeros before. -/
def sunPath (socketPath : Bytes) : Bytes :=
  strlcpy socketPath 104 ++ List.replicate (104 - (strlcpy socketPath 104).length) 0

/-- `g_pidfile`. -/
def pidfilePath (socketPath : Bytes) : Bytes :=
  (socketPath ++ cstr ".pid").take 511

/-- What `write_pidfile` prints. -/
def pidfileText (pid : Int32) : Bytes :=
  signedStr pid.toInt ++ [0x0a]

/-! ## The command -/

inductive ConnectPc
  | opening
  | creating
  | filling
  | picking
  | starting (want : AtUsbDeviceInfo)
  | looping
  | checking
  | selecting
  | stopping
  | ending
  | closing
  | unlinking
  | exited (status : Int)
deriving DecidableEq

inductive EngineLife
  | none
  | running
  | stopped
deriving DecidableEq, Repr

/-- The command.  `created` is whether `g_pidfile` has a name, `file` what is in the file
of that name, and `messages` what the command itself has handed to `at_status_emit`; the lines
that other threads log are not among them. -/
structure Connect where
  pc : ConnectPc
  socketPath : Option Bytes
  pid : Int32
  channel : Bool
  created : Bool
  file : Option Bytes
  engine : EngineLife
  gStop : Bool
  failed : Bool
  err : Bytes
  messages : List Message
deriving DecidableEq

def Connect.start (socketPath : Option Bytes) (pid : Int32) (file : Option Bytes) : Connect where
  pc := .opening
  socketPath := socketPath
  pid := pid
  channel := false
  created := false
  file := file
  engine := .none
  gStop := false
  failed := false
  err := []
  messages := []

/-- What `select` and `recv` find; `stale` is what stood in the buffer. -/
inductive Heard
  | nothing
  | failed
  | hungUp
  | bytes (data stale : Bytes)
deriving DecidableEq, Repr

/-- What a call of the command answers.  The pid file is written whole or not at all, and `unlink`
does not fail. -/
inductive ConnectLabel
  | opened (ok : Bool)
  | created (ok : Bool)
  | filled (ok : Bool)
  | picked (device : Option AtUsbDeviceInfo)
  | started (ok : Bool) (lastError : Bytes)
  /-- A signal, once `on_signal` is installed. -/
  | signal
  /-- The head of the loop, and `at_status_engine`. -/
  | reported (view : EngineView) (ok : Bool)
  | checked (state : AtState)
  | heard (heard : Heard)
  /-- What the engine says before it is stopped. -/
  | stopped (state : AtState) (error : Bytes)
  | ended
  | closed
  | unlinked

/-- `at_log` on the channel. -/
def Connect.log (s : Connect) (level : AtLogLevel) (text : Bytes) : Connect :=
  { s with messages := s.messages ++ [.log level (text.take 1023)] }

/-- A status line of the command itself. -/
def Connect.say (s : Connect) (error : Option Bytes) : Connect :=
  { s with messages := s.messages ++ [.ended error] }

def Connect.goto (s : Connect) (pc : ConnectPc) : Connect :=
  { s with pc := pc }

/-- A start that failed. -/
def Connect.giveUp (s : Connect) (error : Bytes) : Connect :=
  { (s.say (some error)).goto .closing with failed := true }

/-- `%04x` of an id. -/
def hex4 (n : UInt16) : Bytes :=
  hex2 (n >>> 8).toUInt8 ++ hex2 n.toUInt8

def connectingText (want : AtUsbDeviceInfo) : Bytes :=
  cstr "Connecting to " ++ want.name ++ cstr " (" ++ hex4 want.vid ++ cstr ":" ++ hex4 want.pid ++
    cstr ")"

def disconnectedText : Bytes :=
  cstr "GUI disconnected; stopping the engine"

/-- Behind `pick_device`. -/
def Connect.pick (s : Connect) : Option AtUsbDeviceInfo → Connect
  | none =>
      (s.log .error (cstr "No RNDIS device to connect. Turn on USB tethering.")).giveUp
        (cstr "no rndis device")
  | some want =>
      if want.kind = .rndis then (s.log .info (connectingText want)).goto (.starting want)
      else
        (s.log .error
          (cstr "The device is not in RNDIS mode. Enable USB tethering on the phone.")).giveUp
            (cstr "tethering not enabled")

/-- `strncmp(tmp, "stop", 4)`, of what was received over what stood there. -/
def asksToStop (data stale : Bytes) : Bool :=
  (data ++ stale.drop data.length).take 4 = cstr "stop"

/-- Behind `select`. -/
def Connect.hear (s : Connect) : Heard → Connect
  | .nothing => s.goto .looping
  | .failed => s.goto .looping
  | .hungUp => (s.log .info disconnectedText).goto .stopping
  | .bytes data stale => s.goto (if asksToStop data stale then .stopping else .looping)

/-- The round of the loop up to the state of the engine. -/
def Connect.report (s : Connect) (view : EngineView) (ok : Bool) : Connect :=
  if s.gStop then s.goto .stopping
  else
    let s := { s with messages := s.messages ++ [Message.engine view s.pid] }
    if ok then s.goto .checking else (s.log .info disconnectedText).goto .stopping

/-- A call of `cmd_connect`, and what follows on it. -/
def Connect.answer (s : Connect) : ConnectPc → ConnectLabel → Option Connect
  | .opening, .opened ok =>
      some (if ok then { s with channel := true }.goto
          (if s.socketPath.getD [] = [] then .picking else .creating)
        else s.goto (.exited 1))
  | .creating, .created ok =>
      some (if ok then { s with created := true, file := some [] }.goto .filling
        else s.goto .picking)
  | .filling, .filled ok =>
      some (if ok then { s with file := some (pidfileText s.pid) }.goto .picking
        else s.goto .picking)
  | .picking, .picked device => some (s.pick device)
  | .starting _, .started ok lastError =>
      some (if ok then { s with engine := .running }.goto .looping else s.giveUp lastError)
  | .looping, .reported view ok => some (s.report view ok)
  | .checking, .checked state =>
      some (if state = .error then { s with gStop := true }.goto .stopping else s.goto .selecting)
  | .selecting, .heard heard => some (s.hear heard)
  | .stopping, .stopped state error =>
      some { (s.log .info (cstr "Stopping tether")).goto .ending with
        engine := .stopped, failed := state = .error, err := strlcpy error 256 }
  | .ending, .ended => some ((s.say (if s.failed then some s.err else none)).goto .closing)
  | .closing, .closed => some ({ s with channel := false }.goto .unlinking)
  | .unlinking, .unlinked =>
      some { s.goto (.exited (if s.failed then 1 else 0)) with
        created := false, file := if s.created then none else s.file }
  | _, _ => none

/-- A step of `cmd_connect`. -/
def connectStep : Step Connect ConnectLabel
  | s, .signal => if s.engine = .running then some { s with gStop := true } else none
  | s, label => s.answer s.pc label

/-! ## Every run -/

def isLastLine : Message → Bool
  | .ended _ => true
  | _ => false

/-- None of the messages is a last status line. -/
def Quiet (messages : List Message) : Prop :=
  ∀ m ∈ messages, isLastLine m = false

/-- The last message is the only last status line. -/
def EndsWith (messages : List Message) (error : Option Bytes) : Prop :=
  ∃ front, Quiet front ∧ messages = front ++ [.ended error]

/-- In front of the loop. -/
def ConnectPc.preparing : ConnectPc → Bool
  | .creating => true
  | .filling => true
  | .picking => true
  | .starting _ => true
  | _ => false

def ConnectPc.inLoop : ConnectPc → Bool
  | .looping => true
  | .checking => true
  | .selecting => true
  | .stopping => true
  | _ => false

/-- The pid file, once it is the command's own. -/
structure Pidfile (pid : Int32) (leftover : Option Bytes) (s : Connect) : Prop where
  process : s.pid = pid
  own : s.created = true → s.file = some [] ∨ s.file = some (pidfileText pid)
  other : s.created = false → s.file = leftover

/-- What holds of the command, by how far it is. -/
inductive ConnectStage (pid : Int32) (leftover : Option Bytes) (s : Connect) : Prop
  | opening (pc : s.pc = .opening) (channel : s.channel = false) (engine : s.engine = .none)
      (silent : s.messages = []) (created : s.created = false) (pidfile : Pidfile pid leftover s)
  | refused (pc : s.pc = .exited 1) (channel : s.channel = false) (engine : s.engine = .none)
      (silent : s.messages = []) (created : s.created = false) (file : s.file = leftover)
  | preparing (pc : s.pc.preparing = true) (channel : s.channel = true)
      (engine : s.engine = .none) (quiet : Quiet s.messages) (pidfile : Pidfile pid leftover s)
      (filling : s.pc = .filling → s.created = true)
  | running (pc : s.pc.inLoop = true) (channel : s.channel = true)
      (engine : s.engine = .running) (quiet : Quiet s.messages) (pidfile : Pidfile pid leftover s)
  | ending (pc : s.pc = .ending) (channel : s.channel = true) (engine : s.engine = .stopped)
      (quiet : Quiet s.messages) (pidfile : Pidfile pid leftover s)
  | closing {error : Option Bytes} (pc : s.pc = .closing) (engine : s.engine ≠ .running)
      (ends : EndsWith s.messages error) (failed : s.failed = error.isSome)
      (pidfile : Pidfile pid leftover s)
  | unlinking {error : Option Bytes} (pc : s.pc = .unlinking) (channel : s.channel = false)
      (engine : s.engine ≠ .running) (ends : EndsWith s.messages error)
      (failed : s.failed = error.isSome) (pidfile : Pidfile pid leftover s)
  | exited {error : Option Bytes} (pc : s.pc = .exited (if error.isSome then 1 else 0))
      (channel : s.channel = false) (engine : s.engine ≠ .running)
      (ends : EndsWith s.messages error) (created : s.created = false)
      (file : s.file = none ∨ s.file = leftover)

theorem Quiet.concat {messages : List Message} (quiet : Quiet messages) {m : Message}
    (other : isLastLine m = false) : Quiet (messages ++ [m]) := by
  rw [Quiet, List.forall_mem_append, List.forall_mem_singleton]
  exact ⟨quiet, other⟩

theorem Quiet.ends {messages : List Message} (quiet : Quiet messages) (error : Option Bytes) :
    EndsWith (messages ++ [.ended error]) error :=
  ⟨messages, quiet, rfl⟩

variable {pid : Int32} {leftover : Option Bytes} {s next : Connect}

/-- The pid file of a state in which nothing of it has changed. -/
theorem Pidfile.same (pidfile : Pidfile pid leftover s) (own : next.pid = s.pid)
    (created : next.created = s.created) (file : next.file = s.file) :
    Pidfile pid leftover next where
  process := own.trans pidfile.process
  own := fun is => file ▸ pidfile.own (created ▸ is)
  other := fun is => file.trans (pidfile.other (created ▸ is))

theorem stage_signal (stage : ConnectStage pid leftover s) (running : s.engine = .running) :
    ConnectStage pid leftover { s with gStop := true } := by
  cases stage with
  | opening pc channel engine silent created pidfile => rw [engine] at running; cases running
  | refused pc channel engine silent created file => rw [engine] at running; cases running
  | preparing pc channel engine quiet pidfile filling => rw [engine] at running; cases running
  | running pc channel engine quiet pidfile =>
      exact .running pc channel engine quiet (pidfile.same rfl rfl rfl)
  | ending pc channel engine quiet pidfile => rw [engine] at running; cases running
  | closing pc engine ends failed pidfile => exact absurd running engine
  | unlinking pc channel engine ends failed pidfile => exact absurd running engine
  | exited pc channel engine ends created file => exact absurd running engine

/-- A start that fails ends with the error. -/
theorem stage_giveUp (engine : s.engine = .none) (quiet : Quiet s.messages)
    (pidfile : Pidfile pid leftover s) (error : Bytes) :
    ConnectStage pid leftover (s.giveUp error) :=
  have over_ : (s.giveUp error).engine ≠ .running :=
    fun running => absurd (engine.symm.trans running) (by decide)
  .closing rfl over_ (quiet.ends (some error)) rfl (pidfile.same rfl rfl rfl)

theorem stage_log_giveUp (engine : s.engine = .none) (quiet : Quiet s.messages)
    (pidfile : Pidfile pid leftover s) (text error : Bytes) :
    ConnectStage pid leftover ((s.log .error text).giveUp error) := by
  have logged : Quiet (s.log .error text).messages := quiet.concat rfl
  have same : Pidfile pid leftover (s.log .error text) := pidfile.same rfl rfl rfl
  exact @stage_giveUp pid leftover (s.log .error text) engine logged same error

theorem stage_pick (channel : s.channel = true) (engine : s.engine = .none)
    (quiet : Quiet s.messages) (pidfile : Pidfile pid leftover s)
    (device : Option AtUsbDeviceInfo) : ConnectStage pid leftover (s.pick device) := by
  cases device with
  | none => exact stage_log_giveUp engine quiet pidfile _ _
  | some want =>
      rw [Connect.pick]
      split_ifs
      · exact .preparing rfl channel engine (quiet.concat rfl) (pidfile.same rfl rfl rfl) nofun
      · exact stage_log_giveUp engine quiet pidfile _ _

theorem stage_preparing {label : ConnectLabel} (pc : s.pc.preparing = true)
    (channel : s.channel = true) (engine : s.engine = .none) (quiet : Quiet s.messages)
    (pidfile : Pidfile pid leftover s) (filling : s.pc = .filling → s.created = true)
    (stepped : s.answer s.pc label = some next) : ConnectStage pid leftover next := by
  cases here : s.pc with
  | creating =>
      rw [here] at stepped
      cases label with
      | created ok =>
          cases stepped
          cases ok with
          | true =>
              have own : Pidfile pid leftover
                  ({ s with created := true, file := some [] }.goto .filling) :=
                ⟨pidfile.process, fun _ => .inl rfl,
                  fun none_ => absurd none_.symm Bool.false_ne_true⟩
              exact .preparing rfl channel engine quiet own fun _ => rfl
          | false => exact .preparing rfl channel engine quiet (pidfile.same rfl rfl rfl) nofun
      | _ => cases stepped
  | filling =>
      rw [here] at stepped
      cases label with
      | filled ok =>
          cases stepped
          cases ok with
          | true =>
              have created := filling here
              have own : Pidfile pid leftover
                  ({ s with file := some (pidfileText s.pid) }.goto .picking) := by
                refine ⟨pidfile.process, fun _ => .inr ?_, fun none_ => ?_⟩
                · exact congrArg (fun pid => some (pidfileText pid)) pidfile.process
                · exact absurd (created.symm.trans none_) (by decide)
              exact .preparing rfl channel engine quiet own nofun
          | false => exact .preparing rfl channel engine quiet (pidfile.same rfl rfl rfl) nofun
      | _ => cases stepped
  | picking =>
      rw [here] at stepped
      cases label with
      | picked device =>
          cases stepped
          exact stage_pick channel engine quiet pidfile device
      | _ => cases stepped
  | starting want =>
      rw [here] at stepped
      cases label with
      | started ok lastError =>
          cases stepped
          cases ok with
          | true => exact .running rfl channel rfl quiet (pidfile.same rfl rfl rfl)
          | false => exact stage_giveUp engine quiet pidfile lastError
      | _ => cases stepped
  | _ => rw [here] at pc; cases pc

theorem stage_running {label : ConnectLabel} (pc : s.pc.inLoop = true)
    (channel : s.channel = true) (engine : s.engine = .running) (quiet : Quiet s.messages)
    (pidfile : Pidfile pid leftover s) (stepped : s.answer s.pc label = some next) :
    ConnectStage pid leftover next := by
  cases here : s.pc with
  | looping =>
      rw [here] at stepped
      cases label with
      | reported view ok =>
          cases stepped
          rw [Connect.report]
          split_ifs
          · exact .running rfl channel engine quiet (pidfile.same rfl rfl rfl)
          · exact .running rfl channel engine (quiet.concat rfl) (pidfile.same rfl rfl rfl)
          · exact .running rfl channel engine ((quiet.concat rfl).concat rfl)
              (pidfile.same rfl rfl rfl)
      | _ => cases stepped
  | checking =>
      rw [here] at stepped
      cases label with
      | checked state =>
          cases stepped
          split_ifs
          · exact .running rfl channel engine quiet (pidfile.same rfl rfl rfl)
          · exact .running rfl channel engine quiet (pidfile.same rfl rfl rfl)
      | _ => cases stepped
  | selecting =>
      rw [here] at stepped
      cases label with
      | heard heard =>
          cases stepped
          cases heard with
          | nothing => exact .running rfl channel engine quiet (pidfile.same rfl rfl rfl)
          | failed => exact .running rfl channel engine quiet (pidfile.same rfl rfl rfl)
          | hungUp =>
              exact .running rfl channel engine (quiet.concat rfl) (pidfile.same rfl rfl rfl)
          | bytes data stale =>
              rw [Connect.hear]
              split_ifs
              · exact .running rfl channel engine quiet (pidfile.same rfl rfl rfl)
              · exact .running rfl channel engine quiet (pidfile.same rfl rfl rfl)
      | _ => cases stepped
  | stopping =>
      rw [here] at stepped
      cases label with
      | stopped state error =>
          cases stepped
          exact .ending rfl channel rfl (quiet.concat rfl) (pidfile.same rfl rfl rfl)
      | _ => cases stepped
  | _ => rw [here] at pc; cases pc

/-- Every step leads on. -/
theorem stage_answer {label : ConnectLabel} (stage : ConnectStage pid leftover s)
    (stepped : s.answer s.pc label = some next) : ConnectStage pid leftover next := by
  cases stage with
  | opening pc channel engine silent created pidfile =>
      rw [pc] at stepped
      have quiet : Quiet s.messages := by
        rw [silent]
        exact fun m mem => absurd mem List.not_mem_nil
      cases label with
      | opened ok =>
          cases stepped
          cases ok with
          | true =>
              by_cases noPath : s.socketPath.getD [] = []
              · rw [if_pos rfl, if_pos noPath]
                exact .preparing rfl rfl engine quiet (pidfile.same rfl rfl rfl) nofun
              · rw [if_pos rfl, if_neg noPath]
                exact .preparing rfl rfl engine quiet (pidfile.same rfl rfl rfl) nofun
          | false => exact .refused rfl channel engine silent created (pidfile.other created)
      | _ => cases stepped
  | refused pc channel engine silent created file =>
      rw [pc] at stepped
      cases label <;> cases stepped
  | preparing pc channel engine quiet pidfile filling =>
      exact stage_preparing pc channel engine quiet pidfile filling stepped
  | running pc channel engine quiet pidfile =>
      exact stage_running pc channel engine quiet pidfile stepped
  | ending pc channel engine quiet pidfile =>
      rw [pc] at stepped
      cases label with
      | ended =>
          cases stepped
          refine .closing rfl ?_ (quiet.ends (if s.failed then some s.err else none)) ?_
            (pidfile.same rfl rfl rfl)
          · exact fun running => absurd (engine.symm.trans running) (by decide)
          · cases failed : s.failed with
            | true => simp [Connect.say, Connect.goto, failed]
            | false => simp [Connect.say, Connect.goto, failed]
      | _ => cases stepped
  | closing pc engine ends failed pidfile =>
      rw [pc] at stepped
      cases label with
      | closed =>
          cases stepped
          exact .unlinking rfl rfl engine ends failed (pidfile.same rfl rfl rfl)
      | _ => cases stepped
  | unlinking pc channel engine ends failed pidfile =>
      rw [pc] at stepped
      cases label with
      | unlinked =>
          cases stepped
          refine .exited ?_ channel engine ends rfl ?_
          · rw [← failed]
            rfl
          · cases created : s.created with
            | true => exact .inl rfl
            | false => exact .inr (pidfile.other created)
      | _ => cases stepped
  | exited pc channel engine ends created file =>
      rw [pc] at stepped
      cases label <;> cases stepped

theorem stage_step {label : ConnectLabel} (stage : ConnectStage pid leftover s)
    (stepped : connectStep s label = some next) : ConnectStage pid leftover next := by
  cases label with
  | signal =>
      rw [connectStep] at stepped
      split_ifs at stepped with running
      cases stepped
      exact stage_signal stage running
  | _ => exact stage_answer stage stepped

theorem stage_start (socketPath : Option Bytes) (pid : Int32) (leftover : Option Bytes) :
    ConnectStage pid leftover (.start socketPath pid leftover) :=
  .opening rfl rfl rfl rfl rfl
    ⟨rfl, fun created => absurd created Bool.false_ne_true, fun _ => rfl⟩

theorem stage_run {socketPath : Option Bytes} {labels : List ConnectLabel}
    (ran : run connectStep (.start socketPath pid leftover) labels = some s) :
    ConnectStage pid leftover s :=
  run_invariant (fun _ _ _ stage stepped => stage_step stage stepped)
    (stage_start socketPath pid leftover) ran

/-- The file of a command, once it is its own. -/
theorem ConnectStage.own (stage : ConnectStage pid leftover s) (created : s.created = true) :
    s.file = some [] ∨ s.file = some (pidfileText pid) := by
  have never (none_ : s.created = false) : False := Bool.false_ne_true (none_.symm.trans created)
  cases stage with
  | opening pc channel engine silent none_ pidfile => exact (never none_).elim
  | refused pc channel engine silent none_ file => exact (never none_).elim
  | preparing pc channel engine quiet pidfile filling => exact pidfile.own created
  | running pc channel engine quiet pidfile => exact pidfile.own created
  | ending pc channel engine quiet pidfile => exact pidfile.own created
  | closing pc engine ends failed pidfile => exact pidfile.own created
  | unlinking pc channel engine ends failed pidfile => exact pidfile.own created
  | exited pc channel engine ends none_ file => exact (never none_).elim

theorem ConnectStage.serving (stage : ConnectStage pid leftover s) (running : s.engine = .running) :
    s.channel = true ∧ Quiet s.messages := by
  cases stage with
  | opening pc channel engine silent created pidfile => rw [engine] at running; cases running
  | refused pc channel engine silent created file => rw [engine] at running; cases running
  | preparing pc channel engine quiet pidfile filling => exact ⟨channel, quiet⟩
  | running pc channel engine quiet pidfile => exact ⟨channel, quiet⟩
  | ending pc channel engine quiet pidfile => exact ⟨channel, quiet⟩
  | closing pc engine ends failed pidfile => exact absurd running engine
  | unlinking pc channel engine ends failed pidfile => exact absurd running engine
  | exited pc channel engine ends created file => exact absurd running engine

/-- How a command ends. -/
theorem ConnectStage.over_ {status : Int} (stage : ConnectStage pid leftover s)
    (pc : s.pc = .exited status) :
    s.engine ≠ .running ∧ s.channel = false ∧ s.created = false ∧
      (s.file = none ∨ s.file = leftover) ∧
      (s.messages = [] ∧ status = 1 ∨
        ∃ error, EndsWith s.messages error ∧ status = if error.isSome then 1 else 0) := by
  cases stage with
  | refused there channel engine silent created file =>
      have same : status = 1 := ConnectPc.exited.inj (pc.symm.trans there)
      have stopped : s.engine ≠ .running := by
        rw [engine]
        decide
      exact ⟨stopped, channel, created, .inr file, .inl ⟨silent, same⟩⟩
  | @exited error there channel engine ends created file =>
      have same : status = if error.isSome then 1 else 0 :=
        ConnectPc.exited.inj (pc.symm.trans there)
      exact ⟨engine, channel, created, file, .inr ⟨error, ends, same⟩⟩
  | preparing there channel engine quiet pidfile filling => rw [pc] at there; cases there
  | running there channel engine quiet pidfile => rw [pc] at there; cases there
  | opening there => rw [pc] at there; cases there
  | ending there => rw [pc] at there; cases there
  | closing there => rw [pc] at there; cases there
  | unlinking there => rw [pc] at there; cases there

end WiredTethering.Cli
