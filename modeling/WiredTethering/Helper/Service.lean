import WiredTethering.Transition.Core

/-!
# The root helper

`HelperMain.swift`: the requests of all clients run one at a time on a serial queue.
`startConnect` stops the engine that runs, and spawns another; `stopEngine` and
`restoreNetwork` stop it.  An engine that outlives its SIGTERM is killed, and the
bundled `restore` is run in its place.

A request is cut where it can see the outside: the engines exit between any two of its
statements, or do not.  What it reads there (path checks, the trust in the bundled
engine, whether `Process.run` throws, whether a deadline has passed) comes with the
label of the step.
-/

namespace WiredTethering.Helper

open WiredTethering.Transition

structure ConnectArgs where
  socketPath : String
  location : UInt32
  defaultRoute : Bool
  logPath : String
deriving DecidableEq, Repr

inductive HelperRequest
  | startConnect (args : ConnectArgs)
  | stopEngine
  | restoreNetwork
deriving DecidableEq, Repr

inductive HelperReply
  | connect (pid : Int32) (error : Option String)
  | done (error : Option String)
deriving DecidableEq, Repr

/-- A process that `startConnect` spawned. -/
structure Engine where
  processIdentifier : Int32
  arguments : List String
  isRunning : Bool
deriving DecidableEq, Repr

/-- The engine's fixed arguments. -/
def ConnectArgs.arguments (args : ConnectArgs) : List String :=
  ["--socket", args.socketPath, "connect", "--location", toString args.location] ++
    if args.defaultRoute then ["--default-route"] else []

/-- Who waits for `runRestoreSync`: `stopRunningEngineSync`, which has sent a SIGKILL and
goes on with a request, or `restoreNetwork`.  `killed` says whether the engine was still
there for the SIGKILL. -/
inductive RestoreCaller
  | stopping (killed : Bool) (request : HelperRequest)
  | request
deriving DecidableEq, Repr

/-- Whether an engine that was killed waits for this `restore`. -/
def RestoreCaller.killed : RestoreCaller → Bool
  | .stopping killed _ => killed
  | .request => false

/-- Where the queue is in its request.  An engine is named by its place in `engines`. -/
inductive HelperPc
  | idle
  /-- `stopRunningEngineSync` is called. -/
  | stopping (request : HelperRequest)
  /-- At the guard on `isRunning`. -/
  | taken (proc : Option Nat) (request : HelperRequest)
  /-- In the loop behind `terminate`. -/
  | terminated (proc : Nat) (request : HelperRequest)
  /-- At the `if` behind the loop. -/
  | waited (proc : Nat) (request : HelperRequest)
  | killing (proc : Nat) (request : HelperRequest)
  /-- `runRestoreSync` is called. -/
  | restore (caller : RestoreCaller)
  | restoring (caller : RestoreCaller)
  | launching (args : ConnectArgs)
  /-- Between `run` and the assignment of `engineProcess`. -/
  | launched (proc : Nat)
deriving DecidableEq, Repr

/-- What an observer of the processes sees. -/
inductive ProcessEvent
  | spawned (proc : Nat)
  | killed (proc : Nat)
  | restored
deriving DecidableEq, Repr

/-- The helper and its engines.  `unrepaired` records that the `restore` due after a
SIGKILL could not be started, and none has been since. -/
structure HelperService where
  engineProcess : Option Nat := none
  engines : List Engine := []
  pc : HelperPc := .idle
  replies : List HelperReply := []
  events : List ProcessEvent := []
  unrepaired : Bool := false
deriving DecidableEq, Repr

inductive HelperLabel
  /-- A request's turn: what its checks of the paths and of the engine say. -/
  | request (request : HelperRequest) (socketAllowed logAllowed trusted : Bool)
  | take
  | check
  /-- One round of the wait; `late` once the deadline has passed. -/
  | poll (late : Bool)
  | recheck
  | kill
  /-- `runRestoreSync` up to `run`, which may throw. -/
  | restore (trusted : Bool) (thrown : Option String)
  /-- `restore` ends, or is killed after eight seconds. -/
  | restored (timedOut : Bool)
  /-- The log is opened and the engine run, which may throw. -/
  | launch (logOpens : Bool) (ran : Except String Int32)
  | assign
  /-- An engine exits, on SIGTERM or by itself. -/
  | exits (proc : Nat)

namespace HelperService

def isRunning (s : HelperService) (proc : Nat) : Bool :=
  (s.engines[proc]?.map Engine.isRunning).getD false

/-- The process is gone. -/
def exited (s : HelperService) (proc : Nat) : HelperService :=
  { s with engines := s.engines.modify proc fun e => { e with isRunning := false } }

/-- The end of a request. -/
def answer (s : HelperService) (reply : HelperReply) : HelperService :=
  { s with replies := s.replies ++ [reply], pc := .idle }

/-- A request up to its call of `stopRunningEngineSync`. -/
def begin (s : HelperService) (euid : UInt32) (request : HelperRequest)
    (socketAllowed logAllowed trusted : Bool) : HelperService :=
  match request with
  | .startConnect _ =>
      if euid ≠ 0 then s.answer (.connect 0 (some "helper.error.not_root"))
      else if !socketAllowed then s.answer (.connect 0 (some "helper.error.bad_socket"))
      else if !logAllowed then s.answer (.connect 0 (some "helper.error.bad_log"))
      else if !trusted then s.answer (.connect 0 (some "helper.error.engine_missing"))
      else { s with pc := .stopping request }
  | .stopEngine => { s with pc := .stopping request }
  | .restoreNetwork =>
      if euid ≠ 0 then s.answer (.done (some "helper.error.not_root"))
      else { s with pc := .stopping request }

/-- A request behind `stopRunningEngineSync`. -/
def stopped (s : HelperService) : HelperRequest → HelperService
  | .startConnect args => { s with pc := .launching args }
  | .stopEngine => s.answer (.done none)
  | .restoreNetwork => { s with pc := .restore .request }

/-- `runRestoreSync` returns. -/
def restoreReturns (s : HelperService) (error : Option String) : RestoreCaller → HelperService
  -- the result is dropped
  | .stopping _ request => s.stopped request
  | .request => s.answer (.done error)

/-- `runRestoreSync` returns without having run anything. -/
def restoreFails (s : HelperService) (error : String) (caller : RestoreCaller) : HelperService :=
  ({ s with unrepaired := s.unrepaired || caller.killed }).restoreReturns
    (some error) caller

end HelperService

/-- One step of the helper. -/
def helperStep (euid : UInt32) : Step HelperService HelperLabel := fun s label =>
  match label, s.pc with
  | .request request socketAllowed logAllowed trusted, .idle =>
      some (s.begin euid request socketAllowed logAllowed trusted)
  | .take, .stopping request =>
      some { s with engineProcess := none, pc := .taken s.engineProcess request }
  | .check, .taken none request => some (s.stopped request)
  | .check, .taken (some proc) request =>
      if s.isRunning proc then some { s with pc := .terminated proc request }
      else some (s.stopped request)
  | .poll late, .terminated proc request =>
      if s.isRunning proc ∧ !late then some s
      else some { s with pc := .waited proc request }
  | .recheck, .waited proc request =>
      if s.isRunning proc then some { s with pc := .killing proc request }
      else some (s.stopped request)
  -- SIGKILL and `waitUntilExit`
  | .kill, .killing proc request =>
      if s.isRunning proc then
        some { s.exited proc with
          events := s.events ++ [.killed proc]
          pc := .restore (.stopping true request) }
      else some { s with pc := .restore (.stopping false request) }
  | .restore trusted thrown, .restore caller =>
      if !trusted then some (s.restoreFails "helper.error.engine_missing" caller)
      else
        match thrown with
        | some error => some (s.restoreFails error caller)
        | none =>
            some { s with
              events := s.events ++ [.restored]
              unrepaired := false
              pc := .restoring caller }
  | .restored timedOut, .restoring caller =>
      some (s.restoreReturns (if timedOut then some "helper.error.restore_timeout" else none)
        caller)
  | .launch logOpens ran, .launching args =>
      if !logOpens then some (s.answer (.connect 0 (some "helper.error.log_open")))
      else
        match ran with
        | .error error => some (s.answer (.connect 0 (some error)))
        | .ok pid =>
            some { s with
              engines := s.engines ++ [⟨pid, args.arguments, true⟩]
              events := s.events ++ [.spawned s.engines.length]
              pc := .launched s.engines.length }
  | .assign, .launched proc =>
      some (({ s with engineProcess := some proc }).answer
        (.connect ((s.engines[proc]?.map Engine.processIdentifier).getD 0) none))
  | .exits proc, _ => some (s.exited proc)
  | _, _ => none

/-! ## What is owed after a kill -/

/-- Some engine was killed and no `restore` has been run since. -/
def Owed (events : List ProcessEvent) : Prop :=
  ∃ front proc back, events = front ++ .killed proc :: back ∧ .restored ∉ back

/-- Between the kill of an engine and the next spawn a `restore` was run. -/
def Repaired (events : List ProcessEvent) : Prop :=
  ∀ front proc back, events = front ++ .spawned proc :: back → ¬ Owed front

theorem owed_concat_iff (events : List ProcessEvent) (event : ProcessEvent) :
    Owed (events ++ [event]) ↔
      (∃ proc, event = .killed proc) ∨ (Owed events ∧ event ≠ .restored) := by
  constructor
  · rintro ⟨front, proc, back, split, unrestored⟩
    rcases List.eq_nil_or_concat' back with rfl | ⟨init, last, rfl⟩
    · have same := List.append_inj' split rfl
      exact .inl ⟨proc, (List.cons.inj same.2).1⟩
    · rw [← List.cons_append, ← List.append_assoc] at split
      have same := List.append_inj' split rfl
      cases (List.cons.inj same.2).1
      simp only [List.mem_append, List.mem_singleton, not_or] at unrestored
      exact .inr ⟨⟨front, proc, init, same.1, unrestored.1⟩, unrestored.2 ∘ Eq.symm⟩
  · rintro (⟨proc, rfl⟩ | ⟨⟨front, proc, back, rfl, unrestored⟩, other⟩)
    · exact ⟨events, proc, [], rfl, List.not_mem_nil⟩
    · refine ⟨front, proc, back ++ [event], by simp, ?_⟩
      simp only [List.mem_append, List.mem_singleton, not_or]
      exact ⟨unrestored, other ∘ Eq.symm⟩

theorem repaired_concat_iff (events : List ProcessEvent) (event : ProcessEvent) :
    Repaired (events ++ [event]) ↔
      Repaired events ∧ ∀ proc, event = .spawned proc → ¬ Owed events := by
  constructor
  · intro repaired
    constructor
    · rintro front proc back rfl
      exact repaired front proc (back ++ [event]) (by simp)
    · rintro proc rfl
      exact repaired events proc [] rfl
  · rintro ⟨earlier, last⟩ front proc back split
    rcases List.eq_nil_or_concat' back with rfl | ⟨init, final, rfl⟩
    · have same := List.append_inj' split rfl
      rw [← same.1]
      exact last proc (List.cons.inj same.2).1
    · rw [← List.cons_append, ← List.append_assoc] at split
      exact earlier front proc init (List.append_inj' split rfl).1

/-! ## What every run keeps -/

namespace HelperService

theorem isRunning_over {s : HelperService} {proc other : Nat}
    (running : (s.exited proc).isRunning other = true) :
    s.isRunning other = true ∧ proc ≠ other := by
  simp only [isRunning, exited, List.getElem?_modify] at running ⊢
  cases found : s.engines[other]? with
  | none =>
      rw [found] at running
      cases running
  | some e =>
      rw [found] at running
      by_cases same : proc = other
      · simp [same] at running
      · simp only [same, if_false] at running
        exact ⟨running, same⟩

/-- The engine that the request at work refers to, or between requests the helper. -/
def held (s : HelperService) : Option Nat :=
  match s.pc with
  | .idle | .stopping _ => s.engineProcess
  | .taken proc _ => proc
  | .terminated proc _ | .waited proc _ | .killing proc _ | .launched proc => some proc
  | .restore _ | .restoring _ | .launching _ => none

/-- Between the SIGKILL of a running engine and its `restore`. -/
def AfterKill (s : HelperService) : Prop :=
  ∃ request, s.pc = .restore (.stopping true request)

structure Sound (s : HelperService) : Prop where
  held : ∀ proc, s.isRunning proc = true → s.held = some proc
  owed : Owed s.events ↔ s.unrepaired = true ∨ s.AfterKill

/-- After a spawn in a quiet state only the new engine runs. -/
theorem isRunning_spawned {s : HelperService} (quiet : ∀ proc, s.isRunning proc = false)
    {e : Engine} {events : List ProcessEvent} {pc : HelperPc} {proc : Nat}
    (running : ({ s with engines := s.engines ++ [e], events := events, pc := pc } :
      HelperService).isRunning proc = true) : proc = s.engines.length := by
  have before := quiet proc
  simp only [isRunning] at running before
  rcases Nat.lt_trichotomy proc s.engines.length with less | same | greater
  · rw [List.getElem?_append_left less, before] at running
    cases running
  · exact same
  · rw [List.getElem?_eq_none (by rw [List.length_append]; exact greater)] at running
    cases running

theorem Sound.owed_iff {s : HelperService} (sound : s.Sound) (elsewhere : ¬ s.AfterKill) :
    Owed s.events ↔ s.unrepaired = true := by
  rw [sound.owed, or_iff_left elsewhere]

/-- Only the engine that the request at work refers to can run. -/
theorem Sound.not_isRunning {s : HelperService} (sound : s.Sound)
    (released : ∀ proc, s.held = some proc → s.isRunning proc = false) (proc : Nat) :
    s.isRunning proc = false := by
  cases running : s.isRunning proc with
  | false => rfl
  | true => exact absurd running (by rw [released proc (sound.held proc running)]; exact nofun)

/-- A state in which no engine runs. -/
theorem sound_of_quiet {s : HelperService} (quiet : ∀ proc, s.isRunning proc = false)
    (elsewhere : ¬ s.AfterKill) (owed : Owed s.events ↔ s.unrepaired = true) : s.Sound where
  held := fun proc running => absurd running (by rw [quiet proc]; exact nofun)
  owed := by rw [owed, or_iff_left elsewhere]

theorem sound_start : ({} : HelperService).Sound where
  held := nofun
  owed := by
    constructor
    · rintro ⟨front, proc, back, split, -⟩
      exact absurd split.symm (by simp)
    · rintro (never | ⟨request, never⟩) <;> cases never

theorem sound_stopped {s : HelperService} (quiet : ∀ proc, s.isRunning proc = false)
    (owed : Owed s.events ↔ s.unrepaired = true) (request : HelperRequest) :
    (s.stopped request).Sound := by
  cases request with
  | startConnect | stopEngine | restoreNetwork =>
      exact sound_of_quiet quiet (by rintro ⟨request, never⟩; cases never) owed

theorem sound_restoreReturns {s : HelperService} (quiet : ∀ proc, s.isRunning proc = false)
    (owed : Owed s.events ↔ s.unrepaired = true) (error : Option String)
    (caller : RestoreCaller) : (s.restoreReturns error caller).Sound := by
  cases caller with
  | stopping killed request => exact sound_stopped quiet owed request
  | request => exact sound_of_quiet quiet (by rintro ⟨request, never⟩; cases never) owed

/-- The checks of a request touch neither the engines nor the reference. -/
theorem Sound.begin {s : HelperService} (sound : s.Sound) (idle : s.pc = .idle) (euid : UInt32)
    (request : HelperRequest) (socketAllowed logAllowed trusted : Bool) :
    (s.begin euid request socketAllowed logAllowed trusted).Sound := by
  have held : ∀ proc, s.isRunning proc = true → s.engineProcess = some proc := by
    intro proc running
    have held := sound.held proc running
    rw [HelperService.held, idle] at held
    exact held
  have owed : Owed s.events ↔ s.unrepaired = true :=
    sound.owed_iff (by rintro ⟨request, never⟩; rw [idle] at never; cases never)
  have answered : ∀ reply, (s.answer reply).Sound := fun reply =>
    ⟨held, by rw [answer, owed, or_iff_left (by rintro ⟨request, never⟩; cases never)]⟩
  have stopping : ({ s with pc := .stopping request } : HelperService).Sound :=
    ⟨held, by rw [owed, or_iff_left (by rintro ⟨request, never⟩; cases never)]⟩
  cases request with
  | startConnect args =>
      simp only [HelperService.begin]
      split_ifs
      · exact answered _
      · exact answered _
      · exact answered _
      · exact answered _
      · exact stopping
  | stopEngine => exact stopping
  | restoreNetwork =>
      simp only [HelperService.begin]
      split_ifs
      · exact answered _
      · exact stopping

theorem Sound.exited {s : HelperService} (sound : s.Sound) (proc : Nat) : (s.exited proc).Sound where
  held := fun other running => sound.held other (isRunning_over running).1
  owed := sound.owed

theorem Sound.quiet_of_held {s : HelperService} (sound : s.Sound) {proc : Nat}
    (held : s.held = some proc) (gone : s.isRunning proc = false) (other : Nat) :
    s.isRunning other = false := by
  apply sound.not_isRunning
  intro third refers
  rw [held] at refers
  cases refers
  exact gone

theorem Sound.quiet_of_none {s : HelperService} (sound : s.Sound) (held : s.held = none)
    (proc : Nat) : s.isRunning proc = false := by
  apply sound.not_isRunning
  intro other refers
  rw [held] at refers
  cases refers

theorem not_afterKill {s : HelperService} {pc : HelperPc} (here : s.pc = pc)
    (other : ∀ request, pc ≠ .restore (.stopping true request)) : ¬ s.AfterKill := by
  rintro ⟨request, at_⟩
  exact other request (here.symm.trans at_)

/-- A step that moves on and leaves the engines alone. -/
theorem Sound.goto {s next : HelperService} (sound : s.Sound) (engines : next.engines = s.engines)
    (events : next.events = s.events) (unrepaired : next.unrepaired = s.unrepaired)
    (before : ¬ s.AfterKill) (after : ¬ next.AfterKill)
    (refers : ∀ proc, s.held = some proc → next.held = some proc) : next.Sound where
  held := by
    intro proc running
    rw [isRunning, engines] at running
    exact refers proc (sound.held proc running)
  owed := by rw [events, unrepaired, sound.owed_iff before, or_iff_left after]

/-- The engine that a stop refers to is gone, so none runs. -/
theorem Sound.stoppedGone {s : HelperService} (sound : s.Sound) {proc : Nat}
    (held : s.held = some proc) (gone : ¬ s.isRunning proc = true) (before : ¬ s.AfterKill)
    (request : HelperRequest) : (s.stopped request).Sound := by
  have quiet := sound.quiet_of_held held (Bool.eq_false_iff.mpr gone)
  exact sound_stopped quiet (sound.owed_iff before) request

/-- A killed engine was the only one, and `restore` is owed to it. -/
theorem Sound.killed {s : HelperService} (sound : s.Sound) {proc : Nat} {request : HelperRequest}
    (held : s.held = some proc) :
    ({ s.exited proc with
      events := s.events ++ [.killed proc]
      pc := .restore (.stopping true request) } : HelperService).Sound := by
  constructor
  · intro other running
    obtain ⟨before, different⟩ := isRunning_over running
    have refers := sound.held other before
    rw [held] at refers
    exact absurd (Option.some.inj refers) different
  · constructor
    · intro _
      exact .inr ⟨request, rfl⟩
    · intro _
      exact (owed_concat_iff _ _).mpr (.inl ⟨proc, rfl⟩)

/-- A `restore` that could not be started is remembered if it was owed. -/
theorem Sound.restoreFails {s : HelperService} (sound : s.Sound) {caller : RestoreCaller}
    (restore : s.pc = .restore caller) (error : String) :
    (s.restoreFails error caller).Sound := by
  have quiet := sound.quiet_of_none (by rw [HelperService.held, restore])
  rw [HelperService.restoreFails]
  apply sound_restoreReturns
  · exact quiet
  · cases caller with
    | stopping killed request =>
        cases killed with
        | true =>
            simp only [RestoreCaller.killed, Bool.or_true, iff_true]
            exact sound.owed.mpr (.inr ⟨request, restore⟩)
        | false =>
            simp only [RestoreCaller.killed, Bool.or_false]
            exact sound.owed_iff (not_afterKill restore (by rintro _ ⟨⟩))
    | request =>
        simp only [RestoreCaller.killed, Bool.or_false]
        exact sound.owed_iff (not_afterKill restore nofun)

/-- Behind a `restore` nothing is owed. -/
theorem Sound.restored {s : HelperService} (sound : s.Sound) {caller : RestoreCaller}
    (restore : s.pc = .restore caller) :
    ({ s with
      events := s.events ++ [.restored]
      unrepaired := false
      pc := .restoring caller } : HelperService).Sound := by
  have quiet := sound.quiet_of_none (by rw [HelperService.held, restore])
  refine sound_of_quiet quiet (not_afterKill rfl (by rintro _ ⟨⟩)) ?_
  constructor
  · intro owed
    rcases (owed_concat_iff _ _).mp owed with ⟨proc, never⟩ | ⟨-, never⟩
    · cases never
    · exact absurd rfl never
  · nofun

/-- A spawned engine is the only one, and changes nothing in what is owed. -/
theorem Sound.spawned {s : HelperService} (sound : s.Sound) {args : ConnectArgs} {e : Engine}
    (launching : s.pc = .launching args) :
    ({ s with
      engines := s.engines ++ [e]
      events := s.events ++ [.spawned s.engines.length]
      pc := .launched s.engines.length } : HelperService).Sound := by
  have quiet := sound.quiet_of_none (by rw [HelperService.held, launching])
  have owed := sound.owed_iff (not_afterKill launching nofun)
  constructor
  · intro proc running
    exact congrArg some (isRunning_spawned quiet running).symm
  · dsimp only
    rw [owed_concat_iff, or_iff_right (by rintro ⟨proc, never⟩; cases never),
      and_iff_left nofun, owed]
    exact (or_iff_left (not_afterKill rfl (by rintro _ ⟨⟩))).symm

theorem Sound.step {euid : UInt32} {s next : HelperService} {label : HelperLabel}
    (sound : s.Sound) (stepped : helperStep euid s label = some next) : next.Sound := by
  unfold helperStep at stepped
  split at stepped
  · -- a request begins
    rename_i request socketAllowed logAllowed trusted idle
    cases stepped
    exact sound.begin idle euid request socketAllowed logAllowed trusted
  · -- take
    rename_i request stopping
    cases stepped
    refine sound.goto rfl rfl rfl (not_afterKill stopping nofun) (not_afterKill rfl nofun) ?_
    intro proc held
    rw [HelperService.held, stopping] at held
    exact held
  · -- check, without a reference
    rename_i request taken
    cases stepped
    have quiet := sound.quiet_of_none (by rw [HelperService.held, taken])
    exact sound_stopped quiet (sound.owed_iff (not_afterKill taken nofun)) request
  · -- check
    rename_i proc request taken
    have held : s.held = some proc := by rw [HelperService.held, taken]
    split at stepped
    · cases stepped
      refine sound.goto rfl rfl rfl (not_afterKill taken nofun) (not_afterKill rfl nofun) ?_
      intro other refers
      exact held.symm.trans refers
    · rename_i gone
      cases stepped
      exact sound.stoppedGone held gone (not_afterKill taken nofun) request
  · -- poll
    rename_i late proc request terminated
    split at stepped
    · cases stepped
      exact sound
    · cases stepped
      refine sound.goto rfl rfl rfl (not_afterKill terminated nofun) (not_afterKill rfl nofun) ?_
      intro other refers
      rw [HelperService.held, terminated] at refers
      exact refers
  · -- recheck
    rename_i proc request waited
    have held : s.held = some proc := by rw [HelperService.held, waited]
    split at stepped
    · cases stepped
      refine sound.goto rfl rfl rfl (not_afterKill waited nofun) (not_afterKill rfl nofun) ?_
      intro other refers
      exact held.symm.trans refers
    · rename_i gone
      cases stepped
      exact sound.stoppedGone held gone (not_afterKill waited nofun) request
  · -- kill
    rename_i proc request killing
    have held : s.held = some proc := by rw [HelperService.held, killing]
    split at stepped
    · cases stepped
      exact sound.killed held
    · rename_i gone
      cases stepped
      exact sound_of_quiet (sound.quiet_of_held held (Bool.eq_false_iff.mpr gone))
        (not_afterKill rfl nofun) (sound.owed_iff (not_afterKill killing nofun))
  · -- restore
    rename_i trusted thrown caller restore
    split at stepped
    · cases stepped
      exact sound.restoreFails restore _
    · split at stepped
      · cases stepped
        exact sound.restoreFails restore _
      · cases stepped
        exact sound.restored restore
  · -- restored
    rename_i timedOut caller restoring
    cases stepped
    have quiet := sound.quiet_of_none (by rw [HelperService.held, restoring])
    exact sound_restoreReturns quiet (sound.owed_iff (not_afterKill restoring nofun)) _ caller
  · -- launch
    rename_i logOpens ran args launching
    have quiet := sound.quiet_of_none (by rw [HelperService.held, launching])
    have answered : ∀ reply, (s.answer reply).Sound := fun reply =>
      sound_of_quiet quiet (not_afterKill rfl nofun)
        (sound.owed_iff (not_afterKill launching nofun))
    split at stepped
    · cases stepped
      exact answered _
    · split at stepped
      · cases stepped
        exact answered _
      · cases stepped
        exact sound.spawned launching
  · -- assign
    rename_i proc launched
    cases stepped
    refine sound.goto rfl rfl rfl (not_afterKill launched nofun) (not_afterKill rfl nofun) ?_
    intro other refers
    rw [HelperService.held, launched] at refers
    exact refers
  · cases stepped
    exact sound.exited _
  · cases stepped

/-! ## Whole runs -/

/-- At most one engine runs, and between requests the helper refers to it. -/
structure Single (s : HelperService) : Prop where
  one : ∀ first second, s.isRunning first = true → s.isRunning second = true → first = second
  referred : s.pc = .idle → ∀ proc, s.isRunning proc = true → s.engineProcess = some proc

/-- What the helper owes. -/
def Orderly (s : HelperService) : Prop :=
  s.Single ∧ Repaired s.events

/-- No engine is spawned while a `restore` that was due after a SIGKILL could not be
started. -/
def Cleared (s : HelperService) : HelperLabel → Prop
  | .launch true (.ok _) => ∀ args, s.pc = .launching args → s.unrepaired = false
  | _ => True

theorem Sound.single {s : HelperService} (sound : s.Sound) : s.Single where
  one := by
    intro first second one two
    have held := (sound.held first one).symm.trans (sound.held second two)
    exact Option.some.inj held
  referred := by
    intro idle proc running
    have held := sound.held proc running
    rw [HelperService.held, idle] at held
    exact held

theorem stopped_events (s : HelperService) (request : HelperRequest) :
    (s.stopped request).events = s.events := by
  cases request <;> rfl

theorem restoreReturns_events (s : HelperService) (error : Option String)
    (caller : RestoreCaller) : (s.restoreReturns error caller).events = s.events := by
  cases caller with
  | stopping killed request => exact stopped_events s request
  | request => rfl

theorem begin_events (s : HelperService) (euid : UInt32) (request : HelperRequest)
    (socketAllowed logAllowed trusted : Bool) :
    (s.begin euid request socketAllowed logAllowed trusted).events = s.events := by
  cases request with
  | startConnect args =>
      simp only [HelperService.begin]
      split_ifs <;> rfl
  | stopEngine => rfl
  | restoreNetwork =>
      simp only [HelperService.begin]
      split_ifs <;> rfl

/-- What a step adds to the events. -/
theorem step_events {euid : UInt32} {s next : HelperService} {label : HelperLabel}
    (stepped : helperStep euid s label = some next) :
    next.events = s.events ∨
      (∃ event, next.events = s.events ++ [event] ∧ ∀ proc, event ≠ .spawned proc) ∨
        ∃ pid args, label = .launch true (.ok pid) ∧ s.pc = .launching args ∧
          next.events = s.events ++ [.spawned s.engines.length] := by
  unfold helperStep at stepped
  split at stepped
  · cases stepped
    exact .inl (begin_events ..)
  · cases stepped
    exact .inl rfl
  · cases stepped
    exact .inl (stopped_events ..)
  · split at stepped
    · cases stepped
      exact .inl rfl
    · cases stepped
      exact .inl (stopped_events ..)
  · split at stepped <;> cases stepped <;> exact .inl rfl
  · split at stepped
    · cases stepped
      exact .inl rfl
    · cases stepped
      exact .inl (stopped_events ..)
  · split at stepped
    · cases stepped
      exact .inr (.inl ⟨_, rfl, nofun⟩)
    · cases stepped
      exact .inl rfl
  · split at stepped
    · cases stepped
      exact .inl (restoreReturns_events ..)
    · split at stepped
      · cases stepped
        exact .inl (restoreReturns_events ..)
      · cases stepped
        exact .inr (.inl ⟨_, rfl, nofun⟩)
  · cases stepped
    exact .inl (restoreReturns_events ..)
  · rename_i logOpens ran args launching
    split at stepped
    · cases stepped
      exact .inl rfl
    · rename_i opened
      split at stepped
      · cases stepped
        exact .inl rfl
      · cases stepped
        rw [Bool.not_eq_true, Bool.not_eq_false'] at opened
        rw [opened]
        exact .inr (.inr ⟨_, args, rfl, launching, rfl⟩)
  · cases stepped
    exact .inl rfl
  · cases stepped
    exact .inl rfl
  · cases stepped

theorem repaired_step {euid : UInt32} {s next : HelperService} {label : HelperLabel}
    (sound : s.Sound) (repaired : Repaired s.events) (cleared : s.Cleared label)
    (stepped : helperStep euid s label = some next) : Repaired next.events := by
  rcases step_events stepped with same | ⟨event, added, other⟩ | ⟨pid, args, rfl, here, added⟩
  · rw [same]
    exact repaired
  · rw [added, repaired_concat_iff]
    exact ⟨repaired, fun proc spawned => absurd spawned (other proc)⟩
  · rw [added, repaired_concat_iff]
    refine ⟨repaired, fun _ _ owed => ?_⟩
    have unrepaired := (sound.owed_iff (not_afterKill here nofun)).mp owed
    rw [cleared args here] at unrepaired
    cases unrepaired

theorem not_cleared {s : HelperService} {label : HelperLabel} (sound : s.Sound)
    (hasty : ¬ s.Cleared label) (euid : UInt32) :
    ∃ next, helperStep euid s label = some next ∧ ¬ Repaired next.events := by
  unfold Cleared at hasty
  split at hasty
  · simp only [not_forall, Bool.not_eq_false] at hasty
    obtain ⟨args, here, unrepaired⟩ := hasty
    refine ⟨_, by simp only [helperStep, here]; rfl, ?_⟩
    dsimp only
    rw [repaired_concat_iff]
    rintro ⟨-, last⟩
    exact last _ rfl ((sound.owed_iff (not_afterKill here nofun)).mpr unrepaired)
  · exact absurd trivial hasty

/-- In every run, whatever the engines do, at most one of them runs, and between requests
the helper refers to it.  A kill is followed by a `restore` before the next engine exactly
in the runs in which no engine is spawned over a `restore` that could not be started. -/
theorem run_orderly_iff (euid : UInt32) (labels : List HelperLabel) :
    (Throughout (helperStep euid) Orderly {} labels ↔
      Guarded (helperStep euid) Cleared {} labels) ∧
        Throughout (helperStep euid) Single {} labels := by
  have kept : ∀ s label next, Sound s → helperStep euid s label = some next → Sound next :=
    fun s label next sound stepped => sound.step stepped
  constructor
  · apply throughout_iff_guarded kept
    · intro s label next sound orderly cleared stepped
      exact ⟨(sound.step stepped).single, repaired_step sound orderly.2 cleared stepped⟩
    · intro s label sound _ hasty
      obtain ⟨next, stepped, unrepaired⟩ := not_cleared sound hasty euid
      exact ⟨next, stepped, fun orderly => unrepaired orderly.2⟩
    · exact sound_start
    · refine ⟨sound_start.single, ?_⟩
      rintro front proc back split
      exact absurd split.symm (by simp)
  · intro front _ last ran
    exact (run_invariant kept sound_start ran).single

/-- The first engine ignores SIGTERM.  The second `startConnect` trusts the bundled engine
before it kills the first one, `runRestoreSync` does not after, and its error is dropped. -/
theorem spawned_without_restore :
    ∃ s, run (helperStep 0) {}
        [.request (.startConnect ⟨"/tmp/a.sock", 1, true, "/tmp/a.log"⟩) true true true, .take,
          .check, .launch true (.ok 500), .assign,
          .request (.startConnect ⟨"/tmp/b.sock", 1, true, "/tmp/b.log"⟩) true true true, .take,
          .check, .poll true, .recheck, .kill, .restore false none, .launch true (.ok 501),
          .assign] = some s ∧
      s.events = [.spawned 0, .killed 0, .spawned 1] ∧ ¬ Repaired s.events := by
  refine ⟨_, rfl, rfl, ?_⟩
  intro repaired
  exact repaired [.spawned 0, .killed 0] 1 [] rfl ⟨[.spawned 0], 0, [], rfl, List.not_mem_nil⟩

end HelperService

end WiredTethering.Helper
