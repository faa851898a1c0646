import WiredTethering.Transition.Core

/-!
# Calls to the root helper

`HelperClient.swift`: `startConnect`, `stopEngine` and `restoreNetwork` each wait on
a continuation that three parties may resume through `onceFinish`: the handler of
the helper's reply, the handler of an XPC error, and the timeout task.  The parties
interleave statement by statement, in any order.

A cancelled `Task.sleep` throws, `try?` drops the error, and the timeout task goes on
to its `finish`.  Both handlers cancel the task before they finish themselves, so the
task is let go while the reply is still to be delivered.
-/

namespace WiredTethering.App

open WiredTethering.Transition

/-! ## What a reply means -/

/-- The parts of a Cocoa error that the client sets. -/
structure NSError where
  domain : String
  code : Int
  localizedDescription : String
deriving DecidableEq, Repr

def errorDomain : String := "MacOSWiredTethering"

/-- What a continuation is resumed with. -/
abbrev CallResult (T : Type) := Except NSError T

/-- `if let err, !err.isEmpty`. -/
def helperError (code : Int) : Option String → Option NSError
  | none => none
  | some err => if err.isEmpty then none else some ⟨errorDomain, code, err⟩

def startConnectOutcome (reply : Int32 × Option String) : CallResult Int32 :=
  match helperError 4 reply.2 with
  | some error => .error error
  | none =>
      if reply.1 ≤ 1 then .error ⟨errorDomain, 4, "error.helper_pid"⟩ else .ok reply.1

/-- A reply without a value. -/
def voidOutcome (code : Int) (err : Option String) : CallResult Unit :=
  match helperError code err with
  | some error => .error error
  | none => .ok ()

def stopEngineOutcome : Option String → CallResult Unit :=
  voidOutcome 5

def restoreNetworkOutcome : Option String → CallResult Unit :=
  voidOutcome 7

/-- The three calls of the helper's protocol. -/
inductive HelperMethod
  | startConnect
  | stopEngine
  | restoreNetwork
deriving DecidableEq, Repr

namespace HelperMethod

/-- The arguments of the reply block. -/
abbrev Reply : HelperMethod → Type
  | .startConnect => Int32 × Option String
  | .stopEngine => Option String
  | .restoreNetwork => Option String

/-- What the call returns. -/
abbrev Value : HelperMethod → Type
  | .startConnect => Int32
  | .stopEngine => Unit
  | .restoreNetwork => Unit

def outcome : (m : HelperMethod) → m.Reply → CallResult m.Value
  | .startConnect => startConnectOutcome
  | .stopEngine => stopEngineOutcome
  | .restoreNetwork => restoreNetworkOutcome

end HelperMethod

/-- The error of `privilegedProxy` when there is no proxy. -/
def helperConnect : NSError := ⟨errorDomain, 3, "error.helper_connect"⟩

/-- The error of the timeout task. -/
def helperTimeout : NSError := ⟨errorDomain, 6, "error.helper_timeout"⟩

theorem code_of_helperError {code : Int} {err : Option String} {error : NSError}
    (found : helperError code err = some error) : error.code = code := by
  cases err with
  | none => cases found
  | some text =>
      rw [helperError] at found
      split at found
      · cases found
      · cases found
        rfl

theorem voidOutcome_ne_timeout {code : Int} (other : code ≠ 6) (err : Option String) :
    voidOutcome code err ≠ .error helperTimeout := by
  intro same
  rw [voidOutcome] at same
  cases found : helperError code err with
  | none =>
      rw [found] at same
      cases same
  | some error =>
      rw [found] at same
      cases same
      exact other (code_of_helperError found).symm

/-- No reply means a timeout. -/
theorem HelperMethod.outcome_ne_timeout (m : HelperMethod) (reply : m.Reply) :
    m.outcome reply ≠ .error helperTimeout := by
  cases m with
  | startConnect =>
      intro same
      change startConnectOutcome reply = .error helperTimeout at same
      rw [startConnectOutcome] at same
      cases found : helperError 4 reply.2 with
      | some error =>
          rw [found] at same
          cases same
          exact absurd (code_of_helperError found) (by decide)
      | none =>
          rw [found] at same
          dsimp only at same
          split at same
          · exact absurd (congrArg NSError.code (Except.error.inj same)) (by decide)
          · cases same
  | stopEngine => exact voidOutcome_ne_timeout (by decide) reply
  | restoreNetwork => exact voidOutcome_ne_timeout (by decide) reply

/-! ## The parties of one call -/

/-- The statements of the handlers that other parties can see. -/
inductive CallStmt (T : Type)
  | cancel
  | invalidate
  | finish (result : CallResult T)

/-- The reply block, once its arguments are known. -/
def replyHandler (m : HelperMethod) (reply : m.Reply) : List (CallStmt m.Value) :=
  [.cancel, .invalidate, .finish (m.outcome reply)]

/-- The error handler of the proxy, followed by the call's `onError`. -/
def errorHandler (m : HelperMethod) (error : NSError) : List (CallStmt m.Value) :=
  [.invalidate, .cancel, .finish (.error error)]

/-- The call when `privilegedProxy` gives nothing: its `onError` and then the `else`
of the `guard`. -/
def noProxy (m : HelperMethod) : List (CallStmt m.Value) :=
  [.invalidate, .cancel, .finish (.error helperConnect), .cancel]

/-- Where the body of the call is. -/
inductive CallBody (T : Type)
  | connecting
  | sent
  | failing (rest : List (CallStmt T))

/-- The task of `scheduleTimeout`. -/
inductive TimeoutTask
  | sleeping
  | awake
  | done
deriving DecidableEq, Repr

/-- One call in flight.  `due` is the reply whose handler started before the sleep had
elapsed and before any XPC error. -/
structure HelperCall (m : HelperMethod) where
  body : CallBody m.Value := .connecting
  reply : Option (List (CallStmt m.Value)) := none
  error : Option (List (CallStmt m.Value)) := none
  timer : TimeoutTask := .sleeping
  elapsed : Bool := false
  cancelled : Bool := false
  invalidated : Bool := false
  finished : Bool := false
  resumed : List (CallResult m.Value) := []
  due : Option m.Reply := none

namespace HelperCall

variable {m : HelperMethod}

/-- The closure of `onceFinish`. -/
def finish (s : HelperCall m) (result : CallResult m.Value) : HelperCall m :=
  if s.finished then s
  else { s with finished := true, resumed := s.resumed ++ [result] }

def exec (s : HelperCall m) : CallStmt m.Value → HelperCall m
  | .cancel => { s with cancelled := true }
  | .invalidate => { s with invalidated := true }
  | .finish result => s.finish result

end HelperCall

/-- Who moves next, with what the outside world does. -/
inductive CallLabel (m : HelperMethod)
  /-- `privilegedProxy` returns, with or without a proxy. -/
  | connect (ok : Bool)
  | body
  /-- 15 seconds have passed. -/
  | elapse
  /-- `Task.sleep` returns or throws. -/
  | wake
  /-- The timeout task calls `finish`. -/
  | expire
  /-- The reply block is called. -/
  | replies (reply : m.Reply)
  | reply
  /-- The error handler is called. -/
  | fails (error : NSError)
  | error

/-- One step of a call. -/
def callStep (m : HelperMethod) : Step (HelperCall m) (CallLabel m) := fun s label =>
  match label with
  | .connect ok =>
      match s.body with
      | .connecting => some { s with body := if ok then .sent else .failing (noProxy m) }
      | _ => none
  | .body =>
      match s.body with
      | .failing (stmt :: rest) => some { s.exec stmt with body := .failing rest }
      | _ => none
  | .elapse => some { s with elapsed := true }
  | .wake =>
      if s.timer = .sleeping ∧ (s.elapsed ∨ s.cancelled) then some { s with timer := .awake }
      else none
  | .expire =>
      if s.timer = .awake then some { s.finish (.error helperTimeout) with timer := .done }
      else none
  | .replies reply =>
      match s.body, s.reply with
      | .sent, none =>
          some { s with
            reply := some (replyHandler m reply)
            due := if s.elapsed ∨ s.error.isSome then none else some reply }
      | _, _ => none
  | .reply =>
      match s.reply with
      | some (stmt :: rest) => some { s.exec stmt with reply := some rest }
      | _ => none
  | .fails error =>
      match s.body, s.error with
      | .sent, none => some { s with error := some (errorHandler m error) }
      | _, _ => none
  | .error =>
      match s.error with
      | some (stmt :: rest) => some { s.exec stmt with error := some rest }
      | _ => none

namespace HelperCall

variable {m : HelperMethod}

/-! ## What a statement leaves alone -/

@[simp]
theorem finish_body (s : HelperCall m) (result : CallResult m.Value) :
    (s.finish result).body = s.body := by
  rw [finish]
  split <;> rfl

@[simp]
theorem finish_reply (s : HelperCall m) (result : CallResult m.Value) :
    (s.finish result).reply = s.reply := by
  rw [finish]
  split <;> rfl

@[simp]
theorem finish_error (s : HelperCall m) (result : CallResult m.Value) :
    (s.finish result).error = s.error := by
  rw [finish]
  split <;> rfl

@[simp]
theorem finish_timer (s : HelperCall m) (result : CallResult m.Value) :
    (s.finish result).timer = s.timer := by
  rw [finish]
  split <;> rfl

@[simp]
theorem finish_elapsed (s : HelperCall m) (result : CallResult m.Value) :
    (s.finish result).elapsed = s.elapsed := by
  rw [finish]
  split <;> rfl

@[simp]
theorem finish_cancelled (s : HelperCall m) (result : CallResult m.Value) :
    (s.finish result).cancelled = s.cancelled := by
  rw [finish]
  split <;> rfl

@[simp]
theorem finish_due (s : HelperCall m) (result : CallResult m.Value) :
    (s.finish result).due = s.due := by
  rw [finish]
  split <;> rfl

@[simp]
theorem exec_body (s : HelperCall m) (stmt : CallStmt m.Value) :
    (s.exec stmt).body = s.body := by
  cases stmt <;> simp [exec]

@[simp]
theorem exec_reply (s : HelperCall m) (stmt : CallStmt m.Value) :
    (s.exec stmt).reply = s.reply := by
  cases stmt <;> simp [exec]

@[simp]
theorem exec_error (s : HelperCall m) (stmt : CallStmt m.Value) :
    (s.exec stmt).error = s.error := by
  cases stmt <;> simp [exec]

@[simp]
theorem exec_timer (s : HelperCall m) (stmt : CallStmt m.Value) :
    (s.exec stmt).timer = s.timer := by
  cases stmt <;> simp [exec]

@[simp]
theorem exec_elapsed (s : HelperCall m) (stmt : CallStmt m.Value) :
    (s.exec stmt).elapsed = s.elapsed := by
  cases stmt <;> simp [exec]

@[simp]
theorem exec_due (s : HelperCall m) (stmt : CallStmt m.Value) :
    (s.exec stmt).due = s.due := by
  cases stmt <;> simp [exec]

/-- A cancelled task stays cancelled. -/
theorem exec_cancelled {s : HelperCall m} (stmt : CallStmt m.Value)
    (cancelled : s.cancelled = true) : (s.exec stmt).cancelled = true := by
  cases stmt with
  | cancel => rfl
  | invalidate => exact cancelled
  | finish result =>
      rw [exec, finish_cancelled]
      exact cancelled

/-- After any `finish` the guard of `onceFinish` is set. -/
theorem finish_finished (s : HelperCall m) (result : CallResult m.Value) :
    (s.finish result).finished = true := by
  rw [finish]
  split
  · assumption
  · rfl

theorem exec_finished {s : HelperCall m} (stmt : CallStmt m.Value)
    (finished : s.finished = true) : (s.exec stmt).finished = true := by
  cases stmt with
  | cancel | invalidate => exact finished
  | finish result => exact finish_finished s result

theorem finish_resumed_of_finished {s : HelperCall m} (finished : s.finished = true)
    (result : CallResult m.Value) : (s.finish result).resumed = s.resumed := by
  rw [finish, if_pos finished]

/-- The guard is set exactly if the continuation has been resumed, once. -/
def Once (s : HelperCall m) : Prop :=
  s.resumed.length = if s.finished then 1 else 0

theorem Once.finish {s : HelperCall m} (once : s.Once) (result : CallResult m.Value) :
    (s.finish result).Once := by
  rw [HelperCall.finish]
  split
  · exact once
  · rename_i open_
    rw [Once, if_neg open_] at once
    rw [Once, if_pos rfl, List.length_append, once]
    rfl

theorem Once.exec {s : HelperCall m} (once : s.Once) (stmt : CallStmt m.Value) :
    (s.exec stmt).Once := by
  cases stmt with
  | cancel | invalidate => exact once
  | finish result => exact once.finish result

theorem Once.resumed_nil {s : HelperCall m} (once : s.Once) (open_ : s.finished = false) :
    s.resumed = [] := by
  rw [Once, open_] at once
  exact List.length_eq_zero_iff.mp once

/-! ## What every run keeps -/

/-- No handler has been called and the call has not failed. -/
def Quiet (s : HelperCall m) : Prop :=
  s.reply = none ∧ s.error = none ∧ ∀ rest, s.body ≠ .failing rest

structure Sound (s : HelperCall m) : Prop where
  once : s.Once
  answered : s.timer = .done → s.finished = true
  slept : s.timer ≠ .sleeping → s.elapsed = true ∨ s.cancelled = true
  asked : s.reply.isSome ∨ s.error.isSome → s.body = .sent
  quiet : s.Quiet → s.cancelled = false ∧ (s.finished = true → s.timer = .done)
  handled : ∀ reply, s.due = some reply → ∃ rest, s.reply = some rest ∧
    rest <:+ replyHandler m reply ∧ (rest = [] → s.finished = true)

theorem sound_start : ({} : HelperCall m).Sound where
  once := rfl
  answered := nofun
  slept := fun woken => absurd rfl woken
  asked := by rintro (asked | asked) <;> cases asked
  quiet := fun _ => ⟨rfl, nofun⟩
  handled := nofun

/-- A statement of the body or of a handler, whose own list then gets shorter. -/
theorem Sound.exec_slept {s : HelperCall m} (sound : s.Sound) (stmt : CallStmt m.Value)
    (woken : (s.exec stmt).timer ≠ .sleeping) :
    (s.exec stmt).elapsed = true ∨ (s.exec stmt).cancelled = true := by
  rw [exec_timer] at woken
  rw [exec_elapsed]
  rcases sound.slept woken with elapsed | cancelled
  · exact .inl elapsed
  · exact .inr (exec_cancelled stmt cancelled)

theorem Sound.exec_answered {s : HelperCall m} (sound : s.Sound) (stmt : CallStmt m.Value)
    (done : (s.exec stmt).timer = .done) : (s.exec stmt).finished = true := by
  rw [exec_timer] at done
  exact exec_finished stmt (sound.answered done)

theorem Sound.exec_handled {s : HelperCall m} (sound : s.Sound) (stmt : CallStmt m.Value)
    {reply : m.Reply} (due : (s.exec stmt).due = some reply) :
    ∃ rest, (s.exec stmt).reply = some rest ∧ rest <:+ replyHandler m reply ∧
      (rest = [] → (s.exec stmt).finished = true) := by
  rw [exec_due] at due
  obtain ⟨rest, handler, isSuffix, last⟩ := sound.handled reply due
  refine ⟨rest, ?_, isSuffix, fun ended => exec_finished stmt (last ended)⟩
  rw [exec_reply, handler]

/-- The statement a reply handler ends with. -/
theorem last_of_replyHandler {reply : m.Reply} {stmt : CallStmt m.Value}
    (isSuffix : [stmt] <:+ replyHandler m reply) : stmt = .finish (m.outcome reply) := by
  obtain ⟨front, shape⟩ := isSuffix
  have last := congrArg List.getLast? shape
  rw [List.getLast?_append] at last
  exact Option.some.inj last

theorem Sound.step {s next : HelperCall m} {label : CallLabel m} (sound : s.Sound)
    (stepped : callStep m s label = some next) : next.Sound := by
  cases label with
  | connect ok =>
      rw [callStep] at stepped
      split at stepped
      · rename_i connecting
        cases stepped
        have unasked : ¬ (s.reply.isSome ∨ s.error.isSome) := by
          intro asked
          have sent := sound.asked asked
          rw [connecting] at sent
          cases sent
        refine ⟨sound.once, sound.answered, sound.slept, fun asked => absurd asked unasked, ?_,
          sound.handled⟩
        rintro ⟨reply, error, -⟩
        exact sound.quiet ⟨reply, error, fun rest => by rw [connecting]; exact nofun⟩
      · cases stepped
  | body =>
      rw [callStep] at stepped
      split at stepped
      · rename_i stmt rest failing
        cases stepped
        refine ⟨sound.once.exec stmt, sound.exec_answered stmt, sound.exec_slept stmt, ?_, ?_,
          fun reply => sound.exec_handled stmt⟩
        · intro asked
          dsimp only at asked
          rw [exec_reply, exec_error] at asked
          have sent := sound.asked asked
          rw [failing] at sent
          cases sent
        · rintro ⟨-, -, notFailing⟩
          exact absurd rfl (notFailing rest)
      · cases stepped
  | elapse =>
      cases stepped
      exact ⟨sound.once, sound.answered, fun _ => .inl rfl, sound.asked, sound.quiet,
        sound.handled⟩
  | wake =>
      rw [callStep] at stepped
      split at stepped
      · rename_i ready
        cases stepped
        refine ⟨sound.once, nofun, fun _ => ready.2, sound.asked, ?_, sound.handled⟩
        intro quiet
        obtain ⟨kept, finished⟩ := sound.quiet quiet
        refine ⟨kept, fun isFinished => ?_⟩
        have done := finished isFinished
        rw [ready.1] at done
        cases done
      · cases stepped
  | expire =>
      rw [callStep] at stepped
      split at stepped
      · rename_i awake
        cases stepped
        refine ⟨sound.once.finish _, fun _ => finish_finished s _, fun _ => ?_, ?_, ?_, ?_⟩
        · have slept := sound.slept (by rw [awake]; exact nofun)
          simpa using slept
        · intro asked
          dsimp only at asked ⊢
          rw [finish_reply, finish_error] at asked
          rw [finish_body]
          exact sound.asked asked
        · rintro ⟨reply, error, body⟩
          dsimp only at reply error body ⊢
          rw [finish_reply] at reply
          rw [finish_error] at error
          rw [finish_body] at body
          rw [finish_cancelled]
          exact ⟨(sound.quiet ⟨reply, error, body⟩).1, fun _ => rfl⟩
        · intro reply due
          exact sound.exec_handled (.finish (.error helperTimeout)) due
      · cases stepped
  | replies reply =>
      rw [callStep] at stepped
      split at stepped
      · rename_i sent unasked
        cases stepped
        refine ⟨sound.once, sound.answered, sound.slept, fun _ => sent, nofun, ?_⟩
        intro other due
        dsimp only at due
        split at due
        · cases due
        · cases due
          exact ⟨_, rfl, List.suffix_refl _, nofun⟩
      · cases stepped
  | reply =>
      rw [callStep] at stepped
      split at stepped
      · rename_i stmt rest handler
        cases stepped
        refine ⟨sound.once.exec stmt, sound.exec_answered stmt, sound.exec_slept stmt, ?_, nofun,
          ?_⟩
        · intro _
          dsimp only
          rw [exec_body]
          exact sound.asked (.inl (by rw [handler]; rfl))
        · intro reply due
          dsimp only at due ⊢
          rw [exec_due] at due
          obtain ⟨all, found, isSuffix, -⟩ := sound.handled reply due
          cases handler.symm.trans found
          refine ⟨rest, rfl, (List.suffix_cons stmt rest).trans isSuffix, ?_⟩
          rintro rfl
          rw [last_of_replyHandler isSuffix]
          exact finish_finished s _
      · cases stepped
  | fails error =>
      rw [callStep] at stepped
      split at stepped
      · rename_i sent unasked
        cases stepped
        exact ⟨sound.once, sound.answered, sound.slept, fun _ => sent, nofun, sound.handled⟩
      · cases stepped
  | error =>
      rw [callStep] at stepped
      split at stepped
      · rename_i stmt rest handler
        cases stepped
        refine ⟨sound.once.exec stmt, sound.exec_answered stmt, sound.exec_slept stmt, ?_, nofun,
          fun reply => sound.exec_handled stmt⟩
        intro _
        dsimp only
        rw [exec_body]
        exact sound.asked (.inr (by rw [handler]; rfl))
      · cases stepped

/-! ## A reply in time -/

/-- A reply whose handler started in time is what the call returns, if it has
returned. -/
def InTime (s : HelperCall m) : Prop :=
  ∀ reply, s.due = some reply → s.resumed = [] ∨ s.resumed = [m.outcome reply]

/-- What a call owes: one result at most, one as soon as the timeout task is over, and
the outcome of a reply in time. -/
structure Decided (s : HelperCall m) : Prop where
  once : s.resumed.length ≤ 1
  answered : s.timer = .done → s.resumed.length = 1
  inTime : s.InTime

/-- The handler of a reply in time has its `finish` ahead, and nothing has resumed the
call. -/
def Undelivered (s : HelperCall m) (reply : m.Reply) : Prop :=
  s.due = some reply ∧ s.finished = false

/-- Neither the timeout task nor the error handler resumes the call, with a result other
than the reply's, while a reply in time is undelivered. -/
def Waits (s : HelperCall m) : CallLabel m → Prop
  | .expire => s.timer = .awake → ∀ reply, ¬ s.Undelivered reply
  | .error => ∀ result rest, s.error = some (.finish result :: rest) →
      ∀ reply, s.Undelivered reply → result = m.outcome reply
  | _ => True

theorem Sound.resumed_le {s : HelperCall m} (sound : s.Sound) : s.resumed.length ≤ 1 := by
  rw [sound.once]
  split <;> decide

theorem Sound.resumed_of_done {s : HelperCall m} (sound : s.Sound) (done : s.timer = .done) :
    s.resumed.length = 1 := by
  rw [sound.once, if_pos (sound.answered done)]

theorem decided_iff {s : HelperCall m} (sound : s.Sound) : s.Decided ↔ s.InTime :=
  ⟨Decided.inTime, fun inTime => ⟨sound.resumed_le, sound.resumed_of_done, inTime⟩⟩

/-- `finish` with the reply's own outcome, or when the call has been resumed. -/
theorem InTime.finish {s : HelperCall m} (sound : s.Sound) (inTime : s.InTime)
    {result : CallResult m.Value}
    (own : ∀ reply, s.Undelivered reply → result = m.outcome reply) :
    (s.finish result).InTime := by
  intro reply due
  rw [finish_due] at due
  cases finished : s.finished with
  | true =>
      rw [finish_resumed_of_finished finished]
      exact inTime reply due
  | false =>
      have resumed : (s.finish result).resumed = s.resumed ++ [result] := by
        rw [HelperCall.finish, if_neg (by rw [finished]; exact nofun)]
      rw [resumed, sound.once.resumed_nil finished, own reply ⟨due, finished⟩]
      exact .inr rfl

theorem InTime.exec {s : HelperCall m} (sound : s.Sound) (inTime : s.InTime)
    {stmt : CallStmt m.Value}
    (own : ∀ result, stmt = .finish result →
      ∀ reply, s.Undelivered reply → result = m.outcome reply) : (s.exec stmt).InTime := by
  cases stmt with
  | cancel | invalidate => exact inTime
  | finish result => exact inTime.finish sound (own result rfl)

/-- The reply block finishes with nothing but its outcome. -/
theorem finish_of_replyHandler {reply : m.Reply} {result : CallResult m.Value}
    {rest : List (CallStmt m.Value)}
    (isSuffix : .finish result :: rest <:+ replyHandler m reply) :
    result = m.outcome reply := by
  have member := isSuffix.subset (List.mem_cons_self ..)
  simpa [replyHandler] using member

/-- When the first handler of a call starts in time, nothing has resumed the call. -/
theorem Sound.unresumed {s : HelperCall m} (sound : s.Sound) (quiet : s.Quiet)
    (early : s.elapsed = false) : s.resumed = [] := by
  obtain ⟨kept, finished⟩ := sound.quiet quiet
  cases open_ : s.finished with
  | false => exact sound.once.resumed_nil open_
  | true =>
      have slept := sound.slept (by rw [finished open_]; exact nofun)
      rw [early, kept] at slept
      rcases slept with never | never <;> cases never

theorem InTime.step {s next : HelperCall m} {label : CallLabel m} (sound : s.Sound)
    (inTime : s.InTime) (waits : s.Waits label) (stepped : callStep m s label = some next) :
    next.InTime := by
  cases label with
  | connect ok =>
      rw [callStep] at stepped
      split at stepped <;> cases stepped
      exact inTime
  | body =>
      rw [callStep] at stepped
      split at stepped
      · rename_i stmt rest failing
        cases stepped
        -- a call without a proxy has sent nothing
        refine inTime.exec sound fun result _ reply undelivered => ?_
        obtain ⟨_, handler, -⟩ := sound.handled reply undelivered.1
        have sent := sound.asked (.inl (by rw [handler]; rfl))
        rw [failing] at sent
        cases sent
      · cases stepped
  | elapse =>
      cases stepped
      exact inTime
  | wake =>
      rw [callStep] at stepped
      split at stepped <;> cases stepped
      exact inTime
  | expire =>
      rw [callStep] at stepped
      split at stepped
      · rename_i awake
        cases stepped
        exact inTime.finish sound fun reply undelivered =>
          absurd undelivered (waits awake reply)
      · cases stepped
  | replies reply =>
      rw [callStep] at stepped
      split at stepped
      · rename_i sent unasked
        cases stepped
        intro other due
        dsimp only at due
        split at due
        · cases due
        · rename_i early
          simp only [not_or, Bool.not_eq_true, Option.isSome_eq_false_iff,
            Option.isNone_iff_eq_none] at early
          exact .inl (sound.unresumed ⟨unasked, early.2, fun rest => by rw [sent]; exact nofun⟩
            early.1)
      · cases stepped
  | reply =>
      rw [callStep] at stepped
      split at stepped
      · rename_i stmt rest handler
        cases stepped
        refine inTime.exec sound ?_
        rintro result rfl reply undelivered
        obtain ⟨all, found, isSuffix, -⟩ := sound.handled reply undelivered.1
        cases handler.symm.trans found
        exact finish_of_replyHandler isSuffix
      · cases stepped
  | fails error =>
      rw [callStep] at stepped
      split at stepped <;> cases stepped
      exact inTime
  | error =>
      rw [callStep] at stepped
      split at stepped
      · rename_i stmt rest handler
        cases stepped
        refine inTime.exec sound ?_
        rintro result rfl
        exact waits result rest handler
      · cases stepped

/-- A `finish` with another result than an undelivered reply's makes the call lose it. -/
theorem finish_loses {s : HelperCall m} (sound : s.Sound) {reply : m.Reply}
    (undelivered : s.Undelivered reply) {result : CallResult m.Value}
    (other : result ≠ m.outcome reply) : ¬ (s.finish result).InTime := by
  intro inTime
  have resumed : (s.finish result).resumed = [result] := by
    rw [finish, if_neg (by rw [undelivered.2]; exact nofun)]
    dsimp only
    rw [sound.once.resumed_nil undelivered.2]
    rfl
  rcases inTime reply ((finish_due s result).trans undelivered.1) with unresumed | same
  · rw [resumed] at unresumed
    cases unresumed
  · rw [resumed] at same
    exact other (List.cons.inj same).1

theorem not_waits {s : HelperCall m} {label : CallLabel m} (sound : s.Sound)
    (hasty : ¬ s.Waits label) :
    ∃ next, callStep m s label = some next ∧ ¬ next.InTime := by
  cases label with
  | expire =>
      simp only [Waits, Classical.not_imp, not_forall, not_not] at hasty
      obtain ⟨awake, reply, undelivered⟩ := hasty
      refine ⟨_, if_pos awake, ?_⟩
      exact finish_loses sound undelivered (m.outcome_ne_timeout reply).symm
  | error =>
      simp only [Waits, Classical.not_imp, not_forall] at hasty
      obtain ⟨result, rest, handler, reply, undelivered, other⟩ := hasty
      refine ⟨_, by rw [callStep, handler], ?_⟩
      exact finish_loses sound undelivered other
  | connect | body | elapse | wake | replies | reply | fails => exact absurd trivial hasty

/-- The timeout task can always run to its end. -/
theorem timer_finishes (s : HelperCall m) :
    ∃ labels last, run (callStep m) s labels = some last ∧ last.timer = .done := by
  cases timer : s.timer with
  | sleeping =>
      refine ⟨[.elapse, .wake, .expire],
        { ({ s with elapsed := true, timer := .awake }).finish (.error helperTimeout) with
          timer := .done }, ?_, rfl⟩
      simp [run_cons, callStep, timer]
  | awake =>
      refine ⟨[.expire], { s.finish (.error helperTimeout) with timer := .done }, ?_, rfl⟩
      simp [run_cons, callStep, timer]
  | done => exact ⟨[], s, rfl, timer⟩

/-- A call returns once, and the timeout task always can bring that about.  It returns the
outcome of a reply in time exactly in the runs in which nobody resumes it with something
else while that reply's handler is at work. -/
theorem reply_decides_iff (m : HelperMethod) (labels : List (CallLabel m)) :
    (Throughout (callStep m) Decided {} labels ↔ Guarded (callStep m) Waits {} labels) ∧
      (∀ s, run (callStep m) {} labels = some s →
        s.resumed.length ≤ 1 ∧ (s.timer = .done → s.resumed.length = 1) ∧
          ∃ more last, run (callStep m) s more = some last ∧ last.timer = .done) ∧
        ∀ reply, m.outcome reply ≠ .error helperTimeout := by
  have kept : ∀ (s : HelperCall m) label next, s.Sound → callStep m s label = some next →
      next.Sound := fun s label next sound stepped => sound.step stepped
  refine ⟨?_, ?_, m.outcome_ne_timeout⟩
  · apply throughout_iff_guarded kept
    · intro s label next sound decided waits stepped
      exact (decided_iff (sound.step stepped)).mpr (decided.inTime.step sound waits stepped)
    · intro s label sound _ hasty
      obtain ⟨next, stepped, loses⟩ := not_waits sound hasty
      exact ⟨next, stepped, fun decided => loses decided.inTime⟩
    · exact sound_start
    · exact (decided_iff sound_start).mpr nofun
  · intro s ran
    have sound := run_invariant kept sound_start ran
    exact ⟨sound.resumed_le, sound.resumed_of_done, timer_finishes s⟩

/-- The helper answers with a pid after a second.  The handler cancels the timeout task,
whose sleep ends at once and which then finishes first. -/
theorem reply_in_time_times_out :
    ∃ s, run (callStep .startConnect) {}
        [.connect true, .replies (4242, none), .reply, .wake, .expire, .reply, .reply] = some s ∧
      s.elapsed = false ∧ s.error.isNone ∧ s.due = some (4242, none) ∧
        startConnectOutcome (4242, none) = .ok 4242 ∧
          s.resumed = [.error helperTimeout] ∧ ¬ s.Decided := by
  refine ⟨_, rfl, rfl, rfl, rfl, rfl, rfl, ?_⟩
  intro decided
  rcases decided.inTime (4242, none) rfl with unresumed | same
  · cases unresumed
  · cases same

end HelperCall

end WiredTethering.App
