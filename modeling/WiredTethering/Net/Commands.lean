import WiredTethering.Net.Host
import WiredTethering.Process.Pipes
import WiredTethering.Transition.Core

/-!
# External commands, call by call

`Net.Host` takes an external command as one step.  Here the functions that run one are taken
apart into their system calls: the pipes, the child with its file actions, the loops that feed
and drain it, and `waitpid`.  The parent and the child take their calls in any order.
-/

namespace WiredTethering.Net.Commands

open WiredTethering.Memory
open WiredTethering.Common
open WiredTethering.Process
open WiredTethering.Transition

inductive StdPipe
  | input
  | output
deriving DecidableEq, Repr

/-- The two numbers that `pipe` gives. -/
abbrev Pipefd := Nat × Nat

/-- What tells the functions apart: whether they refuse their arguments, what they feed, the length
of the array they drain into, the file actions for the input and the output pipe, and what they
return where `waitpid` fails.  No argument is `NULL`. -/
structure Plumbing where
  refused : Bool
  input : Option Bytes
  outLen : Option Nat
  actions : Pipefd → Pipefd → List FileAction
  unreaped : Int

def runCmd : Plumbing where
  refused := false
  input := none
  outLen := none
  actions := fun _ _ => []
  unreaped := -1

def captureCmd (outLen : Nat) : Plumbing where
  refused := false
  input := none
  outLen := some outLen
  actions := fun _ pipefd => [.dup2 pipefd.2 1, .close pipefd.1]
  unreaped := 0

def captureCmdMerged (outLen : Nat) : Plumbing where
  refused := false
  input := none
  outLen := some outLen
  actions := fun _ pipefd => [.dup2 pipefd.2 1, .dup2 pipefd.2 2, .close pipefd.1]
  unreaped := 0

def runCmdStdin (input : Bytes) : Plumbing where
  refused := false
  input := some input
  outLen := none
  actions := fun pipefd _ =>
    [.dup2 pipefd.1 0, .close pipefd.2] ++ (if pipefd.1 ≠ 0 then [.close pipefd.1] else [])
  unreaped := -1

def captureCmdStdin (input : Bytes) (outLen : Nat) : Plumbing where
  refused := outLen = 0
  input := some input
  outLen := some outLen
  actions := fun inpipe outpipe =>
    [.dup2 inpipe.1 0, .dup2 outpipe.2 1, .dup2 outpipe.2 2, .close inpipe.2, .close outpipe.1] ++
      (if inpipe.1 ≠ 0 then [.close inpipe.1] else []) ++
      (if outpipe.2 ≠ 1 ∧ outpipe.2 ≠ 2 then [.close outpipe.2] else [])
  unreaped := 0

/-- The functions of `net_config.c` that run a command. -/
inductive IsCommand : Plumbing → Prop
  | runCmd : IsCommand runCmd
  | captureCmd (outLen : Nat) : IsCommand (captureCmd outLen)
  | captureCmdMerged (outLen : Nat) : IsCommand (captureCmdMerged outLen)
  | runCmdStdin (input : Bytes) : IsCommand (runCmdStdin input)
  | captureCmdStdin (input : Bytes) (outLen : Nat) : IsCommand (captureCmdStdin input outLen)

/-! ## The calls -/

inductive CommandPc
  | pipingIn
  | pipingOut
  | spawning
  | releasing
  | feeding (off : Nat)
  | draining
  | waiting
  | returned (rc : Int)
deriving DecidableEq, Repr

/-- How a child ended; `WIFEXITED` with its status, or by a signal. -/
inductive Ended
  | exited (status : UInt8)
  | signaled
deriving DecidableEq, Repr

/-- A call of one of the functions.  `starved` is whether a `write` failed, `cut` whether a `read`
did, and `reaped` whether `waitpid` returned the child. -/
structure Command (F : Type) where
  pc : CommandPc
  procs : Procs StdPipe F UInt8
  inpipe : Pipefd
  outpipe : Pipefd
  ended : Option Ended
  starved : Bool
  cut : Bool
  reaped : Bool

/-- What a call answers, or what the child does. -/
inductive CommandLabel
  | piped (numbers : Option Pipefd)
  | spawned (ok : Bool)
  | released
  | wrote (k : Nat)
  | writeFailed
  | fed
  | read (k : Nat)
  | readEnd
  | readFailed
  | filled
  | waited
  | waitFailed
  | child (call : ChildCall UInt8)
  | childExits (ended : Ended)

namespace Plumbing

/-- In front of the first call. -/
def firstPc (plan : Plumbing) : CommandPc :=
  if plan.refused then .returned (-1)
  else if plan.input.isSome then .pipingIn
  else if plan.outLen.isSome then .pipingOut
  else .spawning

theorem firstPc_cases (plan : Plumbing) :
    plan.refused = true ∧ plan.firstPc = .returned (-1) ∨
      plan.input.isSome = true ∧ plan.firstPc = .pipingIn ∨
      plan.input = none ∧ plan.outLen.isSome = true ∧ plan.firstPc = .pipingOut ∨
      plan.input = none ∧ plan.outLen = none ∧ plan.firstPc = .spawning := by
  rw [firstPc]
  split_ifs with refused feeds drains
  · exact .inl ⟨refused, rfl⟩
  · exact .inr (.inl ⟨feeds, rfl⟩)
  · exact .inr (.inr (.inl ⟨Option.not_isSome_iff_eq_none.mp feeds, drains, rfl⟩))
  · exact .inr (.inr (.inr ⟨Option.not_isSome_iff_eq_none.mp feeds,
      Option.not_isSome_iff_eq_none.mp drains, rfl⟩))

/-- Behind the close of the input pipe. -/
def drainPc (plan : Plumbing) : CommandPc :=
  if plan.outLen.isSome then .draining else .waiting

def feedPc (plan : Plumbing) : CommandPc :=
  if plan.input.isSome then .feeding 0 else plan.drainPc

def text (plan : Plumbing) : Bytes :=
  plan.input.getD []

/-- `n + 1 < out_len`. -/
def HasRoom (plan : Plumbing) (n : Nat) : Prop :=
  n + 1 < plan.outLen.getD 0

instance (plan : Plumbing) (n : Nat) : Decidable (plan.HasRoom n) :=
  inferInstanceAs (Decidable (_ < _))

/-- A pipe is made for a function that uses it. -/
def Pipes (plan : Plumbing) : CommandPc → Prop
  | .pipingIn => plan.input.isSome = true
  | .pipingOut => plan.outLen.isSome = true
  | _ => True

end Plumbing

namespace Command

variable {F : Type}

def start (plan : Plumbing) (base : Descriptors (File StdPipe F)) : Command F where
  pc := plan.firstPc
  procs := ⟨base, none, fun _ => .empty⟩
  inpipe := (0, 0)
  outpipe := (0, 0)
  ended := none
  starved := false
  cut := false
  reaped := false

/-- What the numbers of the input pipe are open on, for a function that has one. -/
def inEnds (s : Command F) (plan : Plumbing) : List (Nat × File StdPipe F) :=
  if plan.input.isSome then [(s.inpipe.1, .reads .input), (s.inpipe.2, .writes .input)] else []

def inRead (s : Command F) (plan : Plumbing) : List (Nat × File StdPipe F) :=
  (s.inEnds plan).take 1

def inWrite (s : Command F) (plan : Plumbing) : List (Nat × File StdPipe F) :=
  (s.inEnds plan).drop 1

def outEnds (s : Command F) (plan : Plumbing) : List (Nat × File StdPipe F) :=
  if plan.outLen.isSome then [(s.outpipe.1, .reads .output), (s.outpipe.2, .writes .output)]
  else []

def outRead (s : Command F) (plan : Plumbing) : List (Nat × File StdPipe F) :=
  (s.outEnds plan).take 1

def outWrite (s : Command F) (plan : Plumbing) : List (Nat × File StdPipe F) :=
  (s.outEnds plan).drop 1

/-- `close`, of several numbers. -/
def close (s : Command F) (gone : List (Nat × File StdPipe F)) : Command F :=
  { s with procs := { s.procs with parent := s.procs.parent.closeAll (gone.map Prod.fst) } }

def goto (s : Command F) (pc : CommandPc) : Command F :=
  { s with pc := pc }

/-- `out`, in front of the trimming. -/
def got (s : Command F) : Bytes :=
  (s.procs.pipes .output).taken

/-- The bytes of the child's output. -/
def printed (s : Command F) : Bytes :=
  (s.procs.pipes .output).written

/-- `out`. -/
def out (s : Command F) : Bytes :=
  s.got.rdropWhile fun c => c = 10 || c = 13 || c = 32

/-- Numbers that are not open. -/
def Free (s : Command F) (numbers : Pipefd) : Prop :=
  numbers.1 ∉ s.procs.parent ∧ numbers.2 ∉ s.procs.parent ∧ numbers.1 ≠ numbers.2

instance (s : Command F) (numbers : Pipefd) : Decidable (s.Free numbers) :=
  inferInstanceAs (Decidable (_ ∧ _ ∧ _))

/-- `pipe`. -/
def pipe (s : Command F) (p : StdPipe) (numbers : Pipefd) : Descriptors (File StdPipe F) :=
  (s.procs.parent.insert numbers.1 (.reads p)).insert numbers.2 (.writes p)

variable [DecidableEq F]

/-- A call of the parent. -/
def answer (plan : Plumbing) (capacity : Nat) (s : Command F) :
    CommandPc → CommandLabel → Option (Command F)
  | .pipingIn, .piped none => some (s.goto (.returned (-1)))
  | .pipingIn, .piped (some numbers) =>
      if s.Free numbers then
        some { s with
          pc := if plan.outLen.isSome then .pipingOut else .spawning
          procs := { s.procs with parent := s.pipe .input numbers }
          inpipe := numbers }
      else none
  | .pipingOut, .piped none => some ((s.close (s.inEnds plan)).goto (.returned (-1)))
  | .pipingOut, .piped (some numbers) =>
      if s.Free numbers then
        some { s with
          pc := .spawning
          procs := { s.procs with parent := s.pipe .output numbers }
          outpipe := numbers }
      else none
  | .spawning, .spawned ok =>
      if ok then
        (actAll s.procs.parent (plan.actions s.inpipe s.outpipe)).map fun child =>
          { s with pc := .releasing, procs := { s.procs with child := some child } }
      else some ((s.close (s.inEnds plan ++ s.outEnds plan)).goto (.returned (-1)))
  | .releasing, .released => some ((s.close (s.inRead plan ++ s.outWrite plan)).goto plan.feedPc)
  | .feeding off, .wrote k =>
      let data := (plan.text.drop off).take k
      if off + k ≤ plan.text.length ∧ s.procs.CanPut capacity .input data then
        some { s with pc := .feeding (off + k), procs := s.procs.put .input data }
      else none
  | .feeding off, .writeFailed =>
      if off < plan.text.length then
        some { (s.close (s.inWrite plan)).goto plan.drainPc with starved := true }
      else none
  | .feeding off, .fed =>
      if plan.text.length ≤ off then some ((s.close (s.inWrite plan)).goto plan.drainPc) else none
  | .draining, .read k =>
      if plan.HasRoom s.got.length ∧ s.got.length + k < plan.outLen.getD 0 ∧
          s.procs.CanTake .output k then
        some { s with procs := s.procs.take .output k }
      else none
  | .draining, .readEnd =>
      if plan.HasRoom s.got.length ∧ s.procs.Ended .output then
        some ((s.close (s.outRead plan)).goto .waiting)
      else none
  | .draining, .readFailed =>
      if plan.HasRoom s.got.length then
        some { (s.close (s.outRead plan)).goto .waiting with cut := true }
      else none
  | .draining, .filled =>
      if plan.HasRoom s.got.length then none
      else some ((s.close (s.outRead plan)).goto .waiting)
  | .waiting, .waited =>
      s.ended.map fun ended =>
        { s.goto (.returned (if ended = .exited 0 then 0 else -1)) with reaped := true }
  | .waiting, .waitFailed => some (s.goto (.returned plan.unreaped))
  | _, _ => none

/-- A step of the parent or the child. -/
def step (plan : Plumbing) (capacity : Nat) : Step (Command F) CommandLabel
  | s, .child call =>
      s.procs.child.bind fun t =>
        (s.procs.childStep capacity t call).map fun procs => { s with procs := procs }
  | s, .childExits ended =>
      s.procs.child.map fun _ =>
        { s with procs := { s.procs with child := none }, ended := some ended }
  | s, label => s.answer plan capacity s.pc label

/-! ## What a step does -/

section Moves

variable (plan : Plumbing) (capacity : Nat) (s : Command F)

/-- What a step does. -/
inductive Moves : Command F → Prop
  | unpipedIn (pc : s.pc = .pipingIn) : Moves (s.goto (.returned (-1)))
  | pipedIn {numbers : Pipefd} (pc : s.pc = .pipingIn) (free : s.Free numbers) :
      Moves { s with
        pc := if plan.outLen.isSome then .pipingOut else .spawning
        procs := { s.procs with parent := s.pipe .input numbers }
        inpipe := numbers }
  | unpipedOut (pc : s.pc = .pipingOut) :
      Moves ((s.close (s.inEnds plan)).goto (.returned (-1)))
  | pipedOut {numbers : Pipefd} (pc : s.pc = .pipingOut) (free : s.Free numbers) :
      Moves { s with
        pc := .spawning
        procs := { s.procs with parent := s.pipe .output numbers }
        outpipe := numbers }
  | spawned {child : Descriptors (File StdPipe F)} (pc : s.pc = .spawning)
      (acted : actAll s.procs.parent (plan.actions s.inpipe s.outpipe) = some child) :
      Moves { s with pc := .releasing, procs := { s.procs with child := some child } }
  | unspawned (pc : s.pc = .spawning) :
      Moves ((s.close (s.inEnds plan ++ s.outEnds plan)).goto (.returned (-1)))
  | released (pc : s.pc = .releasing) :
      Moves ((s.close (s.inRead plan ++ s.outWrite plan)).goto plan.feedPc)
  | wrote {off k : Nat} (pc : s.pc = .feeding off) (inside : off + k ≤ plan.text.length) :
      Moves { s with
        pc := .feeding (off + k)
        procs := s.procs.put .input ((plan.text.drop off).take k) }
  | writeFailed {off : Nat} (pc : s.pc = .feeding off) :
      Moves { (s.close (s.inWrite plan)).goto plan.drainPc with starved := true }
  | fed {off : Nat} (pc : s.pc = .feeding off) (all : plan.text.length ≤ off) :
      Moves ((s.close (s.inWrite plan)).goto plan.drainPc)
  | read {k : Nat} (pc : s.pc = .draining) (room : s.got.length + k < plan.outLen.getD 0)
      (can : s.procs.CanTake .output k) :
      Moves { s with procs := s.procs.take .output k }
  | readEnd (pc : s.pc = .draining) (room : plan.HasRoom s.got.length)
      (ended : s.procs.Ended .output) : Moves ((s.close (s.outRead plan)).goto .waiting)
  | readFailed (pc : s.pc = .draining) :
      Moves { (s.close (s.outRead plan)).goto .waiting with cut := true }
  | filled (pc : s.pc = .draining) (full : ¬ plan.HasRoom s.got.length) :
      Moves ((s.close (s.outRead plan)).goto .waiting)
  | waited {ended : Ended} (pc : s.pc = .waiting) (over_ : s.ended = some ended) :
      Moves { s.goto (.returned (if ended = .exited 0 then 0 else -1)) with reaped := true }
  | waitFailed (pc : s.pc = .waiting) : Moves (s.goto (.returned plan.unreaped))
  | child {t : Descriptors (File StdPipe F)} {procs : Procs StdPipe F UInt8}
      (alive : s.procs.child = some t) (moves : s.procs.ChildMoves capacity t procs) :
      Moves { s with procs := procs }
  | childExits {t : Descriptors (File StdPipe F)} (alive : s.procs.child = some t)
      (ended : Ended) :
      Moves { s with procs := { s.procs with child := none }, ended := some ended }

end Moves

theorem step_moves {plan : Plumbing} {capacity : Nat} {s next : Command F}
    {label : CommandLabel} (stepped : s.step plan capacity label = some next) :
    s.Moves plan capacity next := by
  cases label with
  | child call =>
      obtain ⟨t, alive, stepped⟩ := Option.bind_eq_some_iff.mp stepped
      obtain ⟨procs, moved, rfl⟩ := Option.map_eq_some_iff.mp stepped
      exact .child alive (Procs.childStep_moves moved)
  | childExits ended =>
      obtain ⟨t, alive, rfl⟩ := Option.map_eq_some_iff.mp stepped
      exact .childExits alive ended
  | piped numbers =>
      change s.answer plan capacity s.pc (.piped numbers) = some next at stepped
      cases here : s.pc with
      | pipingIn =>
          rw [here] at stepped
          cases numbers with
          | none =>
              cases stepped
              exact .unpipedIn here
          | some numbers =>
              obtain ⟨free, same⟩ := Option.ite_none_right_eq_some.mp stepped
              cases same
              exact .pipedIn here free
      | pipingOut =>
          rw [here] at stepped
          cases numbers with
          | none =>
              cases stepped
              exact .unpipedOut here
          | some numbers =>
              rw [answer] at stepped
              split_ifs at stepped with free
              cases stepped
              exact .pipedOut here free
      | _ => rw [here] at stepped; cases stepped
  | spawned ok =>
      change s.answer plan capacity s.pc (.spawned ok) = some next at stepped
      cases here : s.pc with
      | spawning =>
          rw [here] at stepped
          cases ok with
          | true =>
              obtain ⟨child, acted, rfl⟩ := Option.map_eq_some_iff.mp stepped
              exact .spawned here acted
          | false =>
              cases stepped
              exact .unspawned here
      | _ => rw [here] at stepped; cases stepped
  | released =>
      change s.answer plan capacity s.pc .released = some next at stepped
      cases here : s.pc with
      | releasing =>
          rw [here] at stepped
          cases stepped
          exact .released here
      | _ => rw [here] at stepped; cases stepped
  | wrote k =>
      change s.answer plan capacity s.pc (.wrote k) = some next at stepped
      cases here : s.pc with
      | feeding off =>
          rw [here, answer] at stepped
          split_ifs at stepped with can
          cases stepped
          exact .wrote here can.1
      | _ => rw [here] at stepped; cases stepped
  | writeFailed =>
      change s.answer plan capacity s.pc .writeFailed = some next at stepped
      cases here : s.pc with
      | feeding off =>
          rw [here, answer] at stepped
          split_ifs at stepped with more
          cases stepped
          exact .writeFailed here
      | _ => rw [here] at stepped; cases stepped
  | fed =>
      change s.answer plan capacity s.pc .fed = some next at stepped
      cases here : s.pc with
      | feeding off =>
          rw [here, answer] at stepped
          split_ifs at stepped with all
          cases stepped
          exact .fed here all
      | _ => rw [here] at stepped; cases stepped
  | read k =>
      change s.answer plan capacity s.pc (.read k) = some next at stepped
      cases here : s.pc with
      | draining =>
          rw [here, answer] at stepped
          split_ifs at stepped with can
          cases stepped
          exact .read here can.2.1 can.2.2
      | _ => rw [here] at stepped; cases stepped
  | readEnd =>
      change s.answer plan capacity s.pc .readEnd = some next at stepped
      cases here : s.pc with
      | draining =>
          rw [here, answer] at stepped
          split_ifs at stepped with can
          cases stepped
          exact .readEnd here can.1 can.2
      | _ => rw [here] at stepped; cases stepped
  | readFailed =>
      change s.answer plan capacity s.pc .readFailed = some next at stepped
      cases here : s.pc with
      | draining =>
          rw [here, answer] at stepped
          split_ifs at stepped with room
          cases stepped
          exact .readFailed here
      | _ => rw [here] at stepped; cases stepped
  | filled =>
      change s.answer plan capacity s.pc .filled = some next at stepped
      cases here : s.pc with
      | draining =>
          rw [here, answer] at stepped
          split_ifs at stepped with room
          cases stepped
          exact .filled here room
      | _ => rw [here] at stepped; cases stepped
  | waited =>
      change s.answer plan capacity s.pc .waited = some next at stepped
      cases here : s.pc with
      | waiting =>
          rw [here] at stepped
          obtain ⟨ended, over_, rfl⟩ := Option.map_eq_some_iff.mp stepped
          exact .waited here over_
      | _ => rw [here] at stepped; cases stepped
  | waitFailed =>
      change s.answer plan capacity s.pc .waitFailed = some next at stepped
      cases here : s.pc with
      | waiting =>
          rw [here] at stepped
          cases stepped
          exact .waitFailed here
      | _ => rw [here] at stepped; cases stepped

end Command

end WiredTethering.Net.Commands
