import Mathlib.Logic.Function.Basic
import WiredTethering.Process.Descriptors

/-!
# A process, its child and the pipes between them

A pipe holds so many bytes.  It is read while something is in it or somebody could still write,
and written while there is room and somebody could still read; a call that can do neither
blocks.
-/

namespace WiredTethering.Process

/-- What a number is open on: an end of a pipe, or something else. -/
inductive File (P F : Type)
  | reads (p : P)
  | writes (p : P)
  | other (f : F)
deriving DecidableEq

/-- What went through a pipe, and what is in it. -/
structure Stream (α : Type) where
  taken : List α
  queue : List α

namespace Stream

variable {α : Type}

def empty : Stream α :=
  ⟨[], []⟩

def written (s : Stream α) : List α :=
  s.taken ++ s.queue

def put (s : Stream α) (data : List α) : Stream α :=
  ⟨s.taken, s.queue ++ data⟩

def take (s : Stream α) (k : Nat) : Stream α :=
  ⟨s.taken ++ s.queue.take k, s.queue.drop k⟩

@[simp]
theorem written_put (s : Stream α) (data : List α) : (s.put data).written = s.written ++ data :=
  (List.append_assoc _ _ _).symm

@[simp]
theorem written_take (s : Stream α) (k : Nat) : (s.take k).written = s.written := by
  rw [written, take, List.append_assoc, List.take_append_drop]
  rfl

end Stream

/-- A parent, its child while that runs, and the pipes. -/
structure Procs (P F α : Type) where
  parent : Descriptors (File P F)
  child : Option (Descriptors (File P F))
  pipes : P → Stream α

/-- What a child does with its numbers. -/
inductive ChildCall (α : Type)
  | read (fd k : Nat)
  | write (fd : Nat) (data : List α)
  | close (fd : Nat)

namespace Procs

variable {P F α : Type}

def Open (s : Procs P F α) (f : File P F) : Prop :=
  s.parent.Holds f ∨ ∃ t ∈ s.child, t.Holds f

instance [DecidableEq P] [DecidableEq F] (s : Procs P F α) (f : File P F) :
    Decidable (s.Open f) :=
  inferInstanceAs (Decidable (_ ∨ _))

def queue (s : Procs P F α) (p : P) : List α :=
  (s.pipes p).queue

/-- A read of the pipe waits. -/
def ReadBlocks (s : Procs P F α) (p : P) : Prop :=
  s.queue p = [] ∧ s.Open (.writes p)

/-- A write to the pipe waits. -/
def WriteBlocks (capacity : Nat) (s : Procs P F α) (p : P) : Prop :=
  capacity ≤ (s.queue p).length ∧ s.Open (.reads p)

/-- A read of the pipe finds its end. -/
def Ended (s : Procs P F α) (p : P) : Prop :=
  s.queue p = [] ∧ ¬ s.Open (.writes p)

/-- So many may be taken out of the pipe. -/
def CanTake (s : Procs P F α) (p : P) (k : Nat) : Prop :=
  0 < k ∧ k ≤ (s.queue p).length

/-- The pipe has room for the data, and somebody could read it. -/
def CanPut (capacity : Nat) (s : Procs P F α) (p : P) (data : List α) : Prop :=
  data ≠ [] ∧ (s.queue p).length + data.length ≤ capacity ∧ s.Open (.reads p)

/-- None of the child's numbers is one that a call on would wait. -/
def Unblocked (capacity : Nat) (s : Procs P F α) (t : Descriptors (File P F)) : Prop :=
  ∀ fd p, (t.lookup fd = some (.reads p) → ¬ s.ReadBlocks p) ∧
    (t.lookup fd = some (.writes p) → ¬ s.WriteBlocks capacity p)

instance [DecidableEq P] [DecidableEq F] [DecidableEq α] (s : Procs P F α) (p : P) :
    Decidable (s.Ended p) :=
  inferInstanceAs (Decidable (_ ∧ _))

instance (s : Procs P F α) (p : P) (k : Nat) : Decidable (s.CanTake p k) :=
  inferInstanceAs (Decidable (_ ∧ _))

instance [DecidableEq P] [DecidableEq F] [DecidableEq α] (capacity : Nat) (s : Procs P F α)
    (p : P) (data : List α) : Decidable (s.CanPut capacity p data) :=
  inferInstanceAs (Decidable (_ ∧ _ ∧ _))

/-- A read that does not wait takes something or finds the end. -/
theorem canTake_or_ended {s : Procs P F α} {p : P} (ready : ¬ s.ReadBlocks p) :
    s.CanTake p 1 ∨ s.Ended p := by
  by_cases empty : s.queue p = []
  · exact .inr ⟨empty, fun writer => ready ⟨empty, writer⟩⟩
  · exact .inl ⟨Nat.one_pos, List.length_pos_of_ne_nil empty⟩

/-- A write that does not wait puts something or finds nobody who could read it. -/
theorem canPut_or_unread {s : Procs P F α} {capacity : Nat} {p : P}
    (ready : ¬ s.WriteBlocks capacity p) (a : α) :
    s.CanPut capacity p [a] ∨ ¬ s.Open (.reads p) := by
  by_cases reader : s.Open (.reads p)
  · have room : (s.queue p).length < capacity := Nat.lt_of_not_le fun full => ready ⟨full, reader⟩
    exact .inl ⟨List.cons_ne_nil a [], room, reader⟩
  · exact .inr reader

section Steps

variable [DecidableEq P]

def put (s : Procs P F α) (p : P) (data : List α) : Procs P F α :=
  { s with pipes := Function.update s.pipes p ((s.pipes p).put data) }

def take (s : Procs P F α) (p : P) (k : Nat) : Procs P F α :=
  { s with pipes := Function.update s.pipes p ((s.pipes p).take k) }

variable [DecidableEq F] [DecidableEq α]

/-- A call of the child, unless it waits or fails. -/
def childStep (capacity : Nat) (s : Procs P F α) (t : Descriptors (File P F)) :
    ChildCall α → Option (Procs P F α)
  | .read fd k =>
      match t.lookup fd with
      | some (.reads p) => if s.CanTake p k then some (s.take p k) else none
      | _ => none
  | .write fd data =>
      match t.lookup fd with
      | some (.writes p) => if s.CanPut capacity p data then some (s.put p data) else none
      | _ => none
  | .close fd => if fd ∈ t then some { s with child := some (t.erase fd) } else none

/-- What a call of the child does. -/
inductive ChildMoves (capacity : Nat) (s : Procs P F α) (t : Descriptors (File P F)) :
    Procs P F α → Prop
  | took {fd : Nat} {p : P} {k : Nat} (reads : t.lookup fd = some (.reads p))
      (can : s.CanTake p k) : ChildMoves capacity s t (s.take p k)
  | wrote {fd : Nat} {p : P} {data : List α} (writes : t.lookup fd = some (.writes p))
      (can : s.CanPut capacity p data) : ChildMoves capacity s t (s.put p data)
  | closed (fd : Nat) : ChildMoves capacity s t { s with child := some (t.erase fd) }

theorem childStep_moves {capacity : Nat} {s next : Procs P F α} {t : Descriptors (File P F)}
    {call : ChildCall α} (stepped : s.childStep capacity t call = some next) :
    ChildMoves capacity s t next := by
  cases call with
  | read fd k =>
      rw [childStep] at stepped
      split at stepped
      · rename_i p reads
        split_ifs at stepped with can
        cases stepped
        exact .took reads can
      · cases stepped
  | write fd data =>
      rw [childStep] at stepped
      split at stepped
      · rename_i p writes
        split_ifs at stepped with can
        cases stepped
        exact .wrote writes can
      · cases stepped
  | close fd =>
      rw [childStep] at stepped
      split_ifs at stepped with mem
      cases stepped
      exact .closed fd

end Steps

end Procs

end WiredTethering.Process
