import Mathlib.Data.List.AList
import Mathlib.Tactic.SplitIfs

/-!
# Descriptors of a process

A process has numbers, each open on a file.  A child is started with the numbers of its parent,
changed by a list of file actions.
-/

namespace WiredTethering.Process

/-- What the numbers of a process are open on. -/
abbrev Descriptors (F : Type) := AList fun _ : Nat => F

namespace Descriptors

variable {F : Type}

/-- Some number is open on the file. -/
def Holds (t : Descriptors F) (f : F) : Prop :=
  ∃ fd, t.lookup fd = some f

instance [DecidableEq F] (t : Descriptors F) (f : F) : Decidable (t.Holds f) :=
  decidable_of_iff (∃ e ∈ t.entries, e.2 = f) <| by
    constructor
    · rintro ⟨⟨fd, _⟩, mem, rfl⟩
      exact ⟨fd, AList.mem_lookup_iff.mpr mem⟩
    · rintro ⟨fd, here⟩
      exact ⟨⟨fd, f⟩, AList.mem_lookup_iff.mp here, rfl⟩

def closeAll (t : Descriptors F) : List Nat → Descriptors F
  | [] => t
  | fd :: fds => closeAll (t.erase fd) fds

theorem lookup_erase_eq_some {t : Descriptors F} {fd fd' : Nat} {f : F} :
    (t.erase fd').lookup fd = some f ↔ fd ≠ fd' ∧ t.lookup fd = some f := by
  by_cases same : fd = fd'
  · subst same
    rw [AList.lookup_erase]
    exact iff_of_false (Option.some_ne_none f).symm fun both => both.1 rfl
  · rw [AList.lookup_erase_ne same]
    exact (and_iff_right same).symm

theorem Holds.of_erase {t : Descriptors F} {fd : Nat} {f : F} (holds : Holds (t.erase fd) f) :
    Holds t f := by
  obtain ⟨fd', here⟩ := holds
  exact ⟨fd', (lookup_erase_eq_some.mp here).2⟩

end Descriptors

open Descriptors

variable {F : Type}

/-! ## Numbers beside others -/

/-- The process has the numbers of `base` and, beside them, those of `ends`. -/
structure Beside (base : Descriptors F) (ends : List (Nat × F)) (t : Descriptors F) : Prop where
  distinct : (ends.map Prod.fst).Nodup
  fresh : ∀ e ∈ ends, e.1 ∉ base
  own : ∀ e ∈ ends, t.lookup e.1 = some e.2
  other : ∀ fd, fd ∉ ends.map Prod.fst → t.lookup fd = base.lookup fd

namespace Beside

variable {base t : Descriptors F} {ends : List (Nat × F)}

theorem nil (base : Descriptors F) : Beside base [] base :=
  ⟨List.nodup_nil, fun _ mem => absurd mem List.not_mem_nil,
    fun _ mem => absurd mem List.not_mem_nil, fun _ _ => rfl⟩

theorem perm {ends' : List (Nat × F)} (beside : Beside base ends t) (same : ends.Perm ends') :
    Beside base ends' t where
  distinct := (same.map Prod.fst).nodup_iff.mp beside.distinct
  fresh := fun e mem => beside.fresh e (same.mem_iff.mpr mem)
  own := fun e mem => beside.own e (same.mem_iff.mpr mem)
  other := fun fd none_ => beside.other fd fun mem => none_ ((same.map Prod.fst).mem_iff.mp mem)

/-- A number that was not open. -/
theorem cons (beside : Beside base ends t) {fd : Nat} (f : F) (free : fd ∉ t) :
    Beside base ((fd, f) :: ends) (t.insert fd f) := by
  have new : fd ∉ ends.map Prod.fst := by
    intro mem
    obtain ⟨e, inside, rfl⟩ := List.mem_map.mp mem
    exact free (AList.lookup_isSome.mp (by rw [beside.own e inside]; rfl))
  have unused : fd ∉ base := by
    rw [← AList.lookup_eq_none, ← beside.other fd new]
    exact AList.lookup_eq_none.mpr free
  constructor
  · rw [List.map_cons, List.nodup_cons]
    exact ⟨new, beside.distinct⟩
  · rw [List.forall_mem_cons]
    exact ⟨unused, beside.fresh⟩
  · rw [List.forall_mem_cons]
    refine ⟨AList.lookup_insert t, fun e mem => ?_⟩
    have differs : e.1 ≠ fd := fun same => new (same ▸ List.mem_map_of_mem mem)
    rw [AList.lookup_insert_ne differs]
    exact beside.own e mem
  · intro fd' none_
    rw [List.map_cons, List.mem_cons, not_or] at none_
    rw [AList.lookup_insert_ne none_.1]
    exact beside.other fd' none_.2

theorem tail {e : Nat × F} (beside : Beside base (e :: ends) t) :
    Beside base ends (t.erase e.1) := by
  have distinct := beside.distinct
  rw [List.map_cons, List.nodup_cons] at distinct
  constructor
  · exact distinct.2
  · exact fun e' mem => beside.fresh e' (List.mem_cons_of_mem _ mem)
  · intro e' mem
    have differs : e'.1 ≠ e.1 := fun same => distinct.1 (same ▸ List.mem_map_of_mem mem)
    rw [AList.lookup_erase_ne differs]
    exact beside.own e' (List.mem_cons_of_mem _ mem)
  · intro fd none_
    by_cases here : fd = e.1
    · rw [here, AList.lookup_erase]
      exact (AList.lookup_eq_none.mpr (beside.fresh e List.mem_cons_self)).symm
    · rw [AList.lookup_erase_ne here]
      apply beside.other
      rw [List.map_cons, List.mem_cons, not_or]
      exact ⟨here, none_⟩

theorem closeAll {gone : List (Nat × F)} (beside : Beside base (gone ++ ends) t) :
    Beside base ends (t.closeAll (gone.map Prod.fst)) := by
  induction gone generalizing t with
  | nil => exact beside
  | cons e gone ih => exact ih beside.tail

theorem closeEvery (beside : Beside base ends t) :
    Beside base [] (t.closeAll (ends.map Prod.fst)) := by
  rw [← List.append_nil ends] at beside
  exact beside.closeAll

theorem mem_of_lookup (beside : Beside base ends t) {fd : Nat} {f : F}
    (here : t.lookup fd = some f) : (fd, f) ∈ ends ∨ base.lookup fd = some f := by
  by_cases mem : fd ∈ ends.map Prod.fst
  · obtain ⟨e, inside, rfl⟩ := List.mem_map.mp mem
    rw [beside.own e inside] at here
    cases here
    exact .inl inside
  · exact .inr ((beside.other fd mem).symm.trans here)

theorem lookup_base (beside : Beside base ends t) {fd : Nat} (mem : fd ∈ base) :
    t.lookup fd = base.lookup fd := by
  apply beside.other
  intro inside
  obtain ⟨e, own, rfl⟩ := List.mem_map.mp inside
  exact beside.fresh e own mem

end Beside

/-! ## File actions -/

inductive FileAction
  | dup2 (source target : Nat)
  | close (fd : Nat)
deriving DecidableEq, Repr

namespace FileAction

def act (t : Descriptors F) : FileAction → Option (Descriptors F)
  | .dup2 source target => (t.lookup source).map fun f => t.insert target f
  | .close fd => if fd ∈ t then some (t.erase fd) else none

/-- The number that is copied. -/
def reads : FileAction → Option Nat
  | .dup2 source _ => some source
  | .close _ => none

end FileAction

/-- The child's numbers, of the parent's. -/
def actAll (t : Descriptors F) : List FileAction → Option (Descriptors F)
  | [] => some t
  | a :: actions => (a.act t).bind fun next => actAll next actions

/-- What is open at one number only and not copied from there is at no other number behind an
action. -/
theorem act_only {t next : Descriptors F} {a : FileAction} {f : F} {n : Nat}
    (acted : a.act t = some next) (only : ∀ fd, t.lookup fd = some f → fd = n)
    (uncopied : a.reads ≠ some n) :
    ∀ fd, next.lookup fd = some f → fd = n ∧ a ≠ .close n := by
  intro fd here
  cases a with
  | dup2 source target =>
      obtain ⟨g, there, rfl⟩ := Option.map_eq_some_iff.mp acted
      by_cases same : fd = target
      · subst same
        rw [AList.lookup_insert] at here
        cases here
        exact absurd (congrArg some (only source there)) uncopied
      · rw [AList.lookup_insert_ne same] at here
        exact ⟨only fd here, FileAction.noConfusion⟩
  | close fd' =>
      rw [FileAction.act] at acted
      split_ifs at acted with mem
      cases acted
      obtain ⟨differs, here⟩ := lookup_erase_eq_some.mp here
      have at_ := only fd here
      refine ⟨at_, fun same => differs ?_⟩
      cases same
      exact at_

theorem act_holds {t next : Descriptors F} {a : FileAction} (acted : a.act t = some next) {f : F}
    (holds : next.Holds f) : t.Holds f := by
  obtain ⟨fd, here⟩ := holds
  cases a with
  | dup2 source target =>
      obtain ⟨g, there, rfl⟩ := Option.map_eq_some_iff.mp acted
      by_cases same : fd = target
      · subst same
        rw [AList.lookup_insert] at here
        exact ⟨source, there.trans here⟩
      · rw [AList.lookup_insert_ne same] at here
        exact ⟨fd, here⟩
  | close fd' =>
      rw [FileAction.act] at acted
      split_ifs at acted with mem
      cases acted
      exact ⟨fd, (lookup_erase_eq_some.mp here).2⟩

/-- A file at one number only, which is not copied from there and closed there. -/
structure Dropped (t : Descriptors F) (actions : List FileAction) (f : F) (n : Nat) : Prop where
  only : ∀ fd, t.lookup fd = some f → fd = n
  uncopied : ∀ a ∈ actions, a.reads ≠ some n
  closed : FileAction.close n ∈ actions

/-- A child does not hold a file that is dropped. -/
theorem actAll_drops {t child : Descriptors F} {actions : List FileAction} {f : F} {n : Nat}
    (acted : actAll t actions = some child) (dropped : t.Holds f → Dropped t actions f n) :
    ¬ child.Holds f := by
  induction actions generalizing t with
  | nil =>
      cases acted
      exact fun holds => absurd (dropped holds).closed List.not_mem_nil
  | cons a actions ih =>
      obtain ⟨next, first, rest⟩ := Option.bind_eq_some_iff.mp acted
      apply ih rest
      intro holds
      obtain ⟨only, uncopied, closed⟩ := dropped (act_holds first holds)
      rw [List.forall_mem_cons] at uncopied
      have after := act_only first only uncopied.1
      refine ⟨fun fd here => (after fd here).1, uncopied.2, ?_⟩
      obtain ⟨fd, here⟩ := holds
      rcases List.mem_cons.mp closed with same | mem
      · exact absurd same.symm (after fd here).2
      · exact mem

end WiredTethering.Process
