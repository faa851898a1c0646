import Mathlib.Data.List.Basic

/-!
# Labelled transition systems with executable steps

A step takes a state and a label and fails when the label is not enabled there.
All nondeterminism (which thread moves, which result a call returns) is carried
by the label, so a finite run is the fold of the step along a list of labels
and can be evaluated.

The module gives the rules that every invariant of such a system uses: an
invariant kept by each step is kept by each run, and an invariant kept by each
step that meets a side condition is kept by each run whose steps all meet it.
When every other step breaks the property, the runs that keep it throughout are
exactly those.
-/

namespace WiredTethering.Transition

universe u v

/-- A partial step, selected by a label. -/
abbrev Step (σ : Type u) (α : Type v) := σ → α → Option σ

variable {σ : Type u} {α : Type v}

/-- Execute a list of labels; a label that is not enabled fails the run. -/
def run (step : Step σ α) : σ → List α → Option σ
  | state, [] => some state
  | state, label :: labels => (step state label).bind fun next => run step next labels

@[simp]
theorem run_nil (step : Step σ α) (state : σ) : run step state [] = some state :=
  rfl

theorem run_cons (step : Step σ α) (state : σ) (label : α) (labels : List α) :
    run step state (label :: labels) =
      (step state label).bind fun next => run step next labels :=
  rfl

theorem run_cons_eq_some_iff {step : Step σ α} {state last : σ} {label : α}
    {labels : List α} :
    run step state (label :: labels) = some last ↔
      ∃ next, step state label = some next ∧ run step next labels = some last := by
  rw [run_cons]
  exact Option.bind_eq_some_iff

/-- Runs compose. -/
theorem run_append (step : Step σ α) (state : σ) (first second : List α) :
    run step state (first ++ second) =
      (run step state first).bind fun middle => run step middle second := by
  induction first generalizing state with
  | nil => rfl
  | cons label labels ih =>
      simp only [List.cons_append, run_cons, Option.bind_assoc]
      exact congrArg _ (funext fun next => ih next)

/-- A run that goes on by one step. -/
theorem run_concat {step : Step σ α} {state middle : σ} {front : List α}
    (ran : run step state front = some middle) (label : α) :
    run step state (front ++ [label]) = step middle label := by
  simp [run_append, ran, run_cons]

/-- A property kept by every step is kept by every run. -/
theorem run_invariant {step : Step σ α} {inv : σ → Prop}
    (preserved : ∀ state label next, inv state → step state label = some next → inv next)
    {state last : σ} {labels : List α} (holds : inv state)
    (ran : run step state labels = some last) : inv last := by
  induction labels generalizing state with
  | nil =>
      cases ran
      exact holds
  | cons label labels ih =>
      obtain ⟨next, stepped, rest⟩ := run_cons_eq_some_iff.mp ran
      exact ih (preserved state label next holds stepped) rest

/-- Every step of the run from `state` along `labels` meets `guard` at the state
it is taken from. -/
def Guarded (step : Step σ α) (guard : σ → α → Prop) : σ → List α → Prop
  | _, [] => True
  | state, label :: labels =>
      guard state label ∧ ∀ next, step state label = some next → Guarded step guard next labels

instance decidableGuarded (step : Step σ α) (guard : σ → α → Prop)
    [decides : ∀ state label, Decidable (guard state label)] :
    ∀ state labels, Decidable (Guarded step guard state labels)
  | _, [] => .isTrue trivial
  | state, label :: labels =>
      have : Decidable (∀ next, step state label = some next → Guarded step guard next labels) :=
        match step state label with
        | none => .isTrue nofun
        | some next =>
            match decidableGuarded step guard next labels with
            | .isTrue guarded => .isTrue fun _ same => Option.some.inj same ▸ guarded
            | .isFalse spoilt => .isFalse fun all => spoilt (all next rfl)
      inferInstanceAs (Decidable (_ ∧ _))

/-- A property kept by every step that meets `guard` is kept by every run whose
steps all meet it. -/
theorem run_guarded_invariant {step : Step σ α} {guard : σ → α → Prop} {inv : σ → Prop}
    (preserved : ∀ state label next, inv state → guard state label →
      step state label = some next → inv next)
    {state last : σ} {labels : List α} (holds : inv state)
    (guarded : Guarded step guard state labels)
    (ran : run step state labels = some last) : inv last := by
  induction labels generalizing state with
  | nil =>
      cases ran
      exact holds
  | cons label labels ih =>
      obtain ⟨next, stepped, rest⟩ := run_cons_eq_some_iff.mp ran
      exact ih (preserved state label next holds guarded.1 stepped)
        (guarded.2 next stepped) rest

/-- Two conditions that agree in every state of an invariant are met by the same
runs. -/
theorem guarded_iff {step : Step σ α} {first second : σ → α → Prop} {inv : σ → Prop}
    (kept : ∀ state label next, inv state → step state label = some next → inv next)
    (agree : ∀ state label, inv state → (first state label ↔ second state label))
    {state : σ} {labels : List α} (start : inv state) :
    Guarded step first state labels ↔ Guarded step second state labels := by
  induction labels generalizing state with
  | nil => exact Iff.rfl
  | cons label labels ih =>
      apply and_congr (agree state label start)
      apply forall₂_congr
      intro next stepped
      exact ih (kept state label next start stepped)

theorem guarded_congr {step : Step σ α} {first second : σ → α → Prop}
    (agree : ∀ state label, first state label ↔ second state label) (state : σ)
    (labels : List α) : Guarded step first state labels ↔ Guarded step second state labels :=
  @guarded_iff σ α step first second (fun _ => True) (fun _ _ _ _ _ => trivial)
    (fun state label _ => agree state label) state labels trivial

/-- The last step of a guarded run meets the condition. -/
theorem Guarded.last {step : Step σ α} {guard : σ → α → Prop} {state middle : σ}
    {front : List α} {label : α} (guarded : Guarded step guard state (front ++ [label]))
    (ran : run step state front = some middle) : guard middle label := by
  induction front generalizing state with
  | nil =>
      cases ran
      exact guarded.1
  | cons first front ih =>
      obtain ⟨next, stepped, rest⟩ := run_cons_eq_some_iff.mp ran
      exact ih (guarded.2 next stepped) rest

/-- The property holds in every state that the run from `state` along `labels`
passes through. -/
def Throughout (step : Step σ α) (holds : σ → Prop) (state : σ) (labels : List α) : Prop :=
  ∀ front, front <+: labels → ∀ last, run step state front = some last → holds last

theorem throughout_cons_iff {step : Step σ α} {holds : σ → Prop} {state : σ} {label : α}
    {labels : List α} :
    Throughout step holds state (label :: labels) ↔
      holds state ∧ ∀ next, step state label = some next → Throughout step holds next labels := by
  constructor
  · intro throughout
    constructor
    · exact throughout [] List.nil_prefix state rfl
    · intro next stepped front isPrefix last ran
      apply throughout (label :: front) (List.cons_prefix_cons.mpr ⟨rfl, isPrefix⟩) last
      exact run_cons_eq_some_iff.mpr ⟨next, stepped, ran⟩
  · rintro ⟨here, later⟩ front isPrefix last ran
    cases front with
    | nil =>
        cases ran
        exact here
    | cons first front =>
        obtain ⟨rfl, remains⟩ := List.cons_prefix_cons.mp isPrefix
        obtain ⟨next, stepped, rest⟩ := run_cons_eq_some_iff.mp ran
        exact later next stepped front remains last rest

/-- An invariant of the steps that meet `guard` holds throughout a run whose steps all meet
it. -/
theorem guarded_throughout {step : Step σ α} {guard : σ → α → Prop} {inv : σ → Prop}
    (preserved : ∀ state label next, inv state → guard state label →
      step state label = some next → inv next)
    {state : σ} {labels : List α} (holds : inv state)
    (guarded : Guarded step guard state labels) : Throughout step inv state labels := by
  induction labels generalizing state with
  | nil =>
      intro front isPrefix last ran
      rw [List.prefix_nil.mp isPrefix] at ran
      cases ran
      exact holds
  | cons label labels ih =>
      rw [throughout_cons_iff]
      refine ⟨holds, fun next stepped => ?_⟩
      exact ih (preserved state label next holds guarded.1 stepped) (guarded.2 next stepped)

/-- If the steps that meet `guard` keep a property and the others break it, the
runs that have it throughout are those whose steps all meet `guard`.  `inv` holds
in every run. -/
theorem throughout_iff_guarded {step : Step σ α} {guard : σ → α → Prop} {inv holds : σ → Prop}
    (kept : ∀ state label next, inv state → step state label = some next → inv next)
    (preserved : ∀ state label next, inv state → holds state → guard state label →
      step state label = some next → holds next)
    (broken : ∀ state label, inv state → holds state → ¬ guard state label →
      ∃ next, step state label = some next ∧ ¬ holds next)
    {state : σ} {labels : List α} (start : inv state) (here : holds state) :
    Throughout step holds state labels ↔ Guarded step guard state labels := by
  induction labels generalizing state with
  | nil =>
      constructor
      · exact fun _ => trivial
      · intro _ front isPrefix last ran
        rw [List.prefix_nil.mp isPrefix] at ran
        cases ran
        exact here
  | cons label labels ih =>
      rw [throughout_cons_iff]
      constructor
      · rintro ⟨-, later⟩
        have meets : guard state label := by
          by_contra misses
          obtain ⟨next, stepped, breaks⟩ := broken state label start here misses
          exact breaks (later next stepped [] List.nil_prefix next rfl)
        refine ⟨meets, fun next stepped => ?_⟩
        have keeps := preserved state label next start here meets stepped
        exact (ih (kept state label next start stepped) keeps).mp (later next stepped)
      · rintro ⟨meets, later⟩
        refine ⟨here, fun next stepped => ?_⟩
        have keeps := preserved state label next start here meets stepped
        exact (ih (kept state label next start stepped) keeps).mpr (later next stepped)

end WiredTethering.Transition
