import WiredTethering.Transition.Core

/-!
# Objects behind one lock

Threads call the operations of an object.  An operation runs in steps, all of them between
the lock and the unlock, and only the thread inside takes steps.  Whatever the schedule, the
object is then as if the operations had run whole, one behind the other in the order of the
locks, with at most the last one unfinished.
-/

namespace WiredTethering.Concurrent

open WiredTethering.Transition

/-- An object with states `σ` and operations `ω`.  `ρ` is how far an operation is, `ε` what
decides its next step and `τ` what it returns. -/
structure Monitor (σ ω ρ ε τ : Type) where
  enter : σ → ω → σ × ρ
  advance : σ → ρ → ε → Option (σ × ρ)
  result : ρ → Option τ

/-- What a thread does next. -/
inductive Turn (T ε : Type)
  | lock (thread : T)
  | inside (event : ε)
  | unlock

variable {σ ω ρ ε τ T : Type}

/-- The object, the thread inside, the calls that each thread has yet to make and those that
have returned, the latest last. -/
structure Scene (σ ω ρ τ T : Type) where
  object : σ
  inside : Option (T × ω × ρ)
  calls : T → List ω
  returned : List (T × ω × τ)

def Scene.start (object : σ) (calls : T → List ω) : Scene σ ω ρ τ T :=
  ⟨object, none, calls, []⟩

/-- The operation that a thread is inside of. -/
def Scene.current [DecidableEq T] (s : Scene σ ω ρ τ T) (thread : T) : List ω :=
  match s.inside with
  | none => []
  | some (t, op, _) => if t = thread then [op] else []

/-- The operations of a thread that have returned. -/
def callsOf [DecidableEq T] (returned : List (T × ω × τ)) (thread : T) : List ω :=
  (returned.filter fun call => call.1 = thread).map fun call => call.2.1

namespace Monitor

variable (m : Monitor σ ω ρ ε τ)

def turn [DecidableEq T] : Step (Scene σ ω ρ τ T) (Turn T ε)
  | s, .lock t =>
      match s.inside, s.calls t with
      | none, op :: rest =>
          let entered := m.enter s.object op
          some
            { s with
              object := entered.1
              inside := some (t, op, entered.2)
              calls := Function.update s.calls t rest }
      | _, _ => none
  | s, .inside event =>
      match s.inside with
      | none => none
      | some (t, op, at_) =>
          (m.advance s.object at_ event).map fun next =>
            { s with object := next.1, inside := some (t, op, next.2) }
  | s, .unlock =>
      match s.inside with
      | none => none
      | some (t, op, at_) =>
          (m.result at_).map fun r =>
            { s with inside := none, returned := s.returned ++ [(t, op, r)] }

/-- An operation that began at `first` has come as far as `at_`. -/
inductive Reaches (first : σ) (op : ω) : σ → ρ → Prop
  | enter : Reaches first op (m.enter first op).1 (m.enter first op).2
  | advance {object next : σ} {at_ after : ρ} (event : ε) (before : Reaches first op object at_)
      (step : m.advance object at_ event = some (next, after)) : Reaches first op next after

/-- An operation that runs from `first` to `last` and returns `r`. -/
def Whole (first : σ) (op : ω) (r : τ) (last : σ) : Prop :=
  ∃ at_, m.Reaches first op last at_ ∧ m.result at_ = some r

/-- Operations one behind the other. -/
inductive Serial (first : σ) : List (T × ω × τ) → σ → Prop
  | start : Serial first [] first
  | call {returned : List (T × ω × τ)} {object last : σ} {t : T} {op : ω} {r : τ}
      (before : Serial first returned object) (whole : m.Whole object op r last) :
      Serial first (returned ++ [(t, op, r)]) last

/-- The scene is that of operations one behind the other, with at most one unfinished. -/
inductive Explained (first : σ) : Scene σ ω ρ τ T → Prop
  | outside {object : σ} {calls : T → List ω} {returned : List (T × ω × τ)}
      (before : m.Serial first returned object) :
      Explained first ⟨object, none, calls, returned⟩
  | inside {between object : σ} {t : T} {op : ω} {at_ : ρ} {calls : T → List ω}
      {returned : List (T × ω × τ)} (before : m.Serial first returned between)
      (reached : m.Reaches between op object at_) :
      Explained first ⟨object, some (t, op, at_), calls, returned⟩

variable {m}

/-- What a turn does. -/
inductive Turned [DecidableEq T] (m : Monitor σ ω ρ ε τ) :
    Scene σ ω ρ τ T → Turn T ε → Scene σ ω ρ τ T → Prop
  | lock {object : σ} {calls : T → List ω} {returned : List (T × ω × τ)} {t : T} {op : ω}
      {rest : List ω} (due : calls t = op :: rest) :
      Turned m ⟨object, none, calls, returned⟩ (.lock t)
        ⟨(m.enter object op).1, some (t, op, (m.enter object op).2),
          Function.update calls t rest, returned⟩
  | inside {object next : σ} {calls : T → List ω} {returned : List (T × ω × τ)} {t : T} {op : ω}
      {at_ after : ρ} {event : ε} (step : m.advance object at_ event = some (next, after)) :
      Turned m ⟨object, some (t, op, at_), calls, returned⟩ (.inside event)
        ⟨next, some (t, op, after), calls, returned⟩
  | unlock {object : σ} {calls : T → List ω} {returned : List (T × ω × τ)} {t : T} {op : ω}
      {at_ : ρ} {r : τ} (result : m.result at_ = some r) :
      Turned m ⟨object, some (t, op, at_), calls, returned⟩ .unlock
        ⟨object, none, calls, returned ++ [(t, op, r)]⟩

theorem turn_turned [DecidableEq T] {s next : Scene σ ω ρ τ T} {l : Turn T ε}
    (stepped : m.turn s l = some next) : Turned m s l next := by
  obtain ⟨object, inside, calls, returned⟩ := s
  cases l with
  | lock t =>
      cases inside with
      | some here => cases stepped
      | none =>
          cases due : calls t with
          | nil =>
              rw [turn] at stepped
              simp only [due] at stepped
              cases stepped
          | cons op rest =>
              rw [turn] at stepped
              simp only [due, Option.some.injEq] at stepped
              subst stepped
              exact .lock due
  | inside event =>
      cases inside with
      | none => cases stepped
      | some here =>
          obtain ⟨t, op, at_⟩ := here
          obtain ⟨⟨object', after⟩, step, rfl⟩ := Option.map_eq_some_iff.mp stepped
          exact .inside step
  | unlock =>
      cases inside with
      | none => cases stepped
      | some here =>
          obtain ⟨t, op, at_⟩ := here
          obtain ⟨r, result, rfl⟩ := Option.map_eq_some_iff.mp stepped
          exact .unlock result

theorem Explained.turned [DecidableEq T] {first : σ} {s next : Scene σ ω ρ τ T} {l : Turn T ε}
    (explained : m.Explained first s) (turned : Turned m s l next) : m.Explained first next := by
  cases turned with
  | lock due =>
      cases explained with
      | outside before => exact .inside before .enter
  | inside step =>
      cases explained with
      | inside before reached => exact .inside before (.advance _ reached step)
  | unlock result =>
      cases explained with
      | inside before reached => exact .outside (.call before ⟨_, reached, result⟩)

/-- Every schedule is explained by whole operations one behind the other. -/
theorem run_explained [DecidableEq T] {first : σ} {calls : T → List ω}
    {turns : List (Turn T ε)} {s : Scene σ ω ρ τ T}
    (ran : run m.turn (.start first calls) turns = some s) : m.Explained first s :=
  run_invariant (fun _ _ _ explained stepped => explained.turned (turn_turned stepped))
    (.outside .start) ran

theorem callsOf_concat [DecidableEq T] (returned : List (T × ω × τ)) (t thread : T) (op : ω)
    (r : τ) :
    callsOf (returned ++ [(t, op, r)]) thread =
      callsOf returned thread ++ if t = thread then [op] else [] := by
  rw [callsOf, callsOf, List.filter_append, List.map_append]
  by_cases same : t = thread
  · rw [if_pos same, List.filter_cons_of_pos (by simpa using same)]
    rfl
  · rw [if_neg same, List.filter_cons_of_neg (by simpa using same)]
    rfl

theorem Turned.order [DecidableEq T] {s next : Scene σ ω ρ τ T} {l : Turn T ε}
    (turned : Turned m s l next) (thread : T) :
    callsOf next.returned thread ++ next.current thread ++ next.calls thread =
      callsOf s.returned thread ++ s.current thread ++ s.calls thread := by
  cases turned with
  | @lock object calls returned t op rest due =>
      by_cases same : t = thread
      · subst same
        simp [Scene.current, due]
      · simp [Scene.current, same, Function.update_of_ne (Ne.symm same)]
  | inside step => rfl
  | unlock result => simp [callsOf_concat, Scene.current]

/-- A thread makes its calls in order, each once. -/
theorem run_order [DecidableEq T] {first : σ} {calls : T → List ω} {turns : List (Turn T ε)}
    {s : Scene σ ω ρ τ T} (ran : run m.turn (.start first calls) turns = some s) (thread : T) :
    callsOf s.returned thread ++ s.current thread ++ s.calls thread = calls thread := by
  have kept : ∀ (s : Scene σ ω ρ τ T) l next,
      callsOf s.returned thread ++ s.current thread ++ s.calls thread = calls thread →
        m.turn s l = some next →
          callsOf next.returned thread ++ next.current thread ++ next.calls thread =
            calls thread := by
    intro s l next here stepped
    rw [(turn_turned stepped).order thread, here]
  exact run_invariant kept rfl ran

end Monitor

end WiredTethering.Concurrent
