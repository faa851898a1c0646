import Mathlib.Tactic.SplitIfs

/-!
# An object in one pair of hands

An object comes into being once, passes between hands and is disposed of by the hand that has
it then.  While it exists one hand has its name, and the name means this object.  Once it is
gone the name may come to mean something else, but no hand has it.
-/

namespace WiredTethering.Concurrent

/-- Where an object is. -/
inductive Place (H V : Type)
  | unborn
  | held (hand : H) (name : V)
  | gone

namespace Place

variable {H V : Type}

/-- The name, while the object exists. -/
def name : Place H V → Option V
  | .held _ name => some name
  | _ => none

/-- What each hand has. -/
def hands [DecidableEq H] : Place H V → H → Option V
  | .held hand name, h => if h = hand then some name else none
  | _, _ => none

/-- How often the object was disposed of. -/
def disposals : Place H V → Nat
  | .gone => 1
  | _ => 0

end Place

/-- The hands have the object where it is, and what is called by a name is the object. -/
structure Custody {H V : Type} [DecidableEq H] (has : H → Option V) (means : V → Prop)
    (place : Place H V) : Prop where
  hands : ∀ h, has h = place.hands h
  names : ∀ v, means v ↔ place.name = some v

namespace Custody

variable {H V : Type} [DecidableEq H] {has next : H → Option V} {means means' : V → Prop}
  {place : Place H V}

/-- The hand that has something has the object. -/
theorem place_of_hand (custody : Custody has means place) {h : H} {v : V}
    (here : has h = some v) : place = .held h v := by
  rw [custody.hands] at here
  cases place with
  | unborn => cases here
  | gone => cases here
  | held hand name =>
      rw [Place.hands] at here
      split_ifs at here with same
      · cases here
        rw [same]

/-- A hand that has a name means the object by it. -/
theorem means_of_hand (custody : Custody has means place) {h : H} {v : V}
    (here : has h = some v) : means v := by
  rw [custody.names, custody.place_of_hand here]
  rfl

theorem frame (custody : Custody has means place) (same : ∀ h, next h = has h)
    (still : ∀ v, means' v ↔ means v) : Custody next means' place :=
  ⟨fun h => (same h).trans (custody.hands h), fun v => (still v).trans (custody.names v)⟩

/-- The object comes into being. -/
theorem born (custody : Custody has means .unborn) {hand : H} {name : V}
    (takes : ∀ h, next h = if h = hand then some name else has h)
    (called : ∀ v, means' v ↔ v = name ∨ means v) :
    Custody next means' (.held hand name) := by
  constructor
  · intro h
    rw [takes, custody.hands]
    rfl
  · intro v
    rw [called, custody.names]
    simp [Place.name, eq_comm]

/-- The object passes from one hand to another. -/
theorem passed {giver taker : H} {name : V} (custody : Custody has means (.held giver name))
    (passes : ∀ h, next h = if h = taker then some name else if h = giver then none else has h)
    (still : ∀ v, means' v ↔ means v) : Custody next means' (.held taker name) := by
  constructor
  · intro h
    rw [passes, custody.hands, Place.hands, Place.hands]
    split_ifs <;> rfl
  · intro v
    rw [still, custody.names]
    rfl

/-- The hand that has the object disposes of it. -/
theorem disposed {hand : H} {name : V} (custody : Custody has means (.held hand name))
    (gives : ∀ h, next h = if h = hand then none else has h)
    (called : ∀ v, means' v ↔ means v ∧ v ≠ name) : Custody next means' .gone := by
  constructor
  · intro h
    rw [gives, custody.hands, Place.hands]
    split_ifs <;> rfl
  · intro v
    rw [called, custody.names]
    constructor
    · rintro ⟨same, other⟩
      cases same
      exact absurd rfl other
    · intro none_
      cases none_

end Custody

end WiredTethering.Concurrent
