import Mathlib.Algebra.Order.Group.Multiset

/-!
# Programs that hold objects

A program acquires objects, uses them and releases them.  The ledger says which ones are held;
an object is told from every other by its number, so that what is released twice, or used
behind its release, is not in the ledger any more, and the program fails there.

`Owns own program post` is a triple with the frame built in: from any ledger that holds `own`
and anything else, the program runs to its end, and leaves everything else as it was.
-/

namespace WiredTethering.Resource

variable {κ α β : Type}

/-- An acquired object. -/
structure Token (κ : Type) where
  kind : κ
  id : Nat
deriving DecidableEq, Repr

/-- What is held, and the number of the next object. -/
structure Ledger (κ : Type) where
  held : Multiset (Token κ)
  next : Nat

def Ledger.empty (κ : Type) : Ledger κ :=
  ⟨0, 0⟩

abbrev Holding (κ : Type) := StateT (Ledger κ) Option

def acquire (kind : κ) : Holding κ (Token κ) := fun l =>
  some (⟨kind, l.next⟩, ⟨{⟨kind, l.next⟩} + l.held, l.next + 1⟩)

/-- An acquisition that may fail. -/
def acquireIf (works : Bool) (kind : κ) : Holding κ (Option (Token κ)) :=
  if works then some <$> acquire kind else pure none

/-- A value that the program stops without. -/
def demand (value : Option α) : Holding κ α := fun l =>
  value.map (·, l)

section Touching

variable [DecidableEq κ]

/-- Anything that is done with an object while it is held. -/
def use (t : Token κ) : Holding κ Unit := fun l =>
  if t ∈ l.held then some ((), l) else none

def release (t : Token κ) : Holding κ Unit := fun l =>
  if t ∈ l.held then some ((), ⟨l.held.erase t, l.next⟩) else none

def releaseOption : Option (Token κ) → Holding κ Unit
  | none => pure ()
  | some t => release t

end Touching

/-- What an optional object adds to what is held. -/
def ofOption : Option (Token κ) → Multiset (Token κ)
  | none => 0
  | some t => {t}

@[simp]
theorem ofOption_none : ofOption (none : Option (Token κ)) = 0 :=
  rfl

@[simp]
theorem ofOption_some (t : Token κ) : ofOption (some t) = {t} :=
  rfl

/-- The program runs to its end where `own` is held, and leaves what is held beside it. -/
def Owns (own : Multiset (Token κ)) (program : Holding κ α)
    (post : α → Multiset (Token κ) → Prop) : Prop :=
  ∀ (frame : Multiset (Token κ)) (l : Ledger κ), l.held = own + frame →
    ∃ a own' l', program l = some (a, l') ∧ l'.held = own' + frame ∧ post a own'

namespace Owns

variable {own left : Multiset (Token κ)} {post : α → Multiset (Token κ) → Prop}

theorem pure {a : α} (holds : post a own) : Owns own (pure a : Holding κ α) post :=
  fun _ l held => ⟨a, own, l, rfl, held, holds⟩

theorem weaken {program : Holding κ α} {stronger : α → Multiset (Token κ) → Prop}
    (owns : Owns own program stronger) (implies : ∀ a own', stronger a own' → post a own') :
    Owns own program post := by
  intro frame l held
  obtain ⟨a, own', l', ran, held', holds⟩ := owns frame l held
  exact ⟨a, own', l', ran, held', implies a own' holds⟩

/-- What a program does not own stays with the one that calls it. -/
theorem frame {program : Holding κ α} (owns : Owns own program post) :
    Owns (own + left) program fun a own' => ∃ own₁, own' = own₁ + left ∧ post a own₁ := by
  intro frame l held
  obtain ⟨a, own₁, l', ran, held', holds⟩ :=
    owns (left + frame) l (held.trans (add_assoc own left frame))
  exact ⟨a, own₁ + left, l', ran, held'.trans (add_assoc own₁ left frame).symm, own₁, rfl, holds⟩

theorem bind {program : Holding κ β} {then_ : β → Holding κ α}
    {middle : β → Multiset (Token κ) → Prop} (first : Owns own program middle)
    (rest : ∀ b own', middle b own' → Owns own' (then_ b) post) :
    Owns own (program >>= then_) post := by
  intro frame l held
  obtain ⟨b, own₁, l₁, ran₁, held₁, holds₁⟩ := first frame l held
  obtain ⟨a, own₂, l₂, ran₂, held₂, holds₂⟩ := rest b own₁ holds₁ frame l₁ held₁
  refine ⟨a, own₂, l₂, ?_, held₂, holds₂⟩
  calc
    (program >>= then_) l = (program l).bind fun p => then_ p.1 p.2 := rfl
    _ = then_ b l₁ := by rw [ran₁, Option.bind_some]
    _ = some (a, l₂) := ran₂

/-- A call: the callee gets what it owns, the caller goes on with what is left beside it. -/
theorem call {mine : Multiset (Token κ)} {program : Holding κ β} {then_ : β → Holding κ α}
    {middle : β → Multiset (Token κ) → Prop} (owns : Owns mine program middle)
    (split : own = mine + left)
    (rest : ∀ b own', middle b own' → Owns (own' + left) (then_ b) post) :
    Owns own (program >>= then_) post := by
  cases split
  apply bind (frame owns)
  rintro b own' ⟨own₁, rfl, holds⟩
  exact rest b own₁ holds

theorem acquire_bind {kind : κ} {then_ : Token κ → Holding κ α}
    (rest : ∀ t, Owns ({t} + own) (then_ t) post) : Owns own (acquire kind >>= then_) post := by
  intro frame l held
  apply rest ⟨kind, l.next⟩ frame ⟨{⟨kind, l.next⟩} + l.held, l.next + 1⟩
  rw [held, add_assoc]

theorem acquireIf_bind {works : Bool} {kind : κ} {then_ : Option (Token κ) → Holding κ α}
    (rest : ∀ t, Owns (ofOption t + own) (then_ t) post) :
    Owns own (acquireIf works kind >>= then_) post := by
  cases works with
  | false =>
      have nothing := rest none
      rw [ofOption_none, zero_add] at nothing
      exact nothing
  | true =>
      rw [acquireIf, if_pos rfl, map_eq_pure_bind, bind_assoc]
      apply acquire_bind
      intro t
      rw [pure_bind]
      exact rest (some t)

theorem demand_bind {value : Option β} {b : β} {then_ : β → Holding κ α}
    (there : value = some b) (rest : Owns own (then_ b) post) :
    Owns own (demand value >>= then_) post := by
  cases there
  have owns : Owns own (demand (some b)) fun c own' => c = b ∧ own' = own :=
    fun _ l held => ⟨b, own, l, rfl, held, rfl, rfl⟩
  apply bind owns
  rintro _ _ ⟨rfl, rfl⟩
  exact rest

section Touching

variable [DecidableEq κ] {t : Token κ} {then_ : Unit → Holding κ α}

theorem use_bind (member : t ∈ own) (rest : Owns own (then_ ()) post) :
    Owns own (use t >>= then_) post := by
  have owns : Owns own (use t) fun _ own' => own' = own := by
    intro frame l held
    refine ⟨(), own, l, ?_, held, rfl⟩
    rw [use, if_pos (held ▸ Multiset.mem_add.mpr (.inl member))]
  apply bind owns
  rintro _ _ rfl
  exact rest

theorem release (split : own = {t} + left) :
    Owns own (release t) fun _ own' => own' = left := by
  cases split
  intro frame l held
  rw [add_assoc, Multiset.singleton_add] at held
  refine ⟨(), left, ⟨l.held.erase t, l.next⟩, ?_, ?_, rfl⟩
  · rw [Resource.release, if_pos (held ▸ Multiset.mem_cons_self t _)]
  · rw [held, Multiset.erase_cons_head]

theorem release_bind (split : own = {t} + left) (rest : Owns left (then_ ()) post) :
    Owns own (Resource.release t >>= then_) post := by
  apply bind (release split)
  rintro _ _ rfl
  exact rest

theorem releaseOption_bind {t : Option (Token κ)} {then_ : Unit → Holding κ α}
    (split : own = ofOption t + left) (rest : Owns left (then_ ()) post) :
    Owns own (releaseOption t >>= then_) post := by
  cases t with
  | none =>
      rw [ofOption_none, zero_add] at split
      cases split
      rw [releaseOption, pure_bind]
      exact rest
  | some t => exact release_bind split rest

end Touching

/-- The run of a program that owns nothing before it. -/
theorem run {program : Holding κ α} (owns : Owns 0 program post) (l : Ledger κ) :
    ∃ a own' l', program l = some (a, l') ∧ l'.held = own' + l.held ∧ post a own' :=
  owns l.held l (zero_add l.held).symm

end Owns

end WiredTethering.Resource
