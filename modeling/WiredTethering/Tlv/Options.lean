import WiredTethering.Memory.Bytes

/-!
# Tag-length-value options

An options area is a sequence of padding bytes and of options, each a tag, a
length byte and that many value bytes, up to a stop tag or to the first option
that does not fit.

`decode` lists the options of an area.  A walk that stores options into a record
of fields is a fold over that list, and what a field holds afterwards is decided
by the last option that writes it (`foldl_field`).
-/

namespace WiredTethering.Tlv

open WiredTethering.Memory

/-- A decoded option. -/
structure Item where
  tag : UInt8
  value : Bytes
deriving DecidableEq, Repr

/-- The options of an area from offset `i` on. -/
def decode (pad stop : UInt8) (area : Bytes) (i : Nat) : List Item :=
  if i < area.length then
    let tag := byteAt area i
    if tag = pad then decode pad stop area (i + 1)
    else if tag = stop then []
    else if area.length ≤ i + 1 then []
    else
      let n := (byteAt area (i + 1)).toNat
      if area.length < i + 2 + n then []
      else ⟨tag, slice area (i + 2) n⟩ :: decode pad stop area (i + 2 + n)
  else []
termination_by area.length - i

universe u v

variable {σ : Type u} {β : Type v}

/-- What the last option that writes a field writes into it. -/
def lastWrite (write : Item → Option β) (items : List Item) : Option β :=
  items.reverse.findSome? write

theorem lastWrite_cons (write : Item → Option β) (item : Item) (items : List Item) :
    lastWrite write (item :: items) = (lastWrite write items).or (write item) := by
  simp only [lastWrite, List.reverse_cons, List.findSome?_append, List.findSome?_singleton]

theorem lastWrite_append (write : Item → Option β) (first second : List Item) :
    lastWrite write (first ++ second) = (lastWrite write second).or (lastWrite write first) := by
  simp only [lastWrite, List.reverse_append, List.findSome?_append]

/-- A field after a fold: the last write, or what it held before. -/
theorem foldl_field {store : σ → Item → σ} (field : σ → β) (write : Item → Option β)
    (stores : ∀ s item, field (store s item) = (write item).getD (field s))
    (items : List Item) (s : σ) :
    field (items.foldl store s) = (lastWrite write items).getD (field s) := by
  induction items generalizing s with
  | nil => rfl
  | cons item items ih =>
      rw [List.foldl_cons, ih, stores, lastWrite_cons]
      cases lastWrite write items with
      | none => rfl
      | some written => rfl

/-- A field that no option writes. -/
theorem foldl_kept {store : σ → Item → σ} (field : σ → β)
    (keeps : ∀ s item, field (store s item) = field s) (items : List Item) (s : σ) :
    field (items.foldl store s) = field s := by
  induction items generalizing s with
  | nil => rfl
  | cons item items ih => rw [List.foldl_cons, ih, keeps]

end WiredTethering.Tlv
