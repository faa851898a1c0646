import Mathlib.Data.Nat.ModEq
import Mathlib.Data.List.Range
import Mathlib.Logic.Function.Basic

/-!
# Ring buffers

A ring buffer keeps its items in an array of slots, with the index of the oldest
item, the index of the next free slot and a signed item counter, as C code keeps
them.  Its contents are the list of the items, oldest first.

On a well-formed ring pushing appends to the contents and popping takes the
first item off; both keep the ring well-formed, and pushing never touches the
slot of the oldest item.
-/

namespace WiredTethering.Fifo

universe u

/-- The array, the two indices and the counter of a ring buffer. -/
structure RingBuffer (α : Type u) where
  slots : Nat → α
  r : Nat
  w : Nat
  n : Int

variable {α : Type u} {cap : Nat} {ring : RingBuffer α}

namespace RingBuffer

/-- Write behind the newest item. -/
def push (cap : Nat) (ring : RingBuffer α) (item : α) : RingBuffer α where
  slots := Function.update ring.slots ring.w item
  r := ring.r
  w := (ring.w + 1) % cap
  n := ring.n + 1

/-- Give up the oldest item. -/
def pop (cap : Nat) (ring : RingBuffer α) : RingBuffer α :=
  { ring with r := (ring.r + 1) % cap, n := ring.n - 1 }

/-- The items, oldest first. -/
def contents (cap : Nat) (ring : RingBuffer α) : List α :=
  (List.range ring.n.toNat).map fun i => ring.slots ((ring.r + i) % cap)

/-- The counter fits the capacity and the indices agree with it. -/
structure Wf (cap : Nat) (ring : RingBuffer α) : Prop where
  nonneg : 0 ≤ ring.n
  le_cap : ring.n ≤ cap
  read_lt : ring.r < cap
  write_eq : ring.w = (ring.r + ring.n.toNat) % cap

theorem contents_length (cap : Nat) (ring : RingBuffer α) :
    (ring.contents cap).length = ring.n.toNat := by
  simp [contents]

/-- Two offsets below the capacity are two slots. -/
theorem slot_ne {r i j : Nat} (i_lt : i < cap) (j_lt : j < cap) (distinct : i ≠ j) :
    (r + i) % cap ≠ (r + j) % cap := by
  intro same
  have cancelled : i ≡ j [MOD cap] := Nat.ModEq.add_left_cancel' r same
  exact distinct (cancelled.eq_of_lt_of_lt i_lt j_lt)

namespace Wf

/-- On a ring that is not empty the oldest item is the first of the contents. -/
theorem contents_eq_cons (wf : ring.Wf cap) (some_left : 0 < ring.n) :
    ring.contents cap = ring.slots ring.r :: (ring.pop cap).contents cap := by
  obtain ⟨n, count⟩ : ∃ n : Nat, ring.n.toNat = n + 1 :=
    Nat.exists_eq_succ_of_ne_zero (by omega)
  have popped : (ring.pop cap).n.toNat = n := by
    simp only [pop]
    omega
  rw [contents, contents, popped, count, List.range_succ_eq_map, List.map_cons, List.map_map,
    Nat.add_zero, Nat.mod_eq_of_lt wf.read_lt]
  congr 1
  apply List.map_congr_left
  intro i _
  simp only [Function.comp_apply, pop, Nat.mod_add_mod, Nat.succ_eq_add_one]
  congr 2
  omega

theorem pop (wf : ring.Wf cap) (some_left : 0 < ring.n) : (ring.pop cap).Wf cap where
  nonneg := by
    simp only [RingBuffer.pop]
    omega
  le_cap := by
    have := wf.le_cap
    simp only [RingBuffer.pop]
    omega
  read_lt := Nat.mod_lt _ (Nat.zero_lt_of_lt wf.read_lt)
  write_eq := by
    have count : ring.n.toNat = 1 + (ring.n - 1).toNat := by omega
    simp only [RingBuffer.pop]
    rw [wf.write_eq, count, Nat.mod_add_mod, Nat.add_assoc]

/-- The slot that is written next is not the slot of an item. -/
theorem write_ne (wf : ring.Wf cap) (room : ring.n < cap) {i : Nat} (item : i < ring.n.toNat) :
    (ring.r + i) % cap ≠ ring.w := by
  rw [wf.write_eq]
  exact slot_ne (by omega) (by omega) (by omega)

theorem read_ne_write (wf : ring.Wf cap) (room : ring.n < cap) (some_left : 0 < ring.n) :
    ring.r ≠ ring.w := by
  have apart := wf.write_ne room (i := 0) (by omega)
  rwa [Nat.add_zero, Nat.mod_eq_of_lt wf.read_lt] at apart

theorem push (wf : ring.Wf cap) (room : ring.n < cap) (item : α) :
    (ring.push cap item).Wf cap where
  nonneg := by
    have := wf.nonneg
    simp only [RingBuffer.push]
    omega
  le_cap := by
    simp only [RingBuffer.push]
    omega
  read_lt := wf.read_lt
  write_eq := by
    have := wf.nonneg
    have count : (ring.n + 1).toNat = ring.n.toNat + 1 := by omega
    simp only [RingBuffer.push]
    rw [wf.write_eq, count, Nat.mod_add_mod, Nat.add_assoc]

theorem contents_push (wf : ring.Wf cap) (room : ring.n < cap) (item : α) :
    (ring.push cap item).contents cap = ring.contents cap ++ [item] := by
  have nonneg := wf.nonneg
  have count : (ring.push cap item).n.toNat = ring.n.toNat + 1 := by
    simp only [RingBuffer.push]
    omega
  rw [contents, count, List.range_succ, List.map_append, contents, List.map_singleton]
  congr 1
  · apply List.map_congr_left
    intro i inRange
    exact Function.update_of_ne (wf.write_ne room (List.mem_range.mp inRange)) item ring.slots
  · simp only [RingBuffer.push]
    rw [← wf.write_eq, Function.update_self]

end Wf

end RingBuffer

end WiredTethering.Fifo
