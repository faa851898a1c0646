import Mathlib.Data.List.GetD
import Mathlib.Data.Nat.Bitwise

/-!
# Byte buffers

A buffer is a list of bytes.  The module has the loads, stores and copies that
C code does on such a buffer: `byteAt` reads one byte, `slice` names a range,
`overwrite` is `memcpy` into a buffer, and `rd32le`/`le32` are the little-endian
load and store of a 32-bit word.

Loads are described through concatenation: a load from `front ++ back` is a load
from the part it falls in.  That is the form in which parsers and builders meet
a buffer that is known piece by piece.
-/

namespace WiredTethering.Memory

/-- A bounded quantifier is decided along the list, also where the type is finite. -/
instance (priority := 1100) decidableAllMem {α : Type} {p : α → Prop} [DecidablePred p]
    (list : List α) : Decidable (∀ a, a ∈ list → p a) :=
  List.decidableBAll p list

/-- A byte buffer. -/
abbrev Bytes := List UInt8

theorem sixBytes_size (a b c d e f : UInt8) : #[a, b, c, d, e, f].size = 6 :=
  rfl

/-- An array of six bytes. -/
def sixBytes (a b c d e f : UInt8) : Vector UInt8 6 :=
  ⟨#[a, b, c, d, e, f], sixBytes_size a b c d e f⟩

/-- The byte at an offset. -/
def byteAt (buf : Bytes) (off : Nat) : UInt8 :=
  buf.getD off 0

/-- The `n` bytes of `buf` from `off` on. -/
def slice (buf : Bytes) (off n : Nat) : Bytes :=
  (buf.drop off).take n

/-- `n` zero bytes. -/
def zeros (n : Nat) : Bytes :=
  List.replicate n 0

/-- `memcpy(buf + off, src, src.length)` for a copy that stays inside `buf`. -/
def overwrite (buf : Bytes) (off : Nat) (src : Bytes) : Bytes :=
  buf.take off ++ src ++ buf.drop (off + src.length)

/-- The four little-endian bytes of a 32-bit word. -/
def le32 (word : UInt32) : Bytes :=
  [word.toUInt8, (word >>> 8).toUInt8, (word >>> 16).toUInt8, (word >>> 24).toUInt8]

/-- Little-endian load of a 32-bit word. -/
def rd32le (buf : Bytes) (off : Nat) : UInt32 :=
  (byteAt buf off).toUInt32 ||| (byteAt buf (off + 1)).toUInt32 <<< 8 |||
    (byteAt buf (off + 2)).toUInt32 <<< 16 ||| (byteAt buf (off + 3)).toUInt32 <<< 24

/-- Big-endian load of a 16-bit word. -/
def rd16be (buf : Bytes) (off : Nat) : UInt16 :=
  (byteAt buf off).toUInt16 <<< 8 ||| (byteAt buf (off + 1)).toUInt16

/-- Big-endian load of a 32-bit word. -/
def rd32be (buf : Bytes) (off : Nat) : UInt32 :=
  (byteAt buf off).toUInt32 <<< 24 ||| (byteAt buf (off + 1)).toUInt32 <<< 16 |||
    (byteAt buf (off + 2)).toUInt32 <<< 8 ||| (byteAt buf (off + 3)).toUInt32

/-- The two big-endian bytes of a 16-bit word. -/
def be16 (word : UInt16) : Bytes :=
  [(word >>> 8).toUInt8, word.toUInt8]

/-- Little-endian store of a 32-bit word. -/
def wr32le (buf : Bytes) (off : Nat) (word : UInt32) : Bytes :=
  overwrite buf off (le32 word)

/-! ## Reading through a concatenation -/

theorem byteAt_append_left {front : Bytes} (back : Bytes) {off : Nat}
    (inFront : off < front.length) : byteAt (front ++ back) off = byteAt front off :=
  List.getD_append front back 0 off inFront

theorem byteAt_append_right {front : Bytes} (back : Bytes) {off : Nat}
    (inBack : front.length ≤ off) :
    byteAt (front ++ back) off = byteAt back (off - front.length) :=
  List.getD_append_right front back 0 off inBack

@[simp]
theorem byteAt_length_add (front back : Bytes) (off : Nat) :
    byteAt (front ++ back) (front.length + off) = byteAt back off := by
  rw [byteAt_append_right back (Nat.le_add_right _ _), Nat.add_sub_cancel_left]

theorem byteAt_drop (buf : Bytes) (skip off : Nat) :
    byteAt (buf.drop skip) off = byteAt buf (skip + off) := by
  simp [byteAt, List.getD_eq_getElem?_getD, List.getElem?_drop]

@[simp]
theorem byteAt_zeros (n off : Nat) : byteAt (zeros n) off = 0 := by
  by_cases inside : off < n
  · simp [byteAt, zeros, List.getD_eq_getElem?_getD, inside]
  · simp [byteAt, zeros, List.getD_eq_getElem?_getD, inside]

@[simp]
theorem zeros_length (n : Nat) : (zeros n).length = n :=
  List.length_replicate

theorem zeros_append (m n : Nat) : zeros m ++ zeros n = zeros (m + n) :=
  List.replicate_append_replicate

@[simp]
theorem rd32le_length_add (front back : Bytes) (off : Nat) :
    rd32le (front ++ back) (front.length + off) = rd32le back off := by
  simp only [rd32le, Nat.add_assoc, byteAt_length_add]

@[simp]
theorem slice_length_add (front back : Bytes) (off n : Nat) :
    slice (front ++ back) (front.length + off) n = slice back off n := by
  simp [slice]

theorem slice_append_exact (front back : Bytes) :
    slice (front ++ back) 0 front.length = front := by
  simp [slice]

theorem slice_length {buf : Bytes} {off n : Nat} (inside : off + n ≤ buf.length) :
    (slice buf off n).length = n := by
  simp only [slice, List.length_take, List.length_drop]
  omega

/-! ## Words -/

@[simp]
theorem le32_length (word : UInt32) : (le32 word).length = 4 :=
  rfl

@[simp]
theorem be16_length (word : UInt16) : (be16 word).length = 2 :=
  rfl

/-- The value of a little-endian load. -/
theorem rd32le_toNat (buf : Bytes) (off : Nat) :
    (rd32le buf off).toNat =
      (byteAt buf off).toNat + (byteAt buf (off + 1)).toNat * 2 ^ 8 +
        (byteAt buf (off + 2)).toNat * 2 ^ 16 + (byteAt buf (off + 3)).toNat * 2 ^ 24 := by
  have b0 := (byteAt buf off).toNat_lt
  have b1 := (byteAt buf (off + 1)).toNat_lt
  have b2 := (byteAt buf (off + 2)).toNat_lt
  have b3 := (byteAt buf (off + 3)).toNat_lt
  simp only [rd32le, UInt32.toNat_or, UInt32.toNat_shiftLeft, UInt8.toNat_toUInt32]
  generalize (byteAt buf off).toNat = x0 at *
  generalize (byteAt buf (off + 1)).toNat = x1 at *
  generalize (byteAt buf (off + 2)).toNat = x2 at *
  generalize (byteAt buf (off + 3)).toNat = x3 at *
  have s1 : x1 <<< ((8 : UInt32).toNat % 32) % 2 ^ 32 = x1 <<< 8 := by
    rw [Nat.shiftLeft_eq, Nat.shiftLeft_eq]
    exact Nat.mod_eq_of_lt (by simp; omega)
  have s2 : x2 <<< ((16 : UInt32).toNat % 32) % 2 ^ 32 = x2 <<< 16 := by
    rw [Nat.shiftLeft_eq, Nat.shiftLeft_eq]
    exact Nat.mod_eq_of_lt (by simp; omega)
  have s3 : x3 <<< ((24 : UInt32).toNat % 32) % 2 ^ 32 = x3 <<< 24 := by
    rw [Nat.shiftLeft_eq, Nat.shiftLeft_eq]
    exact Nat.mod_eq_of_lt (by simp; omega)
  rw [s1, s2, s3]
  -- each partial word fits below the next shift, so the disjunctions are sums
  rw [Nat.lor_comm x0, ← Nat.shiftLeft_add_eq_or_of_lt (i := 8) b0,
    Nat.lor_comm _ (x2 <<< 16),
    ← Nat.shiftLeft_add_eq_or_of_lt (i := 16) (by rw [Nat.shiftLeft_eq]; omega),
    Nat.lor_comm _ (x3 <<< 24),
    ← Nat.shiftLeft_add_eq_or_of_lt (i := 24) (by simp only [Nat.shiftLeft_eq]; omega)]
  simp only [Nat.shiftLeft_eq]
  omega

/-- A stored word is read back. -/
@[simp]
theorem rd32le_le32_append (word : UInt32) (back : Bytes) :
    rd32le (le32 word ++ back) 0 = word := by
  apply UInt32.toNat_inj.mp
  rw [rd32le_toNat]
  have bound := word.toNat_lt
  simp only [le32, byteAt, List.cons_append, List.getD_cons_zero, Nat.zero_add,
    List.getD_cons_succ, UInt32.toNat_toUInt8, UInt32.toNat_shiftRight]
  simp only [Nat.shiftRight_eq_div_pow, show (8 : UInt32).toNat % 32 = 8 from rfl,
    show (16 : UInt32).toNat % 32 = 16 from rfl, show (24 : UInt32).toNat % 32 = 24 from rfl]
  omega

/-- The value of a big-endian load. -/
theorem rd16be_toNat (buf : Bytes) (off : Nat) :
    (rd16be buf off).toNat = (byteAt buf off).toNat * 2 ^ 8 + (byteAt buf (off + 1)).toNat := by
  have high := (byteAt buf off).toNat_lt
  have low := (byteAt buf (off + 1)).toNat_lt
  simp only [rd16be, UInt16.toNat_or, UInt16.toNat_shiftLeft, UInt8.toNat_toUInt16]
  generalize (byteAt buf off).toNat = x at *
  generalize (byteAt buf (off + 1)).toNat = y at *
  have shift : x <<< ((8 : UInt16).toNat % 16) % 2 ^ 16 = x <<< 8 := by
    rw [Nat.shiftLeft_eq, Nat.shiftLeft_eq]
    exact Nat.mod_eq_of_lt (by simp; omega)
  rw [shift, ← Nat.shiftLeft_add_eq_or_of_lt low, Nat.shiftLeft_eq]

/-- A stored word is read back. -/
theorem rd16be_be16 (word : UInt16) (back : Bytes) : rd16be (be16 word ++ back) 0 = word := by
  have bound := word.toNat_lt
  apply UInt16.toNat_inj.mp
  rw [rd16be_toNat]
  simp only [be16, byteAt, List.cons_append, List.getD_cons_zero, Nat.zero_add,
    List.getD_cons_succ, UInt16.toNat_toUInt8, UInt16.toNat_shiftRight]
  rw [show (8 : UInt16).toNat % 16 = 8 from rfl, Nat.shiftRight_eq_div_pow]
  omega
/-- A word is read where it stands. -/
theorem rd32le_append_le32 {front : Bytes} {off : Nat} (word : UInt32) (back : Bytes)
    (at_off : front.length = off) : rd32le (front ++ (le32 word ++ back)) off = word := by
  subst at_off
  exact (rd32le_length_add front (le32 word ++ back) 0).trans (rd32le_le32_append word back)

/-! ## Overwriting -/

theorem overwrite_length {buf : Bytes} {off : Nat} {src : Bytes}
    (inside : off + src.length ≤ buf.length) : (overwrite buf off src).length = buf.length := by
  simp only [overwrite, List.length_append, List.length_take, List.length_drop]
  omega

theorem overwrite_getElem? {buf src : Bytes} {off : Nat} (inside : off + src.length ≤ buf.length)
    (i : Nat) :
    (overwrite buf off src)[i]? =
      if off ≤ i ∧ i < off + src.length then src[i - off]? else buf[i]? := by
  have front : (buf.take off).length = off := by
    rw [List.length_take]
    omega
  rw [overwrite, List.append_assoc]
  by_cases before : i < off
  · rw [if_neg (by omega), List.getElem?_append_left (by omega), List.getElem?_take_of_lt before]
  rw [List.getElem?_append_right (by omega), front]
  by_cases written : i < off + src.length
  · rw [if_pos (by omega), List.getElem?_append_left (by omega)]
  · rw [if_neg (by omega), List.getElem?_append_right (by omega), List.getElem?_drop]
    exact congrArg (buf[·]?) (by omega)

/-- A byte that is not written stays. -/
theorem byteAt_overwrite {buf src : Bytes} {off i : Nat}
    (inside : off + src.length ≤ buf.length) (outside : i < off ∨ off + src.length ≤ i) :
    byteAt (overwrite buf off src) i = byteAt buf i := by
  rw [byteAt, byteAt, List.getD_eq_getElem?_getD, List.getD_eq_getElem?_getD,
    overwrite_getElem? inside, if_neg (by omega)]

/-- What is taken up to a point behind the store has the store. -/
theorem take_overwrite {buf src : Bytes} {off n : Nat} (within : off + src.length ≤ n)
    (inside : off + src.length ≤ buf.length) :
    (overwrite buf off src).take n = overwrite (buf.take n) off src := by
  apply List.ext_getElem?
  intro i
  have taken : off + src.length ≤ (buf.take n).length := by
    rw [List.length_take]
    omega
  rw [overwrite_getElem? taken, List.getElem?_take, List.getElem?_take, overwrite_getElem? inside]
  split_ifs <;> first | rfl | omega

/-- What is taken up to a point in front of the store is as before. -/
theorem take_overwrite_behind {buf src : Bytes} {off n : Nat} (front : n ≤ off)
    (inside : off + src.length ≤ buf.length) :
    (overwrite buf off src).take n = buf.take n := by
  apply List.ext_getElem?
  intro i
  rw [List.getElem?_take, List.getElem?_take, overwrite_getElem? inside]
  split_ifs <;> first | rfl | omega

/-- What follows a store is as before. -/
theorem drop_overwrite_front {buf src : Bytes} {off n : Nat} (behind : off + src.length ≤ n)
    (inside : off + src.length ≤ buf.length) : (overwrite buf off src).drop n = buf.drop n := by
  apply List.ext_getElem?
  intro i
  rw [List.getElem?_drop, List.getElem?_drop, overwrite_getElem? inside, if_neg (by omega)]

/-- What follows a point in front of the store has the store. -/
theorem drop_overwrite {buf src : Bytes} {off n : Nat}
    (inside : n + off + src.length ≤ buf.length) :
    (overwrite buf (n + off) src).drop n = overwrite (buf.drop n) off src := by
  apply List.ext_getElem?
  intro i
  have dropped : off + src.length ≤ (buf.drop n).length := by
    rw [List.length_drop]
    omega
  rw [List.getElem?_drop, overwrite_getElem? inside, overwrite_getElem? dropped,
    List.getElem?_drop]
  by_cases written : off ≤ i ∧ i < off + src.length
  · rw [if_pos (by omega), if_pos written]
    exact congrArg (src[·]?) (by omega)
  · rw [if_neg (by omega), if_neg written]

/-- Storing twice in the same place. -/
theorem overwrite_overwrite {buf first second : Bytes} {off : Nat}
    (same : first.length = second.length) (inside : off + first.length ≤ buf.length) :
    overwrite (overwrite buf off first) off second = overwrite buf off second := by
  have kept : (overwrite buf off first).length = buf.length := overwrite_length inside
  apply List.ext_getElem?
  intro i
  rw [overwrite_getElem? (by rw [kept, ← same]; exact inside), overwrite_getElem? inside,
    overwrite_getElem? (by rw [← same]; exact inside)]
  split_ifs <;> first | rfl | omega

/-- Storing what stands there. -/
theorem overwrite_self {buf : Bytes} {off n : Nat} (inside : off + n ≤ buf.length) :
    overwrite buf off (slice buf off n) = buf := by
  have sized := slice_length inside
  apply List.ext_getElem?
  intro i
  rw [overwrite_getElem? (by rw [sized]; exact inside)]
  split_ifs with written
  · rw [sized] at written
    rw [slice, List.getElem?_take_of_lt (by omega), List.getElem?_drop]
    exact congrArg (buf[·]?) (by omega)
  · rfl

/-- Overwriting the middle part of a buffer that is known piece by piece. -/
theorem overwrite_append (front old back src : Bytes)
    (sameLength : src.length = old.length) :
    overwrite (front ++ old ++ back) front.length src = front ++ src ++ back := by
  simp [overwrite, sameLength]

/-- Storing in the front of a buffer. -/
theorem overwrite_append_left {front src : Bytes} (back : Bytes) {off : Nat}
    (inside : off + src.length ≤ front.length) :
    overwrite (front ++ back) off src = overwrite front off src ++ back := by
  rw [overwrite, overwrite, List.take_append_of_le_length (by omega),
    List.drop_append_of_le_length inside]
  simp only [List.append_assoc]

/-- Storing behind the front of a buffer. -/
theorem overwrite_append_right (front back src : Bytes) (off : Nat) :
    overwrite (front ++ back) (front.length + off) src = front ++ overwrite back off src := by
  rw [overwrite, overwrite, List.take_length_add_append, Nat.add_assoc,
    List.drop_length_add_append]
  simp only [List.append_assoc]

/-- Writing the zeroed field of `n` bytes at `off`. -/
theorem overwrite_field (off n : Nat) (front src back : Bytes)
    (at_off : front.length = off) (sized : src.length = n) :
    overwrite (front ++ (zeros n ++ back)) off src = front ++ (src ++ back) := by
  subst at_off sized
  simpa using overwrite_append front (zeros src.length) back src (by simp)

end WiredTethering.Memory
