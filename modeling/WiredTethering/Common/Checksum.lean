import WiredTethering.Memory.Bytes

/-!
# The Internet checksum

`at_ip_checksum` of `common.c`: the complement of the one's complement sum of
the big-endian words of a buffer.
-/

namespace WiredTethering.Common

open WiredTethering.Memory

/-- The sum of the big-endian 16-bit words of a buffer; an odd last byte counts
as the high byte of a word. -/
def wordSum : Bytes → Nat
  | [] => 0
  | [high] => high.toNat * 2 ^ 8
  | high :: low :: rest => high.toNat * 2 ^ 8 + low.toNat + wordSum rest

theorem wordSum_cons_cons (high low : UInt8) (rest : Bytes) :
    wordSum (high :: low :: rest) = high.toNat * 2 ^ 8 + low.toNat + wordSum rest :=
  rfl

/-- The words of a buffer behind an even number of bytes. -/
theorem wordSum_append {front : Bytes} (even : front.length % 2 = 0) (back : Bytes) :
    wordSum (front ++ back) = wordSum front + wordSum back := by
  induction front using wordSum.induct with
  | case1 => exact (Nat.zero_add _).symm
  | case2 high => exact absurd even (by simp)
  | case3 high low rest ih =>
      simp only [List.cons_append, wordSum_cons_cons]
      rw [List.length_cons, List.length_cons] at even
      rw [ih (by omega)]
      omega

theorem wordSum_be16 (word : UInt16) : wordSum (be16 word) = word.toNat := by
  have bound := word.toNat_lt
  rw [be16, wordSum_cons_cons, wordSum, UInt16.toNat_toUInt8, UInt16.toNat_toUInt8,
    UInt16.toNat_shiftRight, show (8 : UInt16).toNat % 16 = 8 from rfl,
    Nat.shiftRight_eq_div_pow]
  omega

/-- Storing a word in place of a zero word. -/
theorem wordSum_overwrite {buf : Bytes} {off : Nat} (even : off % 2 = 0)
    (inside : off + 2 ≤ buf.length) (zero : slice buf off 2 = [0, 0]) (word : UInt16) :
    wordSum (overwrite buf off (be16 word)) = wordSum buf + word.toNat := by
  have front : (buf.take off).length % 2 = 0 := by
    rw [List.length_take, Nat.min_eq_left (by omega)]
    exact even
  have whole : wordSum (buf.take off ++ ([0, 0] ++ buf.drop (off + 2))) = wordSum buf := by
    rw [← zero, slice, ← List.drop_drop, List.take_append_drop, List.take_append_drop]
  have word_even : (be16 word).length % 2 = 0 := by rw [be16_length]
  have nothing (rest : Bytes) : wordSum ([0, 0] ++ rest) = wordSum rest := by
    rw [List.cons_append, List.cons_append, List.nil_append, wordSum_cons_cons]
    exact Nat.zero_add _
  rw [← whole, overwrite, List.append_assoc, wordSum_append front, wordSum_append front,
    wordSum_append word_even, wordSum_be16, be16_length, nothing]
  omega

/-- Each word adds less than `2 ^ 16`. -/
theorem wordSum_le (buf : Bytes) : wordSum buf ≤ 65535 * ((buf.length + 1) / 2) := by
  induction buf using wordSum.induct with
  | case1 => exact Nat.le_refl _
  | case2 high =>
      have bound := high.toNat_lt
      simp only [wordSum, List.length_cons, List.length_nil]
      omega
  | case3 high low rest ih =>
      have high_bound := high.toNat_lt
      have low_bound := low.toNat_lt
      simp only [wordSum_cons_cons, List.length_cons]
      omega

/-- Adding the carries back in until 16 bits are left. -/
def foldCarries (s : Nat) : Nat :=
  if s < 2 ^ 16 then s else foldCarries (s % 2 ^ 16 + s / 2 ^ 16)
termination_by s
decreasing_by omega

/-- `at_ip_checksum`.  The sum is kept in 32 bits. -/
def atIpChecksum (data : Bytes) : UInt16 :=
  ~~~ UInt16.ofNat (foldCarries (wordSum data % 2 ^ 32))

theorem foldCarries_lt (s : Nat) : foldCarries s < 2 ^ 16 := by
  induction s using foldCarries.induct with
  | case1 s small =>
      rw [foldCarries, if_pos small]
      exact small
  | case2 s large ih =>
      rw [foldCarries, if_neg large]
      exact ih

/-- Folding keeps the value modulo `2 ^ 16 - 1`. -/
theorem foldCarries_mod (s : Nat) : foldCarries s % 65535 = s % 65535 := by
  induction s using foldCarries.induct with
  | case1 s small => rw [foldCarries, if_pos small]
  | case2 s large ih =>
      rw [foldCarries, if_neg large, ih]
      omega

theorem foldCarries_eq_zero_iff {s : Nat} : foldCarries s = 0 ↔ s = 0 := by
  induction s using foldCarries.induct with
  | case1 s small => rw [foldCarries, if_pos small]
  | case2 s large ih =>
      rw [foldCarries, if_neg large, ih]
      omega

/-- A sum and the complement of its folded value add up to all ones. -/
theorem foldCarries_add_not (s : Nat) :
    foldCarries (s + (~~~ UInt16.ofNat (foldCarries s)).toNat) = 65535 := by
  have small := foldCarries_lt s
  have not_eq : (~~~ UInt16.ofNat (foldCarries s)).toNat = 65535 - foldCarries s := by
    rw [UInt16.toNat_not, UInt16.toNat_ofNat', Nat.mod_eq_of_lt small]
    rfl
  have folded := foldCarries_mod s
  have total_mod := foldCarries_mod (s + (65535 - foldCarries s))
  have total_lt := foldCarries_lt (s + (65535 - foldCarries s))
  have total_zero := foldCarries_eq_zero_iff (s := s + (65535 - foldCarries s))
  have zero := foldCarries_eq_zero_iff (s := s)
  rw [not_eq]
  omega

/-- Adding all ones to a sum of all ones. -/
theorem foldCarries_add_ones {s : Nat} (ones : foldCarries s = 65535) :
    foldCarries (s + 65535) = 65535 := by
  have folded := foldCarries_mod s
  have total_mod := foldCarries_mod (s + 65535)
  have total_lt := foldCarries_lt (s + 65535)
  have total_zero := foldCarries_eq_zero_iff (s := s + 65535)
  omega

/-- A buffer verifies with its checksum: together they sum to all ones. -/
theorem foldCarries_wordSum_add_checksum {data : Bytes} (fits : wordSum data < 2 ^ 32) :
    foldCarries (wordSum data + (atIpChecksum data).toNat) = 65535 := by
  rw [atIpChecksum, Nat.mod_eq_of_lt fits]
  exact foldCarries_add_not (wordSum data)

end WiredTethering.Common
