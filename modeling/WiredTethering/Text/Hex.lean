import Mathlib.Data.List.Basic
import WiredTethering.Json.Parser

/-!
# Hexadecimal columns

Numbers printed in base sixteen, filled up with zeros to a fixed width, and read back
digit by digit.
-/

namespace WiredTethering.Text

open WiredTethering.Json

/-- A number in base sixteen with at least `width` digits. -/
def hexText (width n : Nat) : List Char :=
  List.replicate (width - (Nat.toDigits 16 n).length) '0' ++ Nat.toDigits 16 n

/-- The value of a row of digits behind those that are worth `value`. -/
def hexDigits (value : Nat) (text : List Char) : Option Nat :=
  text.foldlM (fun value c => (hexValue c).map (16 * value + ·)) value

/-- Digits of either case. -/
def IsHex (text : List Char) : Prop :=
  ∀ c ∈ text, (hexValue c).isSome = true

theorem toNat_of_isHex {text : List Char} (isHex : IsHex text) {c : Char} (mem : c ∈ text) :
    (48 ≤ c.toNat ∧ c.toNat ≤ 57) ∨ (97 ≤ c.toNat ∧ c.toNat ≤ 102) ∨
      (65 ≤ c.toNat ∧ c.toNat ≤ 70) := by
  have digit := isHex c mem
  rw [hexValue] at digit
  split_ifs at digit with decimal lower upper
  · rw [Char.isDigit, Bool.and_eq_true, decide_eq_true_eq, decide_eq_true_eq] at decimal
    exact .inl decimal
  · exact .inr (.inl lower)
  · exact .inr (.inr upper)
  · cases digit

theorem hexValue_digitChar {d : Nat} (low : d < 16) : hexValue d.digitChar = some d := by
  have all : ∀ d < 16, hexValue d.digitChar = some d := by decide
  exact all d low

theorem hexDigits_append {value middle : Nat} {front : List Char}
    (read : hexDigits value front = some middle) (rest : List Char) :
    hexDigits value (front ++ rest) = hexDigits middle rest := by
  rw [hexDigits, List.foldlM_append]
  rw [hexDigits] at read
  rw [read]
  rfl

theorem hexDigits_digit (value : Nat) {d : Nat} (low : d < 16) :
    hexDigits value [d.digitChar] = some (16 * value + d) := by
  rw [hexDigits, List.foldlM_cons, hexValue_digitChar low]
  rfl

/-- Digits are read back as the number. -/
theorem hexDigits_toDigits (n : Nat) : hexDigits 0 (Nat.toDigits 16 n) = some n := by
  induction n using Nat.strongRecOn with
  | ind n ih =>
      by_cases low : n < 16
      · rw [Nat.toDigits_of_lt_base low, hexDigits_digit 0 low, Nat.mul_zero, Nat.zero_add]
      · have smaller : n / 16 < n := by omega
        rw [Nat.toDigits_of_base_le (by decide) (by omega),
          hexDigits_append (ih _ smaller), hexDigits_digit _ (Nat.mod_lt n (by decide)),
          Nat.div_add_mod]

theorem hexDigits_zeros (count : Nat) : hexDigits 0 (List.replicate count '0') = some 0 := by
  induction count with
  | zero => rfl
  | succ count ih =>
      have zero : hexDigits 0 ['0'] = some 0 := rfl
      exact (hexDigits_append zero (List.replicate count '0')).trans ih

/-- A column is read back as the number. -/
theorem hexDigits_hexText (width n : Nat) : hexDigits 0 (hexText width n) = some n := by
  rw [hexText, hexDigits_append (hexDigits_zeros _), hexDigits_toDigits]

theorem isHex_toDigits (n : Nat) : IsHex (Nat.toDigits 16 n) := by
  induction n using Nat.strongRecOn with
  | ind n ih =>
      have digit : ∀ d < 16, IsHex [d.digitChar] := by
        intro d low c mem
        rw [List.mem_singleton.mp mem, hexValue_digitChar low]
        rfl
      by_cases low : n < 16
      · rw [Nat.toDigits_of_lt_base low]
        exact digit n low
      · rw [Nat.toDigits_of_base_le (by decide) (by omega)]
        intro c mem
        rcases List.mem_append.mp mem with mem | mem
        · exact ih _ (by omega) c mem
        · exact digit _ (Nat.mod_lt n (by decide)) c mem

theorem isHex_hexText (width n : Nat) : IsHex (hexText width n) := by
  intro c mem
  rcases List.mem_append.mp mem with mem | mem
  · rw [List.eq_of_mem_replicate mem]
    rfl
  · exact isHex_toDigits n c mem

theorem hexText_ne_nil (width n : Nat) : hexText width n ≠ [] := by
  intro empty
  exact Nat.toDigits_ne_nil (List.append_eq_nil_iff.mp empty).2

end WiredTethering.Text
