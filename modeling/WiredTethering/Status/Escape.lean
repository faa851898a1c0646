import WiredTethering.Common.Text
import WiredTethering.Json.Members
import WiredTethering.Text.Utf8

/-!
# Escaped texts

`at_json_escape` writes the escapes of a C string into a buffer, unit by unit, and
stops at the first unit that would leave no spare byte beside the terminator.  On
the encoding of a list of scalars the units are those of the scalars, and what they
spell inside a JSON string is the list itself.
-/

namespace WiredTethering.Status

open WiredTethering.Memory
open WiredTethering.Common
open WiredTethering.Json
open WiredTethering.Text

/-- A lower-case hexadecimal digit. -/
def hexDigit (n : Nat) : UInt8 :=
  UInt8.ofNat (if n < 10 then 48 + n else 87 + n)

/-- `%04x` of a byte. -/
def hex4 (p : UInt8) : Bytes :=
  cstr "00" ++ [hexDigit (p.toNat / 16), hexDigit (p.toNat % 16)]

/-- `rep`, or none for a byte that stands for itself. -/
def replacement (p : UInt8) : Option Bytes :=
  if p = 0x22 then some (cstr "\\\"")
  else if p = 0x5c then some (cstr "\\\\")
  else if p = 0x0a then some (cstr "\\n")
  else if p = 0x0d then some (cstr "\\r")
  else if p = 0x09 then some (cstr "\\t")
  else if p < 0x20 then some (cstr "\\u" ++ hex4 p)
  else none

/-- The loop of `at_json_escape`: what is written, and the return value. -/
def escapeLoop (dstLen : Nat) : Bytes → Bytes → Bytes × Int
  | dst, [] => (dst, 0)
  | dst, p :: rest =>
      match replacement p with
      | some rep =>
          if dst.length + rep.length + 1 ≥ dstLen then (dst, -1)
          else escapeLoop dstLen (dst ++ rep) rest
      | none =>
          if dst.length + 2 ≥ dstLen then (dst, -1)
          else escapeLoop dstLen (dst ++ [p]) rest

/-- `at_json_escape`. -/
def atJsonEscape (src : Bytes) (dstLen : Nat) : Bytes × Int :=
  if dstLen = 0 then ([], -1) else escapeLoop dstLen [] src

/-! ## The escaped form -/

def escapeByte (p : UInt8) : Bytes :=
  (replacement p).getD [p]

/-- The escaped form of a whole string. -/
def escaped (src : Bytes) : Bytes :=
  src.flatMap escapeByte

@[simp]
theorem escaped_nil : escaped [] = [] :=
  rfl

theorem escaped_cons (p : UInt8) (src : Bytes) :
    escaped (p :: src) = escapeByte p ++ escaped src :=
  rfl

@[simp]
theorem escaped_append (first second : Bytes) :
    escaped (first ++ second) = escaped first ++ escaped second :=
  List.flatMap_append

theorem escapeByte_ne_nil (p : UInt8) : escapeByte p ≠ [] := by
  simp only [escapeByte, replacement]
  split_ifs <;> exact nofun

theorem escapeLoop_cons (dstLen : Nat) (dst : Bytes) (p : UInt8) (rest : Bytes) :
    escapeLoop dstLen dst (p :: rest) =
      if dst.length + (escapeByte p).length + 1 ≥ dstLen then (dst, -1)
      else escapeLoop dstLen (dst ++ escapeByte p) rest := by
  rw [escapeLoop, escapeByte]
  cases replacement p with
  | none => rfl
  | some rep => rfl

/-- With a byte to spare the whole string is escaped. -/
theorem escapeLoop_spare {dstLen : Nat} {dst src : Bytes}
    (spare : dst.length + (escaped src).length + 2 ≤ dstLen) :
    escapeLoop dstLen dst src = (dst ++ escaped src, 0) := by
  induction src generalizing dst with
  | nil => simp [escapeLoop]
  | cons p src ih =>
      rw [escaped_cons, List.length_append] at spare
      rw [escapeLoop_cons, if_neg (by omega), ih (by rw [List.length_append]; omega),
        escaped_cons, List.append_assoc]

/-- Without one the last unit is dropped. -/
theorem escapeLoop_tight {dstLen : Nat} {dst src : Bytes} (some_ : src ≠ [])
    (tight : dst.length + (escaped src).length + 1 = dstLen) :
    escapeLoop dstLen dst src = (dst ++ escaped src.dropLast, -1) := by
  induction src generalizing dst with
  | nil => exact absurd rfl some_
  | cons p src ih =>
      rw [escaped_cons, List.length_append] at tight
      rw [escapeLoop_cons]
      cases src with
      | nil =>
          rw [if_pos (by rw [escaped_nil, List.length_nil] at tight; omega)]
          simp
      | cons q src =>
          have more : 0 < (escaped (q :: src)).length := by
            rw [escaped_cons, List.length_append]
            have := List.length_pos_iff.mpr (escapeByte_ne_nil q)
            omega
          have shorter := @ih (dst ++ escapeByte p) (List.cons_ne_nil q src) (by
            rw [List.length_append]
            omega)
          rw [if_neg (by omega), shorter, List.dropLast_cons_of_ne_nil (List.cons_ne_nil q src),
            escaped_cons, List.append_assoc]

/-- In general a prefix is escaped, and without a byte to spare not all of the string. -/
theorem escapeLoop_short {dstLen : Nat} {dst src : Bytes} (room : dst.length + 2 ≤ dstLen)
    (short : dstLen < dst.length + (escaped src).length + 2) :
    ∃ n < src.length, (escapeLoop dstLen dst src).1 = dst ++ escaped (src.take n) ∧
      dst.length + (escaped (src.take n)).length + 2 ≤ dstLen := by
  induction src generalizing dst with
  | nil =>
      rw [escaped_nil, List.length_nil] at short
      omega
  | cons p src ih =>
      rw [escaped_cons, List.length_append] at short
      rw [escapeLoop_cons]
      by_cases full : dst.length + (escapeByte p).length + 1 ≥ dstLen
      · rw [if_pos full]
        refine ⟨0, Nat.succ_pos _, ?_, ?_⟩
        · rw [List.take_zero, escaped_nil, List.append_nil]
        · rw [List.take_zero, escaped_nil, List.length_nil]
          omega
      · rw [if_neg full]
        obtain ⟨n, below, written, fits⟩ := @ih (dst ++ escapeByte p)
          (by rw [List.length_append]; omega) (by rw [List.length_append]; omega)
        refine ⟨n + 1, Nat.succ_lt_succ below, ?_, ?_⟩
        · rw [written, List.take_succ_cons, escaped_cons, List.append_assoc]
        · rw [List.length_append] at fits
          rw [List.take_succ_cons, escaped_cons, List.length_append]
          omega

/-! ## Scalars -/

def hexChar (n : Nat) : Char :=
  Char.ofNat (if n < 10 then 48 + n else 87 + n)

/-- The unit of a scalar. -/
def escapeScalar (c : Char) : List Char :=
  if c = '"' then ['\\', '"']
  else if c = '\\' then ['\\', '\\']
  else if c = '\n' then ['\\', 'n']
  else if c = '\r' then ['\\', 'r']
  else if c = '\t' then ['\\', 't']
  else if c.toNat < 0x20 then
    ['\\', 'u', '0', '0', hexChar (c.toNat / 16), hexChar (c.toNat % 16)]
  else [c]

def escapedScalars (scalars : List Char) : List Char :=
  scalars.flatMap escapeScalar

theorem escapeScalar_of_le {c : Char} (quote : c ≠ '"') (backslash : c ≠ '\\')
    (printed : 0x20 ≤ c.toNat) : escapeScalar c = [c] := by
  have other : ∀ d : Char, d.toNat < 0x20 → c ≠ d := by
    rintro d small rfl
    exact absurd printed (Nat.not_le.mpr small)
  rw [escapeScalar, if_neg quote, if_neg backslash, if_neg (other _ (by decide)),
    if_neg (other _ (by decide)), if_neg (other _ (by decide)), if_neg (Nat.not_lt.mpr printed)]

theorem escapeByte_of_high {p : UInt8} (high : 0x80 ≤ p.toNat) : escapeByte p = [p] := by
  have other : ∀ q : UInt8, q.toNat < 0x80 → p ≠ q := by
    rintro q small rfl
    exact absurd high (Nat.not_le.mpr small)
  have large : ¬ p < 0x20 := by
    rw [UInt8.lt_iff_toNat_lt]
    exact Nat.not_lt.mpr (Nat.le_trans (by decide) high)
  rw [escapeByte, replacement, if_neg (other _ (by decide)), if_neg (other _ (by decide)),
    if_neg (other _ (by decide)), if_neg (other _ (by decide)), if_neg (other _ (by decide)),
    if_neg large]
  rfl

theorem escaped_of_high {bytes : Bytes} (high : ∀ b ∈ bytes, 0x80 ≤ b.toNat) :
    escaped bytes = bytes := by
  induction bytes with
  | nil => rfl
  | cons b bytes ih =>
      rw [escaped_cons, escapeByte_of_high (high b (List.mem_cons_self ..)),
        ih fun d mem => high d (List.mem_cons_of_mem b mem)]
      rfl

/-- Bytes and scalars are escaped alike. -/
theorem escaped_encode (c : Char) :
    escaped (String.utf8EncodeChar c) = utf8 (escapeScalar c) := by
  by_cases ascii : c.toNat < 0x80
  · have all : ∀ n < 0x80, escaped (String.utf8EncodeChar (Char.ofNat n)) =
        utf8 (escapeScalar (Char.ofNat n)) := by decide +kernel
    have here := all c.toNat ascii
    rwa [Char.ofNat_toNat] at here
  · have wide : 0x80 ≤ c.toNat := Nat.le_of_not_lt ascii
    have plain : escapeScalar c = [c] := by
      apply escapeScalar_of_le
      · rintro rfl
        exact ascii (by decide)
      · rintro rfl
        exact ascii (by decide)
      · exact Nat.le_trans (by decide) wide
    rw [plain, escaped_of_high fun b mem => high_of_mem wide mem]
    simp [utf8_cons]

theorem escaped_utf8 (scalars : List Char) :
    escaped (utf8 scalars) = utf8 (escapedScalars scalars) := by
  induction scalars with
  | nil => rfl
  | cons c scalars ih =>
      rw [utf8_cons, escaped_append, escaped_encode, ih, ← utf8_append]
      rfl

/-- Where the escaped form of the first bytes of a text is a text, the bytes were cut
between scalars. -/
theorem escaped_take_text {scalars found : List Char} {n : Nat}
    (text : utf8 found = escaped ((utf8 scalars).take n)) :
    ∃ k, found = escapedScalars (scalars.take k) ∧
      (utf8 scalars).take n = utf8 (scalars.take k) := by
  induction scalars generalizing found n with
  | nil =>
      rw [utf8_nil, List.take_nil, escaped_nil, utf8_eq_nil_iff] at text
      exact ⟨0, text, List.take_nil⟩
  | cons c scalars ih =>
      rw [utf8_cons] at text ⊢
      by_cases whole : (String.utf8EncodeChar c).length ≤ n
      · rw [List.take_append, List.take_of_length_le whole, escaped_append, escaped_encode] at text
        obtain ⟨more, rfl, rest⟩ := utf8_eq_append text
        obtain ⟨k, rfl, cut⟩ := ih rest
        refine ⟨k + 1, rfl, ?_⟩
        rw [List.take_append, List.take_of_length_le whole, cut]
        rfl
      · rw [List.take_append_of_le_length (Nat.le_of_not_le whole)] at text ⊢
        cases n with
        | zero =>
            rw [List.take_zero, escaped_nil, utf8_eq_nil_iff] at text
            exact ⟨0, text, rfl⟩
        | succ n =>
            -- an encoding cut in two is none
            exfalso
            have wide : 0x80 ≤ c.toNat := by
              by_contra narrow
              rw [encode_ascii (Nat.lt_of_not_le narrow), List.length_singleton] at whole
              omega
            rw [escaped_of_high fun b mem => high_of_mem wide (List.mem_of_mem_take mem)] at text
            exact not_isUtf8_take_encode (Nat.succ_pos n) (Nat.lt_of_not_le whole) ⟨found, text⟩

theorem hexValue_hexChar {n : Nat} (small : n < 16) : hexValue (hexChar n) = some n := by
  revert n
  decide

theorem spells_escapeScalar (c : Char) : Spells (escapeScalar c) c := by
  rw [escapeScalar]
  split_ifs with quote backslash newline return_ tab control
  · subst quote
    exact spells_simple (by decide) rfl
  · subst backslash
    exact spells_simple (by decide) rfl
  · subst newline
    exact spells_simple (by decide) rfl
  · subst return_
    exact spells_simple (by decide) rfl
  · subst tab
    exact spells_simple (by decide) rfl
  · have zero : hexValue '0' = some 0 := rfl
    have high := hexValue_hexChar (n := c.toNat / 16) (by omega)
    have low := hexValue_hexChar (n := c.toNat % 16) (by omega)
    have value : ((0 * 16 + 0) * 16 + c.toNat / 16) * 16 + c.toNat % 16 = c.toNat := by omega
    have spells := spells_unicode zero zero high low (by omega)
    rwa [value, Char.ofNat_toNat] at spells
  · exact spells_plain ⟨quote, backslash, Nat.le_of_not_lt control⟩

theorem body_escapedScalars (scalars : List Char) : Body (escapedScalars scalars) scalars := by
  induction scalars with
  | nil => exact .nil
  | cons c scalars ih => exact .cons (spells_escapeScalar c) ih

end WiredTethering.Status
