import WiredTethering.Memory.Bytes

/-!
# C strings

A text in a `char` array is the list of its bytes up to the terminator.  Text
constants are written as strings and encoded with `cstr`.

Addresses are 32-bit words as `memcpy` loads them from network order on the
little-endian host: the first octet of the dotted form is the low byte.
-/

namespace WiredTethering.Common

open WiredTethering.Memory

/-- The bytes of a string literal. -/
def cstr (s : String) : Bytes :=
  s.toList.flatMap String.utf8EncodeChar

/-- `strlcpy` into an array of `n` bytes. -/
def strlcpy (src : Bytes) (n : Nat) : Bytes :=
  src.take (n - 1)

def isDigit (c : UInt8) : Bool :=
  48 ≤ c ∧ c ≤ 57

/-- `%u` of an octet. -/
def octetStr (b : UInt8) : Bytes :=
  let digit (n : Nat) : UInt8 := UInt8.ofNat (48 + n)
  let n := b.toNat
  if n < 10 then [digit n]
  else if n < 100 then [digit (n / 10), digit (n % 10)]
  else [digit (n / 100), digit (n / 10 % 10), digit (n % 10)]

/-- `ip4_str`: `inet_ntop` of an IPv4 address. -/
def ip4Str (addr : UInt32) : Bytes :=
  octetStr addr.toUInt8 ++ cstr "." ++ octetStr (addr >>> 8).toUInt8 ++ cstr "." ++
    octetStr (addr >>> 16).toUInt8 ++ cstr "." ++ octetStr (addr >>> 24).toUInt8

/-! ## `inet_aton` -/

/-- The value of a digit in a base, if it is one. -/
def digitValue (base : Nat) (c : UInt8) : Option Nat :=
  let v :=
    if isDigit c then some (c.toNat - 48)
    else if 97 ≤ c ∧ c ≤ 102 then some (c.toNat - 87)
    else if 65 ≤ c ∧ c ≤ 70 then some (c.toNat - 55)
    else none
  v.filter (· < base)

/-- The digits at the front of a text, appended to `value`, and what follows. -/
def takeDigits (base value : Nat) : Bytes → Nat × Bytes
  | [] => (value, [])
  | c :: rest =>
      match digitValue base c with
      | some d => takeDigits base (value * base + d) rest
      | none => (value, c :: rest)

/-- A C integer constant: hexadecimal after `0x`, octal after `0`. -/
def takeNumber : Bytes → Option (Nat × Bytes)
  | [] => none
  | c :: rest =>
      if !isDigit c then none
      else if c ≠ 48 then some (takeDigits 10 0 (c :: rest))
      else
        match rest with
        | x :: more =>
            if x = 120 ∨ x = 88 then some (takeDigits 16 0 more)
            else some (takeDigits 8 0 (x :: more))
        | [] => some (0, [])

/-- The numbers of a dotted address, at most `fuel` of them.  A blank ends the
address. -/
def takeParts : Nat → Bytes → Option (List Nat)
  | 0, _ => none
  | fuel + 1, text =>
      match takeNumber text with
      | none => none
      | some (n, []) => some [n]
      | some (n, c :: rest) =>
          if c = 46 then (takeParts fuel rest).map (n :: ·)
          else if c = 32 ∨ (9 ≤ c ∧ c ≤ 13) then some [n]
          else none

/-- The host-order address of one to four parts; the last part fills the bytes
that are left. -/
def joinParts : List Nat → Option Nat
  | [a] => if a < 2 ^ 32 then some a else none
  | [a, b] => if a < 256 ∧ b < 2 ^ 24 then some (a * 2 ^ 24 + b) else none
  | [a, b, c] =>
      if a < 256 ∧ b < 256 ∧ c < 2 ^ 16 then some (a * 2 ^ 24 + b * 2 ^ 16 + c) else none
  | [a, b, c, d] =>
      if a < 256 ∧ b < 256 ∧ c < 256 ∧ d < 256 then
        some (a * 2 ^ 24 + b * 2 ^ 16 + c * 2 ^ 8 + d)
      else none
  | _ => none

/-- `inet_aton`. -/
def inetAton (text : Bytes) : Option UInt32 :=
  ((takeParts 4 text).bind joinParts).map fun host =>
    let byte (shift : Nat) : UInt32 := UInt32.ofNat (host / 2 ^ shift % 256)
    byte 24 ||| byte 16 <<< 8 ||| byte 8 <<< 16 ||| byte 0 <<< 24

/-! ## `inet_aton` reads what `inet_ntop` writes -/

/-- The digit of a number below ten. -/
theorem digitValue_digit : ∀ n < 10, digitValue 10 (UInt8.ofNat (48 + n)) = some n := by
  decide

theorem isDigit_digit : ∀ n < 10, isDigit (UInt8.ofNat (48 + n)) = true := by
  decide

theorem digit_ne_zero : ∀ n < 10, n ≠ 0 → UInt8.ofNat (48 + n) ≠ 48 := by
  decide

theorem takeDigits_digit {n : Nat} (low : n < 10) (value : Nat) (rest : Bytes) :
    takeDigits 10 value (UInt8.ofNat (48 + n) :: rest) = takeDigits 10 (value * 10 + n) rest := by
  rw [takeDigits, digitValue_digit n low]

/-- Nothing, or a dot and more. -/
def AtEnd (rest : Bytes) : Prop :=
  rest = [] ∨ ∃ more, rest = 46 :: more

theorem takeDigits_atEnd (base value : Nat) {rest : Bytes} (atEnd : AtEnd rest) :
    takeDigits base value rest = (value, rest) := by
  rcases atEnd with rfl | ⟨more, rfl⟩
  · rfl
  · have none_ : digitValue base 46 = none := by
      rw [digitValue]
      rfl
    rw [takeDigits, none_]

theorem takeNumber_digit {n : Nat} (low : n < 10) (some_ : n ≠ 0) (rest : Bytes) :
    takeNumber (UInt8.ofNat (48 + n) :: rest) = some (takeDigits 10 n rest) := by
  have step := takeDigits_digit low 0 rest
  rw [Nat.zero_mul, Nat.zero_add] at step
  unfold takeNumber
  dsimp only
  rw [isDigit_digit n low, if_neg (by decide), if_pos (digit_ne_zero n low some_), step]

/-- An octet reads back in front of what ends it. -/
theorem takeNumber_octetStr (b : UInt8) {rest : Bytes} (atEnd : AtEnd rest) :
    takeNumber (octetStr b ++ rest) = some (b.toNat, rest) := by
  have bound : b.toNat < 256 := b.toNat_lt
  rw [octetStr]
  dsimp only
  split_ifs with one two
  · by_cases zero : b.toNat = 0
    · rw [zero]
      rcases atEnd with rfl | ⟨more, rfl⟩
      · rfl
      · have back := takeDigits_atEnd 8 0 (.inr ⟨more, rfl⟩)
        have none_ : digitValue 8 46 = none := rfl
        change some (takeDigits 8 0 (46 :: more)) = _
        rw [back]
    · rw [List.singleton_append, takeNumber_digit one zero, takeDigits_atEnd 10 _ atEnd]
  · rw [List.cons_append, List.singleton_append, takeNumber_digit (by omega) (by omega),
      takeDigits_digit (by omega), takeDigits_atEnd 10 _ atEnd]
    congr
    omega
  · rw [List.cons_append, List.cons_append, List.singleton_append,
      takeNumber_digit (by omega) (by omega), takeDigits_digit (by omega),
      takeDigits_digit (by omega), takeDigits_atEnd 10 _ atEnd]
    congr
    omega

theorem takeParts_octet (fuel : Nat) (b : UInt8) (rest : Bytes) :
    takeParts (fuel + 1) (octetStr b ++ 46 :: rest) = (takeParts fuel rest).map (b.toNat :: ·) := by
  rw [takeParts, takeNumber_octetStr b (.inr ⟨rest, rfl⟩)]
  rfl

theorem takeParts_last (fuel : Nat) (b : UInt8) :
    takeParts (fuel + 1) (octetStr b) = some [b.toNat] := by
  have read := takeNumber_octetStr b (.inl rfl : AtEnd [])
  rw [List.append_nil] at read
  rw [takeParts, read]

theorem takeParts_ip4Str (addr : UInt32) :
    takeParts 4 (ip4Str addr) = some [addr.toUInt8.toNat, (addr >>> 8).toUInt8.toNat,
      (addr >>> 16).toUInt8.toNat, (addr >>> 24).toUInt8.toNat] := by
  have dot : cstr "." = [46] := by decide
  rw [ip4Str, dot]
  simp only [List.append_assoc, List.cons_append, List.nil_append]
  rw [takeParts_octet, takeParts_octet, takeParts_octet, takeParts_last]
  rfl

/-- `inet_aton` reads back what `inet_ntop` writes. -/
theorem inetAton_ip4Str (addr : UInt32) : inetAton (ip4Str addr) = some addr := by
  have octet (b : UInt8) : b.toNat < 256 := b.toNat_lt
  rw [inetAton, takeParts_ip4Str, Option.bind_some, joinParts,
    if_pos ⟨octet _, octet _, octet _, octet _⟩, Option.map_some]
  have byte {host : Nat} {shift : Nat} {b : UInt8} (here : host / 2 ^ shift % 256 = b.toNat) :
      UInt32.ofNat (host / 2 ^ shift % 256) = b.toUInt32 := by
    rw [here]
    exact UInt32.ofNat_uInt8ToNat b
  have o0 := octet addr.toUInt8
  have o1 := octet (addr >>> 8).toUInt8
  have o2 := octet (addr >>> 16).toUInt8
  have o3 := octet (addr >>> 24).toUInt8
  dsimp only
  rw [@byte _ 24 addr.toUInt8 (by omega), @byte _ 16 (addr >>> 8).toUInt8 (by omega),
    @byte _ 8 (addr >>> 16).toUInt8 (by omega), @byte _ 0 (addr >>> 24).toUInt8 (by omega)]
  exact congrArg some (rd32le_le32_append addr [])

example : inetAton (ip4Str 0x02e20b0a) = some 0x02e20b0a := by decide +kernel

theorem ip4Str_injective : Function.Injective ip4Str := by
  intro a b same
  have read := congrArg inetAton same
  rw [inetAton_ip4Str, inetAton_ip4Str] at read
  exact Option.some.inj read

end WiredTethering.Common
