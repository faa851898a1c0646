import WiredTethering.Json.Parser
import WiredTethering.Memory.Bytes

/-!
# The inside of a JSON string as bytes

A string in memory need not be UTF-8.  The bytes outside ASCII stand for themselves;
every unit that begins with an ASCII byte is ASCII, and is read as the parser of texts
reads it.
-/

namespace WiredTethering.Json

open WiredTethering.Memory

def byteChar (b : UInt8) : Char :=
  Char.ofNat b.toNat

def charByte (c : Char) : UInt8 :=
  UInt8.ofNat c.toNat

/-- What the next unit of a string stands for, and what follows it.  A quote, a control
character and an incomplete escape are no units. -/
def unescapeUnit : Bytes → Option (Bytes × Bytes)
  | [] => none
  | b :: rest =>
      if 0x80 ≤ b then some ([b], rest)
      else
        match parseUnit ((b :: rest).map byteChar) with
        | some (some c, more) => some (String.utf8EncodeChar c, more.map charByte)
        | _ => none

def unescapeFrom : Nat → Bytes → Option Bytes
  | _, [] => some []
  | 0, _ :: _ => none
  | fuel + 1, b :: rest =>
      match unescapeUnit (b :: rest) with
      | some (unit, more) => (unescapeFrom fuel more).map (unit ++ ·)
      | none => none

/-- The bytes that stand between the quotes, unescaped. -/
def unescape (text : Bytes) : Option Bytes :=
  unescapeFrom text.length text

def isHexByte (b : UInt8) : Bool :=
  (hexValue (byteChar b)).isSome

/-- The letters that may follow a backslash, besides `u`. -/
def escapeLetters : Bytes :=
  [0x22, 0x5c, 0x2f, 0x62, 0x66, 0x6e, 0x72, 0x74]

/-- What may stand between the quotes: no quote but behind a backslash, no control
character, and every escape complete. -/
inductive WellQuoted : Bytes → Prop
  | nil : WellQuoted []
  | plain {b : UInt8} {text : Bytes} :
      0x20 ≤ b → b ≠ 0x22 → b ≠ 0x5c → WellQuoted text → WellQuoted (b :: text)
  | simple {letter : UInt8} {text : Bytes} :
      letter ∈ escapeLetters → WellQuoted text → WellQuoted (0x5c :: letter :: text)
  | unicode {digits text : Bytes} :
      digits.length = 4 → (∀ d ∈ digits, isHexByte d = true) → WellQuoted text →
        WellQuoted (0x5c :: 0x75 :: (digits ++ text))

theorem isHexByte_printed (b : UInt8) (hex : isHexByte b = true) : 0x20 ≤ b := by
  have all : ∀ n < 256, isHexByte (UInt8.ofNat n) = true → 0x20 ≤ UInt8.ofNat n := by
    decide +kernel
  have here := all b.toNat b.toNat_lt
  rw [UInt8.ofNat_toNat] at here
  exact here hex

theorem WellQuoted.printed {text : Bytes} (well : WellQuoted text) : ∀ b ∈ text, 0x20 ≤ b := by
  have letters : ∀ b ∈ escapeLetters, 0x20 ≤ b := by decide
  induction well with
  | nil => exact nofun
  | plain printed _ _ _ ih => exact List.forall_mem_cons.mpr ⟨printed, ih⟩
  | simple mem _ ih =>
      rw [List.forall_mem_cons, List.forall_mem_cons]
      exact ⟨by decide, letters _ mem, ih⟩
  | unicode _ hex _ ih =>
      rw [List.forall_mem_cons, List.forall_mem_cons, List.forall_mem_append]
      exact ⟨by decide, by decide, fun d mem => isHexByte_printed d (hex d mem), ih⟩

/-! ## Reading unit by unit -/

theorem charByte_byteChar (b : UInt8) : charByte (byteChar b) = b := by
  have all : ∀ n < 256, charByte (byteChar (UInt8.ofNat n)) = UInt8.ofNat n := by decide +kernel
  have here := all b.toNat b.toNat_lt
  rwa [UInt8.ofNat_toNat] at here

theorem map_charByte (text : Bytes) : (text.map byteChar).map charByte = text := by
  rw [List.map_map]
  exact List.map_id'' charByte_byteChar text

theorem unescapeUnit_high {b : UInt8} (high : 0x80 ≤ b) (rest : Bytes) :
    unescapeUnit (b :: rest) = some ([b], rest) := by
  rw [unescapeUnit, if_pos high]

/-- A unit of a text is a unit of the bytes. -/
theorem unescapeUnit_low {b : UInt8} (low : ¬ 0x80 ≤ b) {tail rest : Bytes} {c : Char}
    (parsed : parseUnit ((b :: tail).map byteChar ++ rest.map byteChar) =
      some (some c, rest.map byteChar)) :
    unescapeUnit (b :: (tail ++ rest)) = some (String.utf8EncodeChar c, rest) := by
  rw [← List.map_append, List.cons_append] at parsed
  rw [unescapeUnit, if_neg low, parsed]
  dsimp only
  rw [map_charByte]

theorem unescapeFrom_unit {unit s rest : Bytes}
    (read : unescapeUnit (unit ++ rest) = some (s, rest)) (fuel : Nat) :
    unescapeFrom (fuel + 1) (unit ++ rest) = (unescapeFrom fuel rest).map (s ++ ·) := by
  cases whole : unit ++ rest with
  | nil =>
      rw [whole, unescapeUnit] at read
      cases read
  | cons b more =>
      rw [whole] at read
      rw [unescapeFrom, read]

/-- Units that are each read whatever follows them are read one after the other. -/
theorem unescape_flatMap {unit : UInt8 → Bytes} (some_ : ∀ b, unit b ≠ [])
    (read : ∀ b rest, unescapeUnit (unit b ++ rest) = some ([b], rest)) (s : Bytes) :
    unescape (s.flatMap unit) = some s := by
  have enough : ∀ fuel, (s.flatMap unit).length ≤ fuel →
      unescapeFrom fuel (s.flatMap unit) = some s := by
    induction s with
    | nil => exact fun fuel _ => by cases fuel <;> rfl
    | cons b s ih =>
        intro fuel within
        have positive := List.length_pos_iff.mpr (some_ b)
        rw [List.flatMap_cons, List.length_append] at within
        cases fuel with
        | zero => omega
        | succ fuel =>
            rw [List.flatMap_cons, unescapeFrom_unit (read b _), ih fuel (by omega)]
            rfl
  exact enough _ (Nat.le_refl _)

end WiredTethering.Json
