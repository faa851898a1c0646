import Mathlib.Algebra.Order.Ring.Int
import Mathlib.Algebra.Order.Ring.Rat
import WiredTethering.App.ParseHelpers
import WiredTethering.Common.Text

/-!
# Lines that stop the app

`ParseHelpers.uint64` tries three conditional casts and converts what the second and the
third yield with initialisers that trap.  Which literals reach a trap decides which lines
the app survives.
-/

namespace WiredTethering.App

open WiredTethering.Json
open WiredTethering.Memory
open WiredTethering.Common

/-- What a `Double` is worth. -/
inductive Double
  | finite (value : Rat)
  | infinite

/-- An `NSNumber` of JSONSerialization.  An integer too long for 64 bits is a double, but
rounding does not bring it back into the range of any cast. -/
inductive Number
  | integer (n : Int)
  | real (d : Double)

/-- `UInt64(n)` of an `Int`; none is a trap. -/
def uint64OfInt (n : Int) : Option UInt64 :=
  if 0 ≤ n ∧ n < 2 ^ 64 then some (UInt64.ofNat n.toNat) else none

/-- `UInt64(n)` of a `Double`, which rounds towards zero. -/
def uint64OfDouble : Double → Option UInt64
  | .finite value => uint64OfInt (value.num.tdiv value.den)
  | .infinite => none

namespace Number

/-- The value, if it is an integer. -/
def exact : Number → Option Int
  | .integer n => some n
  | .real (.finite value) => if value.den = 1 then some value.num else none
  | .real .infinite => none

/-- `as? UInt64`. -/
def asUInt64 (v : Number) : Option UInt64 :=
  v.exact.bind uint64OfInt

/-- `as? Int`. -/
def asInt (v : Number) : Option Int :=
  v.exact.filter fun n => -2 ^ 63 ≤ n ∧ n < 2 ^ 63

/-- `as? Double`. -/
def asDouble : Number → Option Double
  | .integer n => some (.finite n)
  | .real d => some d

/-- `ParseHelpers.uint64` of a number. -/
def uint64 (v : Number) : Option UInt64 :=
  match v.asUInt64 with
  | some n => some n
  | none =>
      match v.asInt with
      | some n => uint64OfInt n
      | none =>
          match v.asDouble with
          | some d => uint64OfDouble d
          | none => some 0

/-- A number that does not trap. -/
def InRange : Number → Prop
  | .integer n => 0 ≤ n ∧ n < 2 ^ 64
  | .real (.finite value) => -1 < value ∧ value < 2 ^ 64
  | .real .infinite => False

end Number

/-! ## The chain of casts -/

theorem uint64OfInt_eq_none_iff (n : Int) : uint64OfInt n = none ↔ ¬ (0 ≤ n ∧ n < 2 ^ 64) := by
  rw [uint64OfInt]
  split_ifs with range
  · exact ⟨nofun, fun outside => absurd range outside⟩
  · exact ⟨fun _ => range, fun _ => rfl⟩

/-- Rounding towards zero leaves the range if and only if the value does. -/
theorem tdiv_range (value : Rat) :
    (0 ≤ value.num.tdiv value.den ∧ value.num.tdiv value.den < 2 ^ 64) ↔
      -1 < value ∧ value < 2 ^ 64 := by
  have positive : (0 : Int) < value.den := Int.natCast_pos.mpr value.den_pos
  have low : -1 < value ↔ -(value.den : Int) < value.num := by
    rw [Rat.lt_iff]
    have num : (-1 : Rat).num = -1 := rfl
    have den : (-1 : Rat).den = 1 := rfl
    rw [num, den]
    omega
  have high : value < 2 ^ 64 ↔ value.num < 2 ^ 64 * value.den := by
    rw [Rat.lt_iff]
    have num : (2 ^ 64 : Rat).num = 2 ^ 64 := by decide +kernel
    have den : (2 ^ 64 : Rat).den = 1 := by decide +kernel
    rw [num, den]
    omega
  rw [low, high]
  by_cases sign : 0 ≤ value.num
  · rw [Int.tdiv_eq_ediv_of_nonneg sign, Int.ediv_lt_iff_lt_mul positive]
    have quotient := Int.ediv_nonneg sign (Int.le_of_lt positive)
    constructor
    · rintro ⟨-, below⟩
      exact ⟨by omega, below⟩
    · rintro ⟨-, below⟩
      exact ⟨quotient, below⟩
  · obtain ⟨m, magnitude⟩ : ∃ m, value.num = -m := ⟨-value.num, (Int.neg_neg _).symm⟩
    rw [magnitude, Int.neg_tdiv, Int.tdiv_eq_ediv_of_nonneg (by omega)]
    have quotient : 0 ≤ m / value.den := Int.ediv_nonneg (by omega) (Int.le_of_lt positive)
    have small := Int.ediv_lt_iff_lt_mul positive (a := m) (b := 1)
    constructor
    · rintro ⟨above, -⟩
      exact ⟨by omega, by omega⟩
    · rintro ⟨above, -⟩
      exact ⟨by omega, by omega⟩

namespace Number

/-- The three casts of an integral value agree. -/
theorem uint64_exact {v : Number} {n : Int} (exact : v.exact = some n) {d : Double}
    (double : v.asDouble = some d) (same : uint64OfDouble d = uint64OfInt n) :
    v.uint64 = uint64OfInt n := by
  rw [uint64, asUInt64, asInt, exact, Option.bind_some, Option.filter_some]
  cases converted : uint64OfInt n with
  | some u => rfl
  | none =>
      split_ifs
      · exact converted
      · rw [double]
        exact same.trans converted

theorem uint64_integer (n : Int) : (integer n).uint64 = uint64OfInt n := by
  apply uint64_exact rfl rfl
  rw [uint64OfDouble, Rat.num_intCast, Rat.den_intCast]
  exact congrArg uint64OfInt (Int.tdiv_one n)

theorem uint64_finite (value : Rat) :
    (real (.finite value)).uint64 = uint64OfInt (value.num.tdiv value.den) := by
  by_cases integral : value.den = 1
  · have rounded : value.num.tdiv value.den = value.num := by
      rw [integral]
      exact Int.tdiv_one value.num
    have exact : (real (.finite value)).exact = some value.num := if_pos integral
    rw [rounded]
    apply uint64_exact exact rfl
    rw [uint64OfDouble, rounded]
  · have inexact : (real (.finite value)).exact = none := if_neg integral
    rw [uint64, asUInt64, asInt, inexact]
    rfl

/-- Only a number out of range traps. -/
theorem uint64_eq_none_iff (v : Number) : v.uint64 = none ↔ ¬ v.InRange := by
  cases v with
  | integer n => rw [uint64_integer, uint64OfInt_eq_none_iff, InRange]
  | real d =>
      cases d with
      | finite value => rw [uint64_finite, uint64OfInt_eq_none_iff, tdiv_range, InRange]
      | infinite => exact ⟨fun _ => not_false, fun _ => rfl⟩

end Number

/-! ## The members of a status line -/

/-- The casts of `ParseHelpers.uint64`, with what a literal is worth as a double. -/
def RealBridge.withCasts (bridge : RealBridge) (double : List Char → Double) : RealBridge :=
  { bridge with uint64 := fun text => (Number.real (double text)).uint64 }

/-- The number of a member, if it is one. -/
def numberOf (double : List Char → Double) : Option Value → Option Number
  | some (.integer n) => some (.integer n)
  | some (.real text) => some (.real (double text))
  | _ => none

/-- The members that are read as counters. -/
def counterKeys : List String :=
  ["rx_bytes", "tx_bytes", "rx_errors", "tx_errors", "pid", "link_mbps", "mtu"]

/-- Every counter that is a number is in range. -/
def CountersInRange (double : List Char → Double) (obj : List (List Char × Value)) : Prop :=
  ∀ key ∈ counterKeys, ∀ v, numberOf double (member obj key) = some v → v.InRange

variable (bridge : RealBridge) (double : List Char → Double)

theorem uint64_withCasts_eq_none_iff (v : Option Value) :
    uint64 (bridge.withCasts double) v = none ↔ ∃ n, numberOf double v = some n ∧ ¬ n.InRange := by
  match v with
  | some (.integer n) =>
      have same : uint64 (bridge.withCasts double) (some (.integer n)) =
          (Number.integer n).uint64 := by
        rw [Number.uint64_integer]
        rfl
      rw [same, Number.uint64_eq_none_iff]
      simp [numberOf]
  | some (.real text) =>
      have same : uint64 (bridge.withCasts double) (some (.real text)) =
          (Number.real (double text)).uint64 := rfl
      rw [same, Number.uint64_eq_none_iff]
      simp [numberOf]
  | none | some .null | some (.bool _) | some (.string _) | some (.array _) | some (.object _) =>
      simp [uint64, numberOf]

/-- A step that does not depend on the value adds a way to fail. -/
theorem bind_eq_none_iff_or {α β : Type} {x : Option α} {f : α → Option β} {failed : Prop}
    (later : ∀ a, f a = none ↔ failed) : x.bind f = none ↔ x = none ∨ failed := by
  cases x with
  | none => exact ⟨fun _ => Or.inl rfl, fun _ => rfl⟩
  | some a =>
      rw [Option.bind_some, later]
      exact ⟨Or.inr, Or.rec nofun id⟩

/-- A status object traps if and only if a counter does. -/
theorem parseStatus_eq_none_iff (b : RealBridge) (obj : List (List Char × Value)) :
    parseStatus b obj = none ↔ ∃ key ∈ counterKeys, uint64 b (member obj key) = none := by
  have steps : parseStatus b obj = none ↔
      uint64 b (member obj "rx_bytes") = none ∨ uint64 b (member obj "tx_bytes") = none ∨
        uint64 b (member obj "rx_errors") = none ∨ uint64 b (member obj "tx_errors") = none ∨
          uint64 b (member obj "pid") = none ∨ uint64 b (member obj "link_mbps") = none ∨
            uint64 b (member obj "mtu") = none ∨ False :=
    bind_eq_none_iff_or fun _ => bind_eq_none_iff_or fun _ => bind_eq_none_iff_or fun _ =>
      bind_eq_none_iff_or fun _ => bind_eq_none_iff_or fun _ => bind_eq_none_iff_or fun _ =>
        bind_eq_none_iff_or fun _ => ⟨nofun, False.elim⟩
  rw [steps, counterKeys]
  simp only [List.exists_mem_cons_iff, List.not_mem_nil, false_and, exists_false]

theorem parseStatus_withCasts (obj : List (List Char × Value)) :
    parseStatus (bridge.withCasts double) obj = none ↔ ¬ CountersInRange double obj := by
  rw [parseStatus_eq_none_iff]
  simp only [uint64_withCasts_eq_none_iff, CountersInRange]
  push Not
  rfl

/-! ## Lines -/

/-- `acceptLoop` and `dispatch` on the bytes of a line, up to the event; the outer none is
a trap. -/
def receiveLine (b : RealBridge) (lineData : Bytes) : Option (Option EngineLine) :=
  match textOf lineData with
  | some line => parseEngineLine b line
  | none => some none

/-- Where the line is a status object, every counter that is a number is in range. -/
def Harmless (double : List Char → Double) (lineData : Bytes) : Prop :=
  ∀ line obj, textOf lineData = some line → jsonObject line.toList = some (.object obj) →
    asString (member obj "type") = some "status" → CountersInRange double obj

/-- A parsed line traps only in the counters of a status object. -/
theorem parseEngineLine_eq_none_iff (line : String) :
    parseEngineLine (bridge.withCasts double) line = none ↔
      ∃ obj, jsonObject line.toList = some (.object obj) ∧
        asString (member obj "type") = some "status" ∧ ¬ CountersInRange double obj := by
  rw [parseEngineLine]
  cases parsed : jsonObject line.toList with
  | none => simp
  | some value =>
      cases value with
      | object obj =>
          dsimp only
          cases type : asString (member obj "type") with
          | none => simp [type]
          | some word =>
              by_cases status : word = "status"
              · subst status
                have other : ¬ "status" = "log" := by decide
                have traps := parseStatus_withCasts bridge double obj
                simp [type, other, traps]
              · have other : ∀ e : EngineLine, some (some e) ≠ none := fun e => nofun
                dsimp only
                split_ifs <;> simp [type, status]
      | _ => simp

/-- **Engine lines.**  A line does not stop the app if and only if it is harmless. -/
theorem receiveLine_returns_iff (lineData : Bytes) :
    receiveLine (bridge.withCasts double) lineData ≠ none ↔ Harmless double lineData := by
  rw [receiveLine, Harmless]
  cases decoded : textOf lineData with
  | none => simp
  | some line =>
      rw [ne_eq, parseEngineLine_eq_none_iff]
      push Not
      constructor
      · rintro harmless _ obj ⟨⟩ parsed type
        exact harmless obj parsed type
      · intro harmless obj parsed type
        exact harmless line obj rfl parsed type

/-- A status line with a negative number. -/
theorem receiveLine_negative :
    receiveLine (RealBridge.withCasts ⟨fun _ => none, fun _ => 0, fun _ => 0⟩
      fun _ => .finite 0) (cstr "\x7b\"type\":\"status\",\"rx_bytes\":-1\x7d") = none := by
  decide +kernel

end WiredTethering.App
