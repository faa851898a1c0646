import Mathlib.Data.List.TakeDrop
import Mathlib.Tactic.IntervalCases
import WiredTethering.Json.Parser

/-!
# Texts that parse to a known value

`Body text s` spells the string `s` unit by unit, `Writes text v` is a text that
parses to `v` before a comma or a closing brace, and a `Field` is a member together
with the proof that its text is read back.  An object printed from fields parses to
their values.
-/

namespace WiredTethering.Json

@[simp]
theorem skipSpace_nil : skipSpace [] = [] :=
  rfl

theorem skipSpace_cons {c : Char} (printed : isSpace c = false) (rest : List Char) :
    skipSpace (c :: rest) = c :: rest := by
  rw [skipSpace, List.dropWhile_cons_of_neg (by rw [printed]; exact nofun)]

theorem expect_self {c : Char} (printed : isSpace c = false) (rest : List Char) :
    expect c (c :: rest) = some rest := by
  rw [expect, skipSpace_cons printed]
  exact if_pos rfl

theorem expect_other {c d : Char} (printed : isSpace d = false) (other : d ≠ c)
    (rest : List Char) : expect c (d :: rest) = none := by
  rw [expect, skipSpace_cons printed]
  exact if_neg other

/-! ## Strings -/

/-- `unit` stands for one scalar inside a string. -/
def Spells (unit : List Char) (c : Char) : Prop :=
  ∀ rest, parseUnit (unit ++ rest) = some (some c, rest)

/-- What stands between the quotes of the string `s`. -/
inductive Body : List Char → List Char → Prop
  | nil : Body [] []
  | cons {unit : List Char} {c : Char} {text s : List Char} :
      Spells unit c → Body text s → Body (unit ++ text) (c :: s)

theorem Spells.length_pos {unit : List Char} {c : Char} (spells : Spells unit c) :
    0 < unit.length := by
  cases unit with
  | nil =>
      have empty := spells []
      cases empty
  | cons head tail => exact Nat.succ_pos _

/-- A scalar that stands for itself. -/
def IsPlain (c : Char) : Prop :=
  c ≠ '"' ∧ c ≠ '\\' ∧ 0x20 ≤ c.toNat

instance (c : Char) : Decidable (IsPlain c) :=
  inferInstanceAs (Decidable (_ ∧ _))

theorem spells_plain {c : Char} (plain : IsPlain c) : Spells [c] c := by
  intro rest
  rw [List.singleton_append, parseUnit, if_neg plain.1, if_neg plain.2.1,
    if_neg (Nat.not_lt.mpr plain.2.2)]

theorem body_plain {s : List Char} (plain : ∀ c ∈ s, IsPlain c) : Body s s := by
  induction s with
  | nil => exact .nil
  | cons c s ih =>
      have rest := ih fun d mem => plain d (List.mem_cons_of_mem c mem)
      exact .cons (spells_plain (plain c (List.mem_cons_self ..))) rest

/-- A backslash and the letter of a simple escape. -/
theorem spells_simple {letter c : Char} (other : letter ≠ 'u')
    (escape : simpleEscape letter = some c) : Spells ['\\', letter] c := by
  intro rest
  rw [List.cons_append, List.singleton_append, parseUnit, if_neg (by decide), if_pos rfl,
    parseEscape, if_neg other, escape]
  rfl

/-- `\u` and four digits below the surrogates. -/
theorem spells_unicode {a b c d : Char} {i j k l : Nat} (first : hexValue a = some i)
    (second : hexValue b = some j) (third : hexValue c = some k) (fourth : hexValue d = some l)
    (below : ((i * 16 + j) * 16 + k) * 16 + l < 0xD800) :
    Spells ['\\', 'u', a, b, c, d] (Char.ofNat (((i * 16 + j) * 16 + k) * 16 + l)) := by
  intro rest
  have digits : parseHex4 (a :: b :: c :: d :: rest) =
      some (((i * 16 + j) * 16 + k) * 16 + l, rest) := by
    rw [parseHex4, first, second, third, fourth]
    rfl
  have noHigh : ¬ (0xD800 ≤ ((i * 16 + j) * 16 + k) * 16 + l ∧
      ((i * 16 + j) * 16 + k) * 16 + l < 0xDC00) := fun high => by omega
  have noLow : ¬ (0xDC00 ≤ ((i * 16 + j) * 16 + k) * 16 + l ∧
      ((i * 16 + j) * 16 + k) * 16 + l < 0xE000) := fun low => by omega
  have scalar : parseUnicode (a :: b :: c :: d :: rest) =
      some (Char.ofNat (((i * 16 + j) * 16 + k) * 16 + l), rest) := by
    rw [parseUnicode, digits, Option.bind_eq_bind, Option.bind_some]
    dsimp only
    rw [if_neg noHigh, if_neg noLow]
    rfl
  change parseUnit ('\\' :: 'u' :: a :: b :: c :: d :: rest) = _
  rw [parseUnit, if_neg (by decide), if_pos rfl, parseEscape, if_pos rfl, scalar]
  rfl

theorem parseScalars_body {text s : List Char} (body : Body text s) (rest : List Char)
    {fuel : Nat} (enough : text.length < fuel) :
    parseScalars fuel (text ++ '"' :: rest) = some (s, rest) := by
  induction body generalizing fuel with
  | nil =>
      cases fuel with
      | zero => exact absurd enough (Nat.not_lt_zero _)
      | succ fuel => rfl
  | @cons unit c text s spells _ ih =>
      rw [List.length_append] at enough
      have some_ := spells.length_pos
      cases fuel with
      | zero => exact absurd enough (Nat.not_lt_zero _)
      | succ fuel =>
          rw [List.append_assoc, parseScalars, spells]
          dsimp only
          rw [ih (by omega)]
          rfl

theorem parseString_body {text s : List Char} (body : Body text s) (rest : List Char) :
    parseString (text ++ '"' :: rest) = some (s, rest) := by
  apply parseScalars_body body rest
  rw [List.length_append, List.length_cons]
  omega

/-- A string without its closing quote is refused. -/
theorem parseScalars_unclosed {text s : List Char} (body : Body text s) (fuel : Nat) :
    parseScalars fuel text = none := by
  induction body generalizing fuel with
  | nil => cases fuel <;> rfl
  | cons spells _ ih =>
      cases fuel with
      | zero => rfl
      | succ fuel =>
          rw [parseScalars, spells]
          dsimp only
          rw [ih]
          rfl

/-! ## Values -/

/-- The text goes on with a comma or a closing brace. -/
def Ends (rest : List Char) : Prop :=
  ∃ c more, rest = c :: more ∧ (c = ',' ∨ c = '\x7d')

/-- A text that parses to `value` inside an object. -/
def Writes (text : List Char) (value : Value) : Prop :=
  ∀ fuel rest, Ends rest → parseValue (fuel + 1) (text ++ rest) = some (value, rest)

theorem writes_string {text s : List Char} (body : Body text s) :
    Writes ('"' :: text ++ ['"']) (.string s) := by
  intro fuel rest _
  have shape : '"' :: text ++ ['"'] ++ rest = '"' :: (text ++ '"' :: rest) := by simp
  rw [shape, parseValue, skipSpace_cons (by decide)]
  simp only [Char.reduceEq, if_false, if_true]
  rw [parseString_body body]
  rfl

theorem span_digits {digits rest : List Char} (all : ∀ c ∈ digits, c.isDigit = true)
    (ends : Ends rest) : (digits ++ rest).span Char.isDigit = (digits, rest) := by
  obtain ⟨c, more, rfl, closing⟩ := ends
  have stops : c.isDigit = false := by rcases closing with rfl | rfl <;> rfl
  rw [List.span_eq_takeWhile_dropWhile, List.takeWhile_append_of_pos all,
    List.dropWhile_append_of_pos all, List.takeWhile_cons_of_neg (by rw [stops]; exact nofun),
    List.dropWhile_cons_of_neg (by rw [stops]; exact nofun), List.append_nil]

theorem parseFraction_ends {rest : List Char} (ends : Ends rest) :
    parseFraction rest = some ([], rest) := by
  obtain ⟨c, more, rfl, rfl | rfl⟩ := ends <;> rfl

theorem parseExponent_ends {rest : List Char} (ends : Ends rest) :
    parseExponent rest = some ([], rest) := by
  obtain ⟨c, more, rfl, rfl | rfl⟩ := ends <;> rfl

/-- No leading zeros. -/
theorem head_toDigits {n : Nat} (positive : 0 < n) :
    (Nat.toDigits 10 n).head? ≠ some '0' := by
  induction n using Nat.strongRecOn with
  | _ n ih =>
      by_cases small : n < 10
      · rw [Nat.toDigits_of_lt_base small]
        interval_cases n <;> decide
      · rw [Nat.toDigits_of_base_le (by decide) (Nat.le_of_not_lt small)]
        have shorter := ih (n / 10) (by omega) (by omega)
        rw [List.head?_append_of_ne_nil _ Nat.toDigits_ne_nil]
        exact shorter

theorem toDigits_cons (n : Nat) : ∃ d more, Nat.toDigits 10 n = d :: more ∧ d.isDigit = true := by
  obtain ⟨d, more, shape⟩ := List.exists_cons_of_ne_nil (@Nat.toDigits_ne_nil n 10)
  refine ⟨d, more, shape, ?_⟩
  apply @Nat.isDigit_of_mem_toDigits 10 n d (by decide) (by decide)
  rw [shape]
  exact List.mem_cons_self ..

theorem parseNumber_toDigits (n : Nat) {rest : List Char} (ends : Ends rest) :
    parseNumber (Nat.toDigits 10 n ++ rest) = some (.integer n, rest) := by
  have digits : ∀ c ∈ Nat.toDigits 10 n, c.isDigit = true := fun c mem =>
    Nat.isDigit_of_mem_toDigits (by decide) (by decide) mem
  have lead : ¬ (Nat.toDigits 10 n = [] ∨
      1 < (Nat.toDigits 10 n).length ∧ (Nat.toDigits 10 n).head? = some '0') := by
    rintro (empty | ⟨long, zero⟩)
    · exact Nat.toDigits_ne_nil empty
    · rcases Nat.eq_zero_or_pos n with rfl | positive
      · exact absurd long (by decide)
      · exact head_toDigits positive zero
  have unsigned : takeSign (Nat.toDigits 10 n ++ rest) = ([], Nat.toDigits 10 n ++ rest) := by
    obtain ⟨d, more, shape, isDigit⟩ := toDigits_cons n
    rw [shape, List.cons_append, takeSign, if_neg (by rintro rfl; cases isDigit)]
  rw [parseNumber, unsigned]
  dsimp only
  rw [span_digits digits ends]
  dsimp only
  rw [if_neg lead, parseFraction_ends ends, Option.bind_eq_bind, Option.bind_some]
  dsimp only
  rw [parseExponent_ends ends, Option.bind_some]
  simp [Nat.ofDigitChars_toDigits]

theorem writes_nat (n : Nat) : Writes (Nat.toDigits 10 n) (.integer n) := by
  intro fuel rest ends
  obtain ⟨d, more, shape, isDigit⟩ := toDigits_cons n
  have number := parseNumber_toDigits n ends
  have other : ∀ c : Char, c.isDigit = false → d ≠ c := by
    rintro c none_ rfl
    rw [isDigit] at none_
    cases none_
  have printed : isSpace d = false := by
    simp only [isSpace, other ' ' rfl, other '\t' rfl, other '\n' rfl, other '\r' rfl,
      or_self, decide_false]
  rw [shape, List.cons_append] at number ⊢
  rw [parseValue, skipSpace_cons printed]
  simp only [other '\x7b' rfl, other '[' rfl, other '"' rfl, other 't' rfl, other 'f' rfl,
    other 'n' rfl, if_false]
  exact number

/-! ## Objects -/

def memberText (key text : List Char) : List Char :=
  '"' :: key ++ '"' :: ':' :: text

theorem memberText_append (key text rest : List Char) :
    memberText key text ++ rest = '"' :: (key ++ '"' :: ':' :: (text ++ rest)) := by
  simp [memberText]

/-- A member before another. -/
theorem parseMembers_more {key k text : List Char} {value : Value} (keyed : Body key k)
    (writes : Writes text value) (rest : List Char) (fuel : Nat) :
    parseMembers (fuel + 2) (memberText key text ++ ',' :: rest) =
      (parseMembers (fuel + 1) rest).map fun (members, more) => ((k, value) :: members, more) := by
  rw [memberText_append, parseMembers, expect_self (by decide), Option.bind_some,
    parseString_body keyed, Option.bind_some]
  dsimp only
  rw [expect_self (by decide), Option.bind_some, writes fuel _ ⟨_, _, rfl, .inl rfl⟩,
    Option.bind_some]
  dsimp only
  rw [expect_self (by decide)]

/-- The last member of an object. -/
theorem parseMembers_last {key k text : List Char} {value : Value} (keyed : Body key k)
    (writes : Writes text value) (rest : List Char) (fuel : Nat) :
    parseMembers (fuel + 2) (memberText key text ++ '\x7d' :: rest) =
      some ([(k, value)], rest) := by
  rw [memberText_append, parseMembers, expect_self (by decide), Option.bind_some,
    parseString_body keyed, Option.bind_some]
  dsimp only
  rw [expect_self (by decide), Option.bind_some, writes fuel _ ⟨_, _, rfl, .inr rfl⟩,
    Option.bind_some]
  dsimp only
  rw [expect_other (by decide) (by decide), expect_self (by decide)]
  rfl

/-- A member of an object, whose text is read back. -/
structure Field where
  key : List Char
  text : List Char
  value : Value
  keyed : Body key key
  writes : Writes text value

def Field.entry (field : Field) : List Char × Value :=
  (field.key, field.value)

def Field.print (field : Field) : List Char :=
  memberText field.key field.text

/-- Members, each with the comma behind it. -/
def printFront (fields : List Field) : List Char :=
  fields.flatMap fun field => field.print ++ [',']

@[simp]
theorem printFront_nil : printFront [] = [] :=
  rfl

theorem printFront_cons_append (field : Field) (fields : List Field) (rest : List Char) :
    printFront (field :: fields) ++ rest =
      memberText field.key field.text ++ ',' :: (printFront fields ++ rest) := by
  simp [printFront, Field.print]

theorem length_le_printFront (fields : List Field) :
    fields.length ≤ (printFront fields).length := by
  induction fields with
  | nil => exact Nat.le_refl _
  | cons field fields ih =>
      have shape := printFront_cons_append field fields []
      rw [List.append_nil, List.append_nil] at shape
      rw [shape, List.length_cons, List.length_append, List.length_cons]
      omega

theorem parseMembers_front (fields : List Field) (rest : List Char) (fuel : Nat) :
    parseMembers (fuel + 1 + fields.length) (printFront fields ++ rest) =
      (parseMembers (fuel + 1) rest).map fun (members, more) =>
        (fields.map Field.entry ++ members, more) := by
  induction fields generalizing fuel with
  | nil => simp
  | cons field fields ih =>
      have split : fuel + 1 + (fields.length + 1) = fuel + fields.length + 2 := by omega
      have inner : fuel + fields.length + 1 = fuel + 1 + fields.length := by omega
      rw [printFront_cons_append, List.length_cons, split,
        parseMembers_more field.keyed field.writes, inner, ih, Option.map_map]
      rfl

/-- An object, its last member apart. -/
def objectText (front : List Field) (last : Field) : List Char :=
  '\x7b' :: (printFront front ++ (last.print ++ ['\x7d']))

theorem parseMembers_object (front : List Field) (last : Field) (rest : List Char) {fuel : Nat}
    (enough : front.length + 1 < fuel) :
    parseMembers fuel (printFront front ++ (last.print ++ '\x7d' :: rest)) =
      some (front.map Field.entry ++ [last.entry], rest) := by
  obtain ⟨more, rfl⟩ := Nat.exists_eq_add_of_le' (show front.length + 2 ≤ fuel from enough)
  have split : more + (front.length + 2) = more + 1 + 1 + front.length := by omega
  rw [split, parseMembers_front, Field.print, parseMembers_last last.keyed last.writes]
  rfl

/-- A printed object parses to its members, whatever white space follows. -/
theorem jsonObject_objectText (front : List Field) (last : Field) {blank : List Char}
    (isBlank : skipSpace blank = []) :
    jsonObject (objectText front last ++ blank) =
      some (.object (front.map Field.entry ++ [last.entry])) := by
  have shape : objectText front last ++ blank =
      '\x7b' :: (printFront front ++ (last.print ++ '\x7d' :: blank)) := by
    simp [objectText]
  have notEmpty : expect '\x7d' (printFront front ++ (last.print ++ '\x7d' :: blank)) = none := by
    cases front with
    | nil => exact expect_other (by decide) (by decide) _
    | cons field fields =>
        rw [printFront_cons_append]
        exact expect_other (by decide) (by decide) _
  have enough : front.length + 1 < (objectText front last ++ blank).length := by
    have printed := length_le_printFront front
    rw [shape]
    simp only [List.length_cons, List.length_append]
    omega
  have parsed := parseMembers_object front last blank enough
  rw [jsonObject, parseValue, shape, skipSpace_cons (by decide)]
  simp only [if_true]
  rw [notEmpty]
  rw [shape] at parsed
  simp only [parsed, Option.map_some, isBlank, if_true]

/-- A string in a place where the text breaks off. -/
theorem parseValue_unclosed {text s : List Char} (body : Body text s) (fuel : Nat) :
    parseValue fuel ('"' :: text) = none := by
  cases fuel with
  | zero => rfl
  | succ fuel =>
      rw [parseValue, skipSpace_cons (by decide)]
      simp only [Char.reduceEq, if_false, if_true]
      rw [parseString, parseScalars_unclosed body]
      rfl

theorem parseMembers_unclosed {key k text s : List Char} (keyed : Body key k)
    (body : Body text s) (fuel : Nat) :
    parseMembers fuel (memberText key ('"' :: text)) = none := by
  cases fuel with
  | zero => rfl
  | succ fuel =>
      rw [← List.append_nil (memberText _ _), memberText_append, List.append_nil, parseMembers,
        expect_self (by decide), Option.bind_some, parseString_body keyed, Option.bind_some]
      dsimp only
      rw [expect_self (by decide), Option.bind_some, parseValue_unclosed body]
      rfl

/-- Members followed by something that is none are refused. -/
theorem parseMembers_refused (fields : List Field) {rest : List Char}
    (refused : ∀ fuel, parseMembers fuel rest = none) (fuel : Nat) :
    parseMembers fuel (printFront fields ++ rest) = none := by
  induction fields generalizing fuel with
  | nil => exact refused fuel
  | cons field fields ih =>
      rw [printFront_cons_append]
      match fuel with
      | 0 => rfl
      | 1 =>
          rw [memberText_append, parseMembers, expect_self (by decide), Option.bind_some,
            parseString_body field.keyed, Option.bind_some]
          dsimp only
          rw [expect_self (by decide), Option.bind_some]
          rfl
      | fuel + 2 =>
          rw [parseMembers_more field.keyed field.writes, ih]
          rfl

/-- An object that breaks off inside a string is refused. -/
theorem jsonObject_unclosed (front : List Field) {key k text s : List Char} (keyed : Body key k)
    (body : Body text s) :
    jsonObject ('\x7b' :: (printFront front ++ memberText key ('"' :: text))) = none := by
  have refused := parseMembers_refused front (parseMembers_unclosed keyed body)
  have notEmpty : expect '\x7d' (printFront front ++ memberText key ('"' :: text)) = none := by
    cases front with
    | nil => exact expect_other (by decide) (by decide) _
    | cons field fields =>
        rw [printFront_cons_append]
        exact expect_other (by decide) (by decide) _
  rw [jsonObject, parseValue, skipSpace_cons (by decide)]
  simp only [if_true]
  rw [notEmpty]
  simp only [refused, Option.map_none]

/-! ## Texts that start inside a string -/

/-- A text that starts between the quotes of a string, up to `tail` at its end or past an
escape. -/
inductive Inside (tail : List Char) : List Char → Prop
  | done : Inside tail tail
  | plain {c : Char} {rest : List Char} :
      IsPlain c → Inside tail rest → Inside tail (c :: rest)
  | escape (rest : List Char) : Inside tail ('\\' :: rest)

/-- Nothing follows, or the string closes and another member begins. -/
def Closes (tail : List Char) : Prop :=
  tail = [] ∨ ∃ c more, tail = '"' :: ',' :: '"' :: c :: more ∧ c ≠ ':' ∧ isSpace c = false

theorem Closes.skipSpace {tail : List Char} (closes : Closes tail) : skipSpace tail = tail := by
  rcases closes with rfl | ⟨c, more, rfl, -⟩ <;> rfl

theorem Inside.skipSpace {tail text : List Char} (inside : Inside tail text)
    (closes : Closes tail) : Inside tail (Json.skipSpace text) := by
  induction inside with
  | done =>
      rw [closes.skipSpace]
      exact .done
  | @plain c rest plain inside ih =>
      cases space : isSpace c with
      | true =>
          rw [Json.skipSpace, List.dropWhile_cons_of_pos space]
          exact ih
      | false =>
          rw [skipSpace_cons space]
          exact .plain plain inside
  | escape rest => exact .escape rest

theorem parseMembers_inside {tail text : List Char} (inside : Inside tail text)
    (closes : Closes tail) (fuel : Nat) : parseMembers fuel text = none := by
  cases fuel with
  | zero => rfl
  | succ fuel =>
      have trimmed := inside.skipSpace closes
      rw [parseMembers, expect]
      generalize skipSpace text = rest at trimmed
      cases trimmed with
      | done =>
          rcases closes with rfl | ⟨c, more, rfl, other, printed⟩
          · rfl
          · have key : parseString (',' :: '"' :: c :: more) = some ([','], c :: more) :=
              parseString_body (body_plain (List.forall_mem_singleton.mpr (by decide))) _
            dsimp only
            rw [if_pos rfl, Option.bind_some, key, Option.bind_some, expect_other printed other]
            rfl
      | plain plain _ =>
          dsimp only
          rw [if_neg plain.1]
          rfl
      | escape rest => rfl

theorem parseNumber_ne_object {text rest : List Char} {members : List (List Char × Value)} :
    parseNumber text ≠ some (.object members, rest) := by
  intro parsed
  simp only [parseNumber, Option.bind_eq_bind] at parsed
  split at parsed
  · cases parsed
  · rw [Option.bind_eq_some_iff] at parsed
    obtain ⟨fraction, -, parsed⟩ := parsed
    rw [Option.bind_eq_some_iff] at parsed
    obtain ⟨exponent, -, parsed⟩ := parsed
    split at parsed <;> cases parsed

theorem parseLiteral_ne_object {literal : String} {value : Value} {text rest : List Char}
    {members : List (List Char × Value)} (other : value ≠ .object members) :
    parseLiteral literal value text ≠ some (.object members, rest) := by
  intro parsed
  rw [parseLiteral] at parsed
  split at parsed
  · cases parsed
    exact other rfl
  · cases parsed

/-- What is read as an object starts with a brace. -/
theorem parseValue_object {fuel : Nat} {text rest : List Char}
    {members : List (List Char × Value)}
    (parsed : parseValue (fuel + 1) text = some (.object members, rest)) :
    ∃ inner, skipSpace text = '\x7b' :: inner ∧
      (members = [] ∨ parseMembers fuel inner = some (members, rest)) := by
  rw [parseValue] at parsed
  cases shape : skipSpace text with
  | nil =>
      rw [shape] at parsed
      cases parsed
  | cons c inner =>
      rw [shape] at parsed
      dsimp only at parsed
      split_ifs at parsed with brace bracket quote isTrue isFalse isNull
      · refine ⟨inner, by rw [brace], ?_⟩
        split at parsed
        · cases parsed
          exact .inl rfl
        · rw [Option.map_eq_some_iff] at parsed
          obtain ⟨⟨found, more⟩, read, same⟩ := parsed
          cases same
          exact .inr read
      · split at parsed
        · cases parsed
        · rw [Option.map_eq_some_iff] at parsed
          obtain ⟨_, _, same⟩ := parsed
          cases same
      · rw [Option.map_eq_some_iff] at parsed
        obtain ⟨_, _, same⟩ := parsed
        cases same
      · exact absurd parsed (parseLiteral_ne_object nofun)
      · exact absurd parsed (parseLiteral_ne_object nofun)
      · exact absurd parsed (parseLiteral_ne_object nofun)
      · exact absurd parsed parseNumber_ne_object

/-- A text that starts inside a string is no object with members. -/
theorem jsonObject_inside {tail text : List Char} (inside : Inside tail text)
    (closes : Closes tail) {members : List (List Char × Value)}
    (parsed : jsonObject text = some (.object members)) : members = [] := by
  have read : ∃ rest, parseValue (text.length + 1) text = some (.object members, rest) := by
    rw [jsonObject] at parsed
    split at parsed
    · rename_i found rest read
      split at parsed
      · cases parsed
        exact ⟨rest, read⟩
      · cases parsed
    · split at parsed <;> cases parsed
    · cases parsed
  obtain ⟨rest, read⟩ := read
  obtain ⟨inner, shape, empty | more⟩ := parseValue_object read
  · exact empty
  · have trimmed := inside.skipSpace closes
    rw [shape] at trimmed
    have within : Inside tail inner := by
      cases trimmed with
      | done => rcases closes with never | ⟨c, more, never, -⟩ <;> cases never
      | plain _ inside => exact inside
    rw [parseMembers_inside within closes] at more
    cases more

end WiredTethering.Json
