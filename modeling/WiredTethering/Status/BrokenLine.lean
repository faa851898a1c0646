import WiredTethering.Status.EngineLine

/-!
# Broken lines

`parseDevices` splits the output at every scalar that Swift takes for a newline.  Three
of them are not escaped: U+0085, U+2028 and U+2029.  A line with one of them in a text
falls into pieces, and no piece is an object with a `type`: the first one breaks off
inside a string, and the others start inside one.
-/

namespace WiredTethering.Status

open WiredTethering.Memory
open WiredTethering.Common
open WiredTethering.Json
open WiredTethering.Text
open WiredTethering.App

/-! ## Lines -/

/-- The devices of a part of the output. -/
def lineDevices (bridge : RealBridge) (raw : List Char) : List USBDevice :=
  (splitLines raw).filterMap (parseDevice bridge)

/-- No scalar of the text separates lines. -/
def Unbroken (text : List Char) : Prop :=
  ∀ c ∈ text, isNewline c = false

theorem unbroken_append_iff {first second : List Char} :
    Unbroken (first ++ second) ↔ Unbroken first ∧ Unbroken second :=
  List.forall_mem_append

variable (bridge : RealBridge)

theorem lineDevices_append (first rest : List Char) {separator : Char}
    (newline : isNewline separator = true) :
    lineDevices bridge (first ++ separator :: rest) =
      lineDevices bridge first ++ lineDevices bridge rest := by
  rw [lineDevices, splitLines, List.splitOnP_append_cons _ _ newline, List.filter_append,
    List.filterMap_append]
  rfl

@[simp]
theorem lineDevices_nil : lineDevices bridge [] = [] :=
  rfl

/-- A line without separators is parsed as it is. -/
theorem lineDevices_unbroken {text : List Char} (unbroken : Unbroken text) :
    lineDevices bridge text = (parseDevice bridge text).toList := by
  rw [lineDevices, splitLines, List.splitOnP_eq_singleton unbroken]
  cases text with
  | nil => rfl
  | cons c text =>
      have kept : [c :: text].filter (fun piece => piece ≠ []) = [c :: text] := rfl
      rw [kept, List.filterMap_cons, List.filterMap_nil]
      cases parseDevice bridge (c :: text) <;> rfl

/-- Whole lines are read one by one. -/
theorem lineDevices_lines (lines : List (List Char)) :
    lineDevices bridge (lines.flatMap fun line => line ++ ['\n']) =
      lines.flatMap (lineDevices bridge) := by
  induction lines with
  | nil => rfl
  | cons line lines ih =>
      rw [List.flatMap_cons, List.append_assoc, List.singleton_append,
        lineDevices_append bridge line _ (by decide), ih, List.flatMap_cons]

/-! ## Pieces of a broken line -/

theorem parseDevice_inside {tail text : List Char} (inside : Inside tail text)
    (closes : Closes tail) : parseDevice bridge text = none := by
  rw [parseDevice]
  split
  · rename_i obj parsed
    rw [jsonObject_inside inside closes parsed]
    rfl
  · rfl

/-- Every text with `head` in front is in a string that closes before another member. -/
def StartsInside (head : List Char) : Prop :=
  ∀ rest, ∃ tail, Closes tail ∧ Inside tail (head ++ rest)

/-- What follows an open string yields no device. -/
def Mute (after : List Char) : Prop :=
  ∀ head, Unbroken head → StartsInside head → lineDevices bridge (head ++ after) = []

theorem mute_unbroken {after : List Char} (unbroken : Unbroken after) : Mute bridge after := by
  intro head open_ starts
  obtain ⟨tail, closes, inside⟩ := starts after
  rw [lineDevices_unbroken bridge (unbroken_append_iff.mpr ⟨open_, unbroken⟩),
    parseDevice_inside bridge inside closes]
  rfl

/-- A scalar that separates lines and is not escaped. -/
def Breaks (c : Char) : Prop :=
  c.toNat = 0x85 ∨ c.toNat = 0x2028 ∨ c.toNat = 0x2029

instance (c : Char) : Decidable (Breaks c) :=
  inferInstanceAs (Decidable (_ ∨ _))

/-- No scalar of the string breaks its line. -/
def Clean (scalars : List Char) : Prop :=
  ∀ c ∈ scalars, ¬ Breaks c

instance (scalars : List Char) : Decidable (Clean scalars) :=
  inferInstanceAs (Decidable (∀ c ∈ scalars, ¬ Breaks c))

theorem isNewline_iff {c : Char} (printed : 0x20 ≤ c.toNat) :
    isNewline c = true ↔ Breaks c := by
  rw [isNewline, decide_eq_true_eq, Breaks]
  constructor
  · rintro (control | breaks)
    · omega
    · exact breaks
  · exact .inr

theorem unbroken_of_clean {text : List Char} (printed : Printed text) (clean : Clean text) :
    Unbroken text := by
  intro c mem
  by_contra newline
  rw [Bool.not_eq_false, isNewline_iff (printed c mem)] at newline
  exact clean c mem newline

theorem clean_of_ascii {text : List Char} (ascii : ∀ c ∈ text, c.toNat < 0x80) : Clean text := by
  intro c mem breaks
  have small := ascii c mem
  rw [Breaks] at breaks
  omega

theorem clean_append_iff {first second : List Char} :
    Clean (first ++ second) ↔ Clean first ∧ Clean second :=
  List.forall_mem_append

theorem escapeScalar_breaks {c : Char} (breaks : Breaks c) : escapeScalar c = [c] := by
  rw [Breaks] at breaks
  apply escapeScalar_of_le
  · rintro rfl
    exact absurd breaks (by decide)
  · rintro rfl
    exact absurd breaks (by decide)
  · omega

/-- A unit is ASCII or the scalar itself. -/
theorem mem_escapeScalar {c d : Char} (mem : c ∈ escapeScalar d) : c.toNat < 0x80 ∨ c = d := by
  have hex : ∀ n < 16, (hexChar n).toNat < 0x80 := by decide
  rw [escapeScalar] at mem
  split_ifs at mem
  all_goals simp only [List.mem_cons, List.not_mem_nil, or_false] at mem
  · rcases mem with rfl | rfl <;> exact .inl (by decide)
  · rcases mem with rfl | rfl <;> exact .inl (by decide)
  · rcases mem with rfl | rfl <;> exact .inl (by decide)
  · rcases mem with rfl | rfl <;> exact .inl (by decide)
  · rcases mem with rfl | rfl <;> exact .inl (by decide)
  · rcases mem with rfl | rfl | rfl | rfl | rfl | rfl
    · exact .inl (by decide)
    · exact .inl (by decide)
    · exact .inl (by decide)
    · exact .inl (by decide)
    · exact .inl (hex _ (by omega))
    · exact .inl (hex _ (by omega))
  · exact .inr mem

theorem clean_escapedScalars {scalars : List Char} (clean : Clean scalars) :
    Clean (escapedScalars scalars) := by
  intro c mem breaks
  obtain ⟨d, inside, mem⟩ := List.mem_flatMap.mp mem
  rcases mem_escapeScalar mem with ascii | rfl
  · rw [Breaks] at breaks
    omega
  · exact clean c inside breaks

/-- A clean string stays on its line. -/
theorem unbroken_escapedScalars {scalars : List Char} (clean : Clean scalars) :
    Unbroken (escapedScalars scalars) :=
  unbroken_of_clean (printed_escapedScalars scalars) (clean_escapedScalars clean)

theorem clean_quoted {text : List Char} (clean : Clean text) : Clean ('"' :: text ++ ['"']) := by
  have quote : Clean ['"'] := by decide
  exact clean_append_iff.mpr ⟨clean_append_iff.mpr ⟨quote, clean⟩, quote⟩

theorem clean_memberText {key text : List Char} (cleanKey : Clean key) (clean : Clean text) :
    Clean (memberText key text) := by
  have colon : Clean [':'] := by decide
  have shape : memberText key text = '"' :: key ++ ['"'] ++ ([':'] ++ text) := by
    simp [memberText]
  rw [shape]
  exact clean_append_iff.mpr ⟨clean_quoted cleanKey, clean_append_iff.mpr ⟨colon, clean⟩⟩

theorem clean_toDigits (n : Nat) : Clean (Nat.toDigits 10 n) := by
  apply clean_of_ascii
  intro c mem
  have digit := Nat.isDigit_of_mem_toDigits (by decide) (by decide) mem
  simp only [Char.isDigit, Bool.and_eq_true, decide_eq_true_eq] at digit
  have below : c.toNat ≤ 57 := digit.2
  omega

theorem clean_stringField {key : String} {scalars : List Char}
    (plain : ∀ c ∈ key.toList, IsPlain c) (cleanKey : Clean key.toList) (clean : Clean scalars) :
    Clean (stringField key scalars plain).print :=
  clean_memberText cleanKey (clean_quoted (clean_escapedScalars clean))

theorem clean_natField {key : String} (n : Nat) (plain : ∀ c ∈ key.toList, IsPlain c)
    (cleanKey : Clean key.toList) : Clean (natField key n plain).print :=
  clean_memberText cleanKey (clean_toDigits n)

theorem clean_wordField {key : String} {word : List Char} (plain : ∀ c ∈ key.toList, IsPlain c)
    (plainWord : ∀ c ∈ word, IsPlain c) (cleanKey : Clean key.toList) (clean : Clean word) :
    Clean (wordField key word plain plainWord).print :=
  clean_memberText cleanKey (clean_quoted clean)

theorem clean_printFront {fields : List Field} (clean : ∀ field ∈ fields, Clean field.print) :
    Clean (printFront fields) := by
  have comma : Clean [','] := by decide
  intro c mem
  obtain ⟨field, mem, inside⟩ := List.mem_flatMap.mp mem
  exact clean_append_iff.mpr ⟨clean field mem, comma⟩ c inside

theorem clean_objectText {front : List Field} {last : Field}
    (cleanFront : ∀ field ∈ front, Clean field.print) (cleanLast : Clean last.print) :
    Clean (objectText front last) := by
  have opening : Clean ['\x7b'] := by decide
  have closing : Clean ['\x7d'] := by decide
  exact clean_append_iff.mpr ⟨opening, clean_append_iff.mpr ⟨clean_printFront cleanFront,
    clean_append_iff.mpr ⟨cleanLast, closing⟩⟩⟩

/-- A string that is not clean, cut at the first scalar that breaks its line. -/
theorem exists_break {scalars : List Char} (broken : ¬ Clean scalars) :
    ∃ before c after, scalars = before ++ c :: after ∧ Clean before ∧ Breaks c := by
  induction scalars with
  | nil => exact absurd (fun c mem => absurd mem List.not_mem_nil) broken
  | cons d scalars ih =>
      by_cases breaks : Breaks d
      · exact ⟨[], d, scalars, rfl, fun c mem => absurd mem List.not_mem_nil, breaks⟩
      · have later : ¬ Clean scalars := by
          intro clean
          apply broken
          intro c mem
          rcases List.mem_cons.mp mem with rfl | mem
          · exact breaks
          · exact clean c mem
        obtain ⟨before, c, after, rfl, clean, here⟩ := ih later
        refine ⟨d :: before, c, after, rfl, ?_, here⟩
        intro e mem
        rcases List.mem_cons.mp mem with rfl | mem
        · exact breaks
        · exact clean e mem

theorem escapedScalars_break {before after : List Char} {c : Char} (breaks : Breaks c) :
    escapedScalars (before ++ c :: after) =
      escapedScalars before ++ c :: escapedScalars after := by
  rw [escapedScalars, List.flatMap_append, List.flatMap_cons, escapeScalar_breaks breaks]
  rfl

theorem isNewline_of_breaks {c : Char} (breaks : Breaks c) : isNewline c = true := by
  rw [isNewline_iff]
  · exact breaks
  · rw [Breaks] at breaks
    omega

/-- The units of a string are inside it. -/
theorem inside_escapedScalars {tail : List Char} (scalars rest : List Char)
    (inside : Inside tail rest) : Inside tail (escapedScalars scalars ++ rest) := by
  induction scalars with
  | nil => exact inside
  | cons c scalars ih =>
      rw [escapedScalars, List.flatMap_cons, List.append_assoc, escapeScalar]
      split_ifs with quote backslash newline return_ tab control
      · exact .escape _
      · exact .escape _
      · exact .escape _
      · exact .escape _
      · exact .escape _
      · exact .escape _
      · exact .plain ⟨quote, backslash, Nat.le_of_not_lt control⟩ ih

/-- The end of a string and the start of the next key. -/
def nextKey (c : Char) : List Char :=
  ['"', ',', '"', c]

/-- A first letter of a key. -/
def IsKeyStart (c : Char) : Prop :=
  c ≠ ':' ∧ isSpace c = false ∧ isNewline c = false

instance (c : Char) : Decidable (IsKeyStart c) :=
  inferInstanceAs (Decidable (_ ∧ _))

theorem unbroken_nextKey {c : Char} (start : IsKeyStart c) : Unbroken (nextKey c) := by
  have fixed : ∀ d ∈ ['"', ',', '"'], isNewline d = false := by decide
  intro d mem
  rcases List.mem_append.mp (show d ∈ ['"', ',', '"'] ++ [c] from mem) with mem | mem
  · exact fixed d mem
  · rw [List.mem_singleton.mp mem]
    exact start.2.2

theorem startsInside_string {c : Char} (start : IsKeyStart c) (scalars : List Char) :
    StartsInside (escapedScalars scalars ++ nextKey c) := by
  intro rest
  refine ⟨nextKey c ++ rest, .inr ⟨c, rest, rfl, start.1, start.2.1⟩, ?_⟩
  rw [List.append_assoc]
  exact inside_escapedScalars scalars _ .done

theorem StartsInside.append {head : List Char} (starts : StartsInside head) (more : List Char) :
    StartsInside (head ++ more) := by
  intro rest
  rw [List.append_assoc]
  exact starts (more ++ rest)

/-- An open string, the rest of whose line is mute, yields no device. -/
theorem string_mute {c : Char} (start : IsKeyStart c) {after : List Char}
    (mute : Mute bridge after) (scalars : List Char) :
    lineDevices bridge (escapedScalars scalars ++ (nextKey c ++ after)) = [] := by
  induction length : scalars.length using Nat.strongRecOn generalizing scalars with
  | _ n ih =>
      by_cases clean : Clean scalars
      · rw [← List.append_assoc]
        apply mute _ _ (startsInside_string start scalars)
        exact unbroken_append_iff.mpr
          ⟨unbroken_escapedScalars clean, unbroken_nextKey start⟩
      · obtain ⟨before, d, rest, rfl, clean, breaks⟩ := exists_break clean
        have first : lineDevices bridge (escapedScalars before) = [] := by
          rw [lineDevices_unbroken bridge (unbroken_escapedScalars clean)]
          have inside := inside_escapedScalars before [] .done
          rw [List.append_nil] at inside
          rw [parseDevice_inside bridge inside (.inl rfl)]
          rfl
        have shorter : rest.length < n := by
          rw [← length, List.length_append, List.length_cons]
          omega
        rw [escapedScalars_break breaks, List.append_assoc, List.cons_append,
          lineDevices_append bridge _ _ (isNewline_of_breaks breaks), first,
          ih rest.length shorter rest rfl]
        rfl

/-- A member with a string keeps what follows mute. -/
theorem mute_string {c : Char} (start : IsKeyStart c) {between after : List Char}
    (unbroken : Unbroken between) (mute : Mute bridge after) (scalars : List Char) :
    Mute bridge (between ++ (escapedScalars scalars ++ (nextKey c ++ after))) := by
  intro head open_ starts
  have front := unbroken_append_iff.mpr ⟨open_, unbroken⟩
  have inside := (starts.append between)
  rw [← List.append_assoc]
  by_cases clean : Clean scalars
  · have whole := unbroken_append_iff.mpr ⟨front, unbroken_escapedScalars clean⟩
    have shape : head ++ between ++ (escapedScalars scalars ++ (nextKey c ++ after)) =
        head ++ between ++ escapedScalars scalars ++ nextKey c ++ after := by
      simp only [List.append_assoc]
    rw [shape]
    apply mute
    · exact unbroken_append_iff.mpr ⟨whole, unbroken_nextKey start⟩
    · exact (inside.append _).append _
  · obtain ⟨before, d, rest, rfl, clean, breaks⟩ := exists_break clean
    have first : lineDevices bridge (head ++ between ++ escapedScalars before) = [] := by
      have whole := unbroken_append_iff.mpr ⟨front, unbroken_escapedScalars clean⟩
      obtain ⟨tail, closes, inside⟩ := inside.append (escapedScalars before) []
      rw [List.append_nil] at inside
      rw [lineDevices_unbroken bridge whole, parseDevice_inside bridge inside closes]
      rfl
    have shape : head ++ between ++ (escapedScalars (before ++ d :: rest) ++
        (nextKey c ++ after)) =
          head ++ between ++ escapedScalars before ++
            d :: (escapedScalars rest ++ (nextKey c ++ after)) := by
      rw [escapedScalars_break breaks]
      simp only [List.append_assoc, List.cons_append]
    rw [shape, lineDevices_append bridge _ _ (isNewline_of_breaks breaks), first,
      string_mute bridge start mute rest]
    rfl

/-- The front of an object up to a string. -/
theorem unbroken_opening {key : String} (plain : ∀ d ∈ key.toList, IsPlain d)
    (cleanKey : Clean key.toList) {front : List Field}
    (printed : ∀ field ∈ front, Printed field.print)
    (clean : ∀ field ∈ front, Clean field.print) :
    Unbroken ('\x7b' :: (printFront front ++ memberText key.toList ['"'])) := by
  have opening : ∀ c ∈ ['\x7b'], isNewline c = false := by decide
  have quoteClean : Clean ['"'] := by decide
  have quotePrinted : ∀ c ∈ ['"'], 0x20 ≤ c.toNat := by decide
  have fields := unbroken_of_clean (printed_printFront printed) (clean_printFront clean)
  have member := unbroken_of_clean
    (printed_memberText (printed_of_plain plain) quotePrinted)
    (clean_memberText cleanKey quoteClean)
  exact unbroken_append_iff.mpr ⟨opening, unbroken_append_iff.mpr ⟨fields, member⟩⟩

/-- A line that breaks in one of its strings yields no device. -/
theorem broken_string {c : Char} (start : IsKeyStart c) {front : List Field} {key : String}
    (plain : ∀ d ∈ key.toList, IsPlain d)
    (unbroken : Unbroken ('\x7b' :: (printFront front ++ memberText key.toList ['"'])))
    {after : List Char} (mute : Mute bridge after) {scalars : List Char}
    (broken : ¬ Clean scalars) :
    lineDevices bridge ('\x7b' :: (printFront front ++ memberText key.toList ['"'] ++
      (escapedScalars scalars ++ (nextKey c ++ after)))) = [] := by
  obtain ⟨before, d, rest, rfl, clean, breaks⟩ := exists_break broken
  have unclosed := jsonObject_unclosed front (body_plain plain) (body_escapedScalars before)
  have shape : '\x7b' :: (printFront front ++ memberText key.toList ('"' :: escapedScalars before)) =
      '\x7b' :: (printFront front ++ memberText key.toList ['"']) ++ escapedScalars before := by
    simp [memberText]
  have first : lineDevices bridge ('\x7b' :: (printFront front ++ memberText key.toList ['"']) ++
      escapedScalars before) = [] := by
    rw [lineDevices_unbroken bridge
      (unbroken_append_iff.mpr ⟨unbroken, unbroken_escapedScalars clean⟩), ← shape, parseDevice,
      unclosed]
    rfl
  have cut : '\x7b' :: (printFront front ++ memberText key.toList ['"'] ++
      (escapedScalars (before ++ d :: rest) ++ (nextKey c ++ after))) =
        '\x7b' :: (printFront front ++ memberText key.toList ['"']) ++ escapedScalars before ++
          d :: (escapedScalars rest ++ (nextKey c ++ after)) := by
    rw [escapedScalars_break breaks]
    simp only [List.append_assoc, List.cons_append]
  rw [cut, lineDevices_append bridge _ _ (isNewline_of_breaks breaks), first,
    string_mute bridge start mute rest]
  rfl

end WiredTethering.Status
