import WiredTethering.Memory.Bytes

/-!
# UTF-8 as lists

The encoding of a list of scalars, and its partial inverse.  An ASCII byte never
occurs inside the encoding of another scalar, so a valid text can be cut at any of
its ASCII bytes.
-/

namespace WiredTethering.Text

open WiredTethering.Memory

def utf8 (scalars : List Char) : Bytes :=
  scalars.flatMap String.utf8EncodeChar

/-- The scalars of a valid text. -/
def decodeUtf8 (text : Bytes) : Option (List Char) :=
  text.toByteArray.utf8Decode?.map Array.toList

/-- The bytes encode some scalars. -/
def IsUtf8 (text : Bytes) : Prop :=
  ∃ scalars, utf8 scalars = text

@[simp]
theorem utf8_nil : utf8 [] = [] :=
  rfl

theorem utf8_cons (c : Char) (scalars : List Char) :
    utf8 (c :: scalars) = String.utf8EncodeChar c ++ utf8 scalars :=
  rfl

@[simp]
theorem utf8_append (first second : List Char) :
    utf8 (first ++ second) = utf8 first ++ utf8 second :=
  List.flatMap_append

theorem utf8_toByteArray (scalars : List Char) :
    (utf8 scalars).toByteArray = scalars.utf8Encode :=
  rfl

@[simp]
theorem decodeUtf8_utf8 (scalars : List Char) : decodeUtf8 (utf8 scalars) = some scalars := by
  rw [decodeUtf8, utf8_toByteArray, List.utf8Decode?_utf8Encode]
  rfl

/-- What decodes is the encoding of what it decodes to. -/
theorem utf8_of_decodeUtf8 {text : Bytes} {scalars : List Char}
    (decoded : decodeUtf8 text = some scalars) : utf8 scalars = text := by
  rw [decodeUtf8, Option.map_eq_some_iff] at decoded
  obtain ⟨array, found, rfl⟩ := decoded
  obtain ⟨list, encoded⟩ := ByteArray.isSome_utf8Decode?_iff.mp (by rw [found]; rfl)
  rw [encoded, List.utf8Decode?_utf8Encode] at found
  cases found
  have bytes := congrArg (fun b => b.data.toList) encoded
  rw [← utf8_toByteArray] at bytes
  simpa using bytes.symm

/-- No encoding of a scalar begins another one. -/
theorem encode_append_inj {c d : Char} {rest more : Bytes}
    (same : String.utf8EncodeChar c ++ rest = String.utf8EncodeChar d ++ more) : c = d := by
  have bytes := congrArg List.toByteArray same
  rw [List.toByteArray_append, List.toByteArray_append] at bytes
  have decoded := congrArg (fun b => ByteArray.utf8DecodeChar? b 0) bytes
  rw [ByteArray.utf8DecodeChar?_utf8EncodeChar_append,
    ByteArray.utf8DecodeChar?_utf8EncodeChar_append] at decoded
  exact Option.some.inj decoded

theorem utf8_eq_nil_iff {scalars : List Char} : utf8 scalars = [] ↔ scalars = [] := by
  constructor
  · intro empty
    cases scalars with
    | nil => rfl
    | cons c scalars =>
        have size := congrArg List.length empty
        have positive := c.utf8Size_pos
        rw [utf8_cons, List.length_append, String.length_utf8EncodeChar, List.length_nil] at size
        omega
  · rintro rfl
    rfl

/-- A text that begins with another one goes on with a text. -/
theorem utf8_eq_append {whole first : List Char} {rest : Bytes}
    (text : utf8 whole = utf8 first ++ rest) :
    ∃ more, whole = first ++ more ∧ utf8 more = rest := by
  induction first generalizing whole with
  | nil => exact ⟨whole, rfl, text⟩
  | cons c first ih =>
      rw [utf8_cons, List.append_assoc] at text
      cases whole with
      | nil =>
          have size := congrArg List.length text
          have positive := c.utf8Size_pos
          rw [utf8_nil, List.length_append, String.length_utf8EncodeChar, List.length_nil] at size
          omega
      | cons d whole =>
          rw [utf8_cons] at text
          obtain rfl := encode_append_inj text
          obtain ⟨more, rfl, rest⟩ := ih (List.append_cancel_left text)
          exact ⟨more, rfl, rest⟩

/-! ## ASCII -/

theorem encode_ascii {c : Char} (ascii : c.toNat < 0x80) :
    String.utf8EncodeChar c = [UInt8.ofNat c.toNat] := by
  have small : c.val.toNat ≤ 0x7f := Nat.le_of_lt_succ ascii
  rw [String.utf8EncodeChar, if_pos small]
  rfl

theorem length_utf8_of_ascii {scalars : List Char} (ascii : ∀ c ∈ scalars, c.toNat < 0x80) :
    (utf8 scalars).length = scalars.length := by
  induction scalars with
  | nil => rfl
  | cons c scalars ih =>
      have rest := ih fun d mem => ascii d (List.mem_cons_of_mem c mem)
      rw [utf8_cons, encode_ascii (ascii c (List.mem_cons_self ..)), List.singleton_append,
        List.length_cons, List.length_cons, rest]

/-- All bytes of a scalar outside ASCII have the high bit. -/
theorem high_of_mem {c : Char} (wide : 0x80 ≤ c.toNat) {b : UInt8}
    (mem : b ∈ String.utf8EncodeChar c) : 0x80 ≤ b.toNat := by
  have large : ¬ c.val.toNat ≤ 0x7f := by
    have := wide
    rw [Char.toNat] at this
    omega
  simp only [String.utf8EncodeChar, if_neg large] at mem
  split at mem
  · simp only [List.mem_cons, List.not_mem_nil, or_false] at mem
    rcases mem with rfl | rfl <;> simp only [UInt8.toNat_ofNat'] <;> omega
  · split at mem
    · simp only [List.mem_cons, List.not_mem_nil, or_false] at mem
      rcases mem with rfl | rfl | rfl <;> simp only [UInt8.toNat_ofNat'] <;> omega
    · simp only [List.mem_cons, List.not_mem_nil, or_false] at mem
      rcases mem with rfl | rfl | rfl | rfl <;> simp only [UInt8.toNat_ofNat'] <;> omega

/-- An ASCII byte of a text is the encoding of a scalar of it. -/
theorem mem_of_mem_utf8 {scalars : List Char} {b : UInt8} (ascii : b.toNat < 0x80)
    (mem : b ∈ utf8 scalars) : ∃ c ∈ scalars, c.toNat = b.toNat := by
  obtain ⟨c, mem, inside⟩ := List.mem_flatMap.mp mem
  by_cases narrow : c.toNat < 0x80
  · rw [encode_ascii narrow, List.mem_singleton] at inside
    refine ⟨c, mem, ?_⟩
    have value := congrArg UInt8.toNat inside
    rw [UInt8.toNat_ofNat'] at value
    omega
  · exact absurd (high_of_mem (Nat.le_of_not_lt narrow) inside) (Nat.not_le.mpr ascii)

/-- A text cut at an ASCII byte. -/
theorem split_at_ascii {scalars : List Char} {front back : Bytes} {b : UInt8}
    (ascii : b.toNat < 0x80) (text : utf8 scalars = front ++ b :: back) :
    ∃ before c after, scalars = before ++ c :: after ∧ utf8 before = front ∧
      utf8 after = back := by
  induction scalars generalizing front with
  | nil => exact absurd text.symm (by simp)
  | cons c scalars ih =>
      rw [utf8_cons] at text
      by_cases narrow : c.toNat < 0x80
      · rw [encode_ascii narrow] at text
        cases front with
        | nil => exact ⟨[], c, scalars, rfl, rfl, (List.cons.inj text).2⟩
        | cons first front =>
            rw [List.singleton_append, List.cons_append, List.cons.injEq] at text
            obtain ⟨before, d, after, rfl, atFront, atBack⟩ := ih text.2
            refine ⟨c :: before, d, after, rfl, ?_, atBack⟩
            rw [utf8_cons, encode_ascii narrow, text.1, atFront]
            rfl
      · -- the byte is behind the whole of `c`
        rcases List.append_eq_append_iff.mp text with ⟨more, rfl, rest⟩ | ⟨more, split, rest⟩
        · obtain ⟨before, d, after, rfl, atFront, atBack⟩ := ih rest
          refine ⟨c :: before, d, after, rfl, ?_, atBack⟩
          rw [utf8_cons, atFront]
        · cases more with
          | nil =>
              rw [List.append_nil] at split
              obtain ⟨before, d, after, rfl, atFront, atBack⟩ := @ih [] rest.symm
              refine ⟨c :: before, d, after, rfl, ?_, atBack⟩
              rw [utf8_cons, atFront, split, List.append_nil]
          | cons head more =>
              rw [List.cons_append, List.cons.injEq] at rest
              have inside : b ∈ String.utf8EncodeChar c := by
                rw [split, rest.1]
                simp
              exact absurd (high_of_mem (Nat.le_of_not_lt narrow) inside) (Nat.not_le.mpr ascii)

/-- Behind a text, what makes a text is a text. -/
theorem isUtf8_utf8_append (scalars : List Char) (rest : Bytes) :
    IsUtf8 (utf8 scalars ++ rest) ↔ IsUtf8 rest := by
  constructor
  · rintro ⟨whole, text⟩
    obtain ⟨more, -, valid⟩ := utf8_eq_append text
    exact ⟨more, valid⟩
  · rintro ⟨more, rfl⟩
    exact ⟨scalars ++ more, utf8_append scalars more⟩

/-- In front of an ASCII byte a text ends. -/
theorem isUtf8_append_ascii {b : UInt8} (ascii : b.toNat < 0x80) (front back : Bytes) :
    IsUtf8 (front ++ b :: back) ↔ IsUtf8 front ∧ IsUtf8 (b :: back) := by
  constructor
  · rintro ⟨scalars, text⟩
    obtain ⟨before, c, after, rfl, rfl, rfl⟩ := split_at_ascii ascii text
    rw [utf8_append] at text
    exact ⟨⟨before, rfl⟩, c :: after, List.append_cancel_left text⟩
  · rintro ⟨⟨before, rfl⟩, after, rest⟩
    rw [← rest]
    exact ⟨before ++ after, utf8_append before after⟩

/-- The encoding of a scalar, cut in two, is no text. -/
theorem not_isUtf8_take_encode {c : Char} {n : Nat} (some_ : 0 < n)
    (short : n < (String.utf8EncodeChar c).length) :
    ¬ IsUtf8 ((String.utf8EncodeChar c).take n) := by
  rintro ⟨found, text⟩
  have size := congrArg List.length text
  rw [List.length_take] at size
  cases found with
  | nil =>
      rw [utf8_nil, List.length_nil] at size
      omega
  | cons d found =>
      rw [utf8_cons] at text size
      have begins : String.utf8EncodeChar d ++ (utf8 found ++ (String.utf8EncodeChar c).drop n) =
          String.utf8EncodeChar c ++ [] := by
        rw [← List.append_assoc, text, List.take_append_drop, List.append_nil]
      obtain rfl := encode_append_inj begins
      rw [List.length_append] at size
      omega

end WiredTethering.Text
