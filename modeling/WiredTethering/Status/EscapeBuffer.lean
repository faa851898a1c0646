import WiredTethering.Json.Bytes
import WiredTethering.Status.Escape

/-!
# `at_json_escape` in its buffer

The loop stores every unit behind the last one and terminates what it has written when
the source ends or a unit does not fit.  What stands in the buffer afterwards is the
text of `atJsonEscape`, which unescapes to the source or to a front of it.
-/

namespace WiredTethering.Status

open WiredTethering.Memory
open WiredTethering.Common
open WiredTethering.Json

/-- The loop of `at_json_escape`, from the source byte `p` and with `o` bytes written. -/
def escapeStores (dstLen : Nat) : Bytes → Bytes → Nat → Bytes × Int
  | [], dst, o => (overwrite dst o [0], 0)
  | p :: rest, dst, o =>
      if p = 0 then (overwrite dst o [0], 0)
      else
        match replacement p with
        | some rep =>
            let n := rep.length
            if o + n + 1 ≥ dstLen then (overwrite dst o [0], -1)
            else escapeStores dstLen rest (overwrite dst o rep) (o + n)
        | none =>
            if o + 2 ≥ dstLen then (overwrite dst o [0], -1)
            else escapeStores dstLen rest (overwrite dst o [p]) (o + 1)

/-- `at_json_escape` on the buffer `dst`: the buffer afterwards, and the return value. -/
def atJsonEscapeStores (src dst : Bytes) (dstLen : Nat) : Bytes × Int :=
  if dstLen = 0 then (dst, -1) else escapeStores dstLen src dst 0

/-- The C string at the start of a buffer. -/
def cString (buf : Bytes) : Bytes :=
  buf.takeWhile (· ≠ 0)

theorem cString_terminated {text : Bytes} (free : 0 ∉ text) (rest : Bytes) :
    cString (text ++ 0 :: rest) = text := by
  have bytes : ∀ b ∈ text, decide (b ≠ 0) = true := by
    intro b mem
    apply decide_eq_true
    rintro rfl
    exact free mem
  rw [cString, List.takeWhile_append_of_pos bytes,
    List.takeWhile_cons_of_neg (by decide), List.append_nil]

/-! ## The stores build the text -/

theorem escapeStores_cons {p : UInt8} (nonzero : p ≠ 0) (dstLen : Nat) (rest dst : Bytes)
    (o : Nat) :
    escapeStores dstLen (p :: rest) dst o =
      if o + (escapeByte p).length + 1 ≥ dstLen then (overwrite dst o [0], -1)
      else escapeStores dstLen rest (overwrite dst o (escapeByte p)) (o + (escapeByte p).length) := by
  rw [escapeStores, if_neg nonzero, escapeByte]
  cases replacement p with
  | none => rfl
  | some rep => rfl

/-- What is stored behind the front of a buffer. -/
theorem overwrite_behind (front back src : Bytes) :
    overwrite (front ++ back) front.length src = front ++ src ++ back.drop src.length := by
  have stored := overwrite_append_right front back src 0
  rw [Nat.add_zero] at stored
  rw [stored, overwrite, List.take_zero, List.nil_append, Nat.zero_add, List.append_assoc]

/-- The terminator behind what is written. -/
theorem overwrite_terminator (front back : Bytes) :
    overwrite (front ++ back) front.length [0] =
      front ++ 0 :: back.drop (front.length + 1 - front.length) := by
  rw [overwrite_behind, Nat.add_sub_cancel_left, List.append_assoc]
  rfl

/-- From `front` on, the stores write the text of the loop and a terminator, and leave
what is behind it. -/
theorem escapeStores_eq {dstLen : Nat} {src : Bytes} (free : 0 ∉ src) {front : Bytes}
    (room : front.length < dstLen) (back : Bytes) :
    ∃ text rc, escapeLoop dstLen front src = (text, rc) ∧
      front.length ≤ text.length ∧ text.length < dstLen ∧
      escapeStores dstLen src (front ++ back) front.length =
        (text ++ 0 :: back.drop (text.length + 1 - front.length), rc) := by
  induction src generalizing front back with
  | nil =>
      refine ⟨front, 0, rfl, Nat.le_refl _, room, ?_⟩
      rw [escapeStores, overwrite_terminator]
  | cons p src ih =>
      rw [List.mem_cons, not_or] at free
      rw [escapeLoop_cons, escapeStores_cons (Ne.symm free.1)]
      by_cases full : front.length + (escapeByte p).length + 1 ≥ dstLen
      · rw [if_pos full, if_pos full, overwrite_terminator]
        exact ⟨front, -1, rfl, Nat.le_refl _, room, rfl⟩
      · rw [if_neg full, if_neg full, overwrite_behind, ← List.length_append]
        obtain ⟨text, rc, loop, longer, within, stores⟩ := @ih free.2 (front ++ escapeByte p)
          (by rw [List.length_append]; omega) (back.drop (escapeByte p).length)
        refine ⟨text, rc, loop, ?_, within, ?_⟩
        · rw [List.length_append] at longer
          omega
        · rw [stores, List.drop_drop]
          rw [List.length_append] at longer ⊢
          have skip : (escapeByte p).length +
              (text.length + 1 - (front.length + (escapeByte p).length)) =
                text.length + 1 - front.length := by omega
          rw [skip]

/-- The text is the escaped form of a front of the source, of all of it when 0 is
returned. -/
theorem escapeLoop_front (dstLen : Nat) (dst src : Bytes) :
    ∃ front rc, escapeLoop dstLen dst src = (dst ++ escaped front, rc) ∧ front <+: src ∧
      (rc = 0 ∧ front = src ∨ rc = -1) := by
  induction src generalizing dst with
  | nil =>
      refine ⟨[], 0, ?_, List.nil_prefix, Or.inl ⟨rfl, rfl⟩⟩
      rw [escapeLoop, escaped_nil, List.append_nil]
  | cons p src ih =>
      rw [escapeLoop_cons]
      by_cases full : dst.length + (escapeByte p).length + 1 ≥ dstLen
      · rw [if_pos full]
        refine ⟨[], -1, ?_, List.nil_prefix, Or.inr rfl⟩
        rw [escaped_nil, List.append_nil]
      · rw [if_neg full]
        obtain ⟨front, rc, loop, begins, returned⟩ := ih (dst ++ escapeByte p)
        refine ⟨p :: front, rc, ?_, (List.prefix_cons_inj p).mpr begins, ?_⟩
        · rw [loop, escaped_cons, List.append_assoc]
        · rcases returned with ⟨zero, rfl⟩ | minus
          · exact Or.inl ⟨zero, rfl⟩
          · exact Or.inr minus

/-! ## The escaped form is read back -/

theorem escapeByte_ascii {p : UInt8} (low : p.toNat < 0x80) :
    (escapeByte p).map byteChar = escapeScalar (byteChar p) ∧
      String.utf8EncodeChar (byteChar p) = [p] ∧ ∀ b ∈ escapeByte p, b.toNat < 0x80 := by
  have all : ∀ n < 0x80, (escapeByte (UInt8.ofNat n)).map byteChar =
        escapeScalar (byteChar (UInt8.ofNat n)) ∧
      String.utf8EncodeChar (byteChar (UInt8.ofNat n)) = [UInt8.ofNat n] ∧
        ∀ b ∈ escapeByte (UInt8.ofNat n), b.toNat < 0x80 := by decide +kernel
  have here := all p.toNat low
  rwa [UInt8.ofNat_toNat] at here

theorem unescapeUnit_escapeByte (p : UInt8) (rest : Bytes) :
    unescapeUnit (escapeByte p ++ rest) = some ([p], rest) := by
  by_cases high : 0x80 ≤ p.toNat
  · rw [escapeByte_of_high high]
    exact unescapeUnit_high (UInt8.le_iff_toNat_le.mpr high) rest
  · obtain ⟨scalars, bytes, ascii⟩ := escapeByte_ascii (Nat.lt_of_not_le high)
    have parsed := spells_escapeScalar (byteChar p) (rest.map byteChar)
    rw [← scalars] at parsed
    cases unit : escapeByte p with
    | nil => exact absurd unit (escapeByte_ne_nil p)
    | cons b tail =>
        rw [unit] at parsed ascii
        have low : ¬ 0x80 ≤ b := by
          rw [UInt8.le_iff_toNat_le]
          exact Nat.not_le.mpr (ascii b (List.mem_cons_self ..))
        rw [← bytes]
        exact unescapeUnit_low low parsed

theorem unescape_escaped (src : Bytes) : unescape (escaped src) = some src :=
  unescape_flatMap escapeByte_ne_nil unescapeUnit_escapeByte src

theorem isHexByte_hex4 {p : UInt8} (control : p < 0x20) : ∀ d ∈ hex4 p, isHexByte d = true := by
  have all : ∀ n < 0x20, ∀ d ∈ hex4 (UInt8.ofNat n), isHexByte d = true := by decide +kernel
  have here := all p.toNat (UInt8.lt_iff_toNat_lt.mp control)
  rwa [UInt8.ofNat_toNat] at here

theorem wellQuoted_escapeByte (p : UInt8) {text : Bytes} (well : WellQuoted text) :
    WellQuoted (escapeByte p ++ text) := by
  rw [escapeByte, replacement]
  split_ifs with quote backslash newline return_ tab control
  · exact .simple (by decide) well
  · exact .simple (by decide) well
  · exact .simple (by decide) well
  · exact .simple (by decide) well
  · exact .simple (by decide) well
  · have opens : cstr "\\u" = [0x5c, 0x75] := by decide
    have digits : (hex4 p).length = 4 := rfl
    have unit : cstr "\\u" ++ hex4 p ++ text = 0x5c :: 0x75 :: (hex4 p ++ text) := by
      rw [opens, List.append_assoc]
      rfl
    rw [Option.getD_some, unit]
    exact .unicode digits (isHexByte_hex4 control) well
  · exact .plain (UInt8.not_lt.mp control) quote backslash well

theorem wellQuoted_escaped (src : Bytes) : WellQuoted (escaped src) := by
  induction src with
  | nil => exact .nil
  | cons p src ih =>
      rw [escaped_cons]
      exact wellQuoted_escapeByte p ih

/-- **`at_json_escape`.**  Whatever the source and the buffer: the buffer holds a
terminated string that may stand between quotes and unescapes to the source, or to a
front of it when -1 is returned; and 0 is returned when the escaped form leaves a byte
to spare. -/
theorem atJsonEscape_faithful {src dst : Bytes} {dstLen : Nat} (free : 0 ∉ src)
    (room : 1 ≤ dstLen) (sized : dstLen ≤ dst.length) :
    ∃ text rest rc, atJsonEscapeStores src dst dstLen = (text ++ 0 :: rest, rc) ∧
      cString (text ++ 0 :: rest) = text ∧ text.length < dstLen ∧
      (text ++ 0 :: rest).length = dst.length ∧
      (text ++ 0 :: rest).drop dstLen = dst.drop dstLen ∧
      (∀ b ∈ text, 0x20 ≤ b) ∧ WellQuoted text ∧
      (rc = 0 ∧ unescape text = some src ∨
        rc = -1 ∧ ∃ front, front <+: src ∧ unescape text = some front) ∧
      ((escaped src).length + 2 ≤ dstLen → rc = 0) := by
  obtain ⟨text, rc, loop, -, within, stores⟩ := @escapeStores_eq dstLen src free [] room dst
  rw [List.nil_append, List.length_nil, Nat.sub_zero] at stores
  obtain ⟨front, rc', looped, begins, returned⟩ := escapeLoop_front dstLen [] src
  rw [loop, List.nil_append, Prod.mk.injEq] at looped
  obtain ⟨rfl, rfl⟩ := looped
  have well := wellQuoted_escaped front
  have free' : 0 ∉ escaped front := by
    intro mem
    exact absurd (well.printed 0 mem) (by decide)
  refine ⟨escaped front, dst.drop ((escaped front).length + 1), rc, ?_, cString_terminated free' _,
    within, ?_, ?_, well.printed, well, ?_, ?_⟩
  · rw [atJsonEscapeStores, if_neg (by omega)]
    exact stores
  · rw [List.length_append, List.length_cons, List.length_drop]
    omega
  · have split : escaped front ++ 0 :: dst.drop ((escaped front).length + 1) =
        (escaped front ++ [0]) ++ dst.drop ((escaped front).length + 1) := by simp
    rw [split, List.drop_append, List.drop_of_length_le, List.nil_append, List.drop_drop]
    · rw [List.length_append, List.length_singleton]
      congr 1
      omega
    · rw [List.length_append, List.length_singleton]
      exact within
  · rcases returned with ⟨zero, rfl⟩ | minus
    · exact Or.inl ⟨zero, unescape_escaped front⟩
    · exact Or.inr ⟨minus, front, begins, unescape_escaped front⟩
  · intro spare
    have whole := @escapeLoop_spare dstLen [] src (by rw [List.length_nil]; omega)
    rw [loop, Prod.mk.injEq] at whole
    exact whole.2

/-- `h` of `hello` in three bytes. -/
theorem atJsonEscape_faithful_short :
    ∃ text rest rc, atJsonEscapeStores (cstr "hello") (cstr "ZZZZ") 3 = (text ++ 0 :: rest, rc) ∧
      text.length < 3 := by
  obtain ⟨text, rest, rc, stored, -, within, -⟩ :=
    @atJsonEscape_faithful (cstr "hello") (cstr "ZZZZ") 3 (by decide) (by decide) (by decide)
  exact ⟨text, rest, rc, stored, within⟩

end WiredTethering.Status
