import WiredTethering.App.AcceptLoop
import WiredTethering.Status.DeviceList
import WiredTethering.Status.EscapeBuffer

/-!
# Lines with a scalar cut in two

`at_json_escape` stops at the first unit that does not fit.  A scalar outside ASCII is
several units, so it may stop inside one; then the array is no text, the line is none,
and the session that reads it drops it.
-/

namespace WiredTethering.Status

open WiredTethering.Memory
open WiredTethering.Common
open WiredTethering.Text
open WiredTethering.App

/-! ## Where the loop stops -/

/-- Behind `used` bytes the first byte of a scalar outside ASCII has room, the last has none. -/
def CutsBehind (used size : Nat) (scalars : List Char) : Prop :=
  ∃ before c after, scalars = before ++ c :: after ∧ 0x80 ≤ c.toNat ∧
    used + (escaped (utf8 before)).length + 3 ≤ size ∧
    size < used + (escaped (utf8 before)).length + c.utf8Size + 2

/-- The end of an array of `size` bytes falls inside a scalar. -/
def CutsScalar (size : Nat) (scalars : List Char) : Prop :=
  CutsBehind 0 size scalars

theorem cutsBehind_cons (used size : Nat) (c : Char) (scalars : List Char) :
    CutsBehind used size (c :: scalars) ↔
      0x80 ≤ c.toNat ∧ used + 3 ≤ size ∧ size < used + c.utf8Size + 2 ∨
        CutsBehind (used + (escaped (String.utf8EncodeChar c)).length) size scalars := by
  constructor
  · rintro ⟨before, d, after, split, wide, first, last⟩
    cases before with
    | nil =>
        rw [List.nil_append, List.cons.injEq] at split
        obtain ⟨rfl, rfl⟩ := split
        exact Or.inl ⟨wide, first, last⟩
    | cons e before =>
        rw [List.cons_append, List.cons.injEq] at split
        obtain ⟨rfl, rfl⟩ := split
        rw [utf8_cons, escaped_append, List.length_append, ← Nat.add_assoc] at first last
        exact Or.inr ⟨before, d, after, rfl, wide, first, last⟩
  · rintro (⟨wide, first, last⟩ | ⟨before, d, after, rfl, wide, first, last⟩)
    · exact ⟨[], c, scalars, rfl, wide, first, last⟩
    · refine ⟨c :: before, d, after, rfl, wide, ?_⟩
      rw [utf8_cons, escaped_append, List.length_append, ← Nat.add_assoc]
      exact ⟨first, last⟩

/-- Bytes outside ASCII are stored one by one, as far as they have room. -/
theorem escapeLoop_high {size : Nat} {bytes : Bytes} (some_ : bytes ≠ [])
    (high : ∀ b ∈ bytes, 0x80 ≤ b.toNat) (dst rest : Bytes) :
    escapeLoop size dst (bytes ++ rest) =
      if dst.length + bytes.length + 2 ≤ size then escapeLoop size (dst ++ bytes) rest
      else (dst ++ bytes.take (size - 2 - dst.length), -1) := by
  induction bytes generalizing dst with
  | nil => exact absurd rfl some_
  | cons b bytes ih =>
      rw [List.forall_mem_cons] at high
      rw [List.cons_append, escapeLoop_cons, escapeByte_of_high high.1, List.length_singleton,
        List.length_cons]
      by_cases full : dst.length + 1 + 1 ≥ size
      · have none_ : size - 2 - dst.length = 0 := by omega
        rw [if_pos full, if_neg (by omega), none_, List.take_zero, List.append_nil]
      · rw [if_neg full]
        cases bytes with
        | nil =>
            rw [if_pos (by rw [List.length_nil]; omega)]
            rfl
        | cons d bytes =>
            have more : size - 2 - dst.length = (size - 2 - (dst ++ [b]).length) + 1 := by
              rw [List.length_append, List.length_singleton]
              omega
            rw [ih (List.cons_ne_nil d bytes) high.2, more, List.take_succ_cons, List.append_assoc,
              List.append_assoc, List.length_append, List.length_singleton]
            congr 1
            apply propext
            omega

/-- The loop does not stop inside an ASCII character. -/
theorem isUtf8_escapeLoop_narrow {size : Nat} {c : Char} {scalars : List Char} {dst : Bytes}
    (valid : IsUtf8 dst) (narrow : c.toNat < 0x80)
    (later : IsUtf8 (escapeLoop size (dst ++ escaped (String.utf8EncodeChar c)) (utf8 scalars)).1 ↔
      ¬ CutsBehind (dst.length + (escaped (String.utf8EncodeChar c)).length) size scalars) :
    IsUtf8 (escapeLoop size dst (utf8 (c :: scalars))).1 ↔
      ¬ CutsBehind dst.length size (c :: scalars) := by
  have notWide : ¬ 0x80 ≤ c.toNat := Nat.not_le.mpr narrow
  have unit : escaped (String.utf8EncodeChar c) = escapeByte (UInt8.ofNat c.toNat) := by
    rw [encode_ascii narrow, escaped_cons, escaped_nil, List.append_nil]
  rw [utf8_cons, cutsBehind_cons, not_or]
  rw [unit] at later ⊢
  rw [encode_ascii narrow, List.singleton_append, escapeLoop_cons]
  by_cases full : dst.length + (escapeByte (UInt8.ofNat c.toNat)).length + 1 ≥ size
  · rw [if_pos full]
    refine ⟨fun _ => ⟨fun cut => notWide cut.1, ?_⟩, fun _ => valid⟩
    rintro ⟨before, d, after, -, -, first, -⟩
    omega
  · rw [if_neg full, later]
    exact ⟨fun uncut => ⟨fun cut => notWide cut.1, uncut⟩, And.right⟩

/-- Another scalar is copied as a whole, or cut where the buffer ends. -/
theorem isUtf8_escapeLoop_wide {size : Nat} {c : Char} {scalars : List Char} {dst : Bytes}
    (valid : IsUtf8 dst) (wide : 0x80 ≤ c.toNat)
    (later : IsUtf8 (escapeLoop size (dst ++ escaped (String.utf8EncodeChar c)) (utf8 scalars)).1 ↔
      ¬ CutsBehind (dst.length + (escaped (String.utf8EncodeChar c)).length) size scalars) :
    IsUtf8 (escapeLoop size dst (utf8 (c :: scalars))).1 ↔
      ¬ CutsBehind dst.length size (c :: scalars) := by
  have high : ∀ b ∈ String.utf8EncodeChar c, 0x80 ≤ b.toNat := fun b mem => high_of_mem wide mem
  have length : (String.utf8EncodeChar c).length = c.utf8Size := String.length_utf8EncodeChar c
  have some_ : String.utf8EncodeChar c ≠ [] := by
    apply List.ne_nil_of_length_pos
    rw [length]
    exact c.utf8Size_pos
  rw [utf8_cons, cutsBehind_cons, not_or]
  rw [escaped_of_high high, length] at later ⊢
  rw [escapeLoop_high some_ high, length]
  by_cases fits : dst.length + c.utf8Size + 2 ≤ size
  · rw [if_pos fits, later]
    refine ⟨fun uncut => ⟨?_, uncut⟩, And.right⟩
    rintro ⟨-, -, short⟩
    omega
  · rw [if_neg fits]
    obtain ⟨front, rfl⟩ := valid
    rw [isUtf8_utf8_append]
    by_cases none_ : size ≤ (utf8 front).length + 2
    · have zero : size - 2 - (utf8 front).length = 0 := by omega
      rw [zero, List.take_zero]
      refine ⟨fun _ => ⟨?_, ?_⟩, fun _ => ⟨[], rfl⟩⟩
      · rintro ⟨-, room, -⟩
        omega
      · rintro ⟨before, d, after, -, -, first, -⟩
        omega
    · have some_ : 0 < size - 2 - (utf8 front).length := by omega
      have short : size - 2 - (utf8 front).length < (String.utf8EncodeChar c).length := by
        rw [length]
        omega
      have cut := not_isUtf8_take_encode some_ short
      exact ⟨fun text => absurd text cut, fun uncut => absurd ⟨wide, by omega, by omega⟩ uncut.1⟩

/-- What the loop leaves is a text if and only if it does not stop inside a scalar. -/
theorem isUtf8_escapeLoop_iff {size : Nat} (scalars : List Char) {dst : Bytes}
    (valid : IsUtf8 dst) :
    IsUtf8 (escapeLoop size dst (utf8 scalars)).1 ↔ ¬ CutsBehind dst.length size scalars := by
  induction scalars generalizing dst with
  | nil =>
      have none_ : ¬ CutsBehind dst.length size [] := by
        rintro ⟨before, c, after, split, -⟩
        exact List.append_ne_nil_of_right_ne_nil before (List.cons_ne_nil c after) split.symm
      exact ⟨fun _ => none_, fun _ => valid⟩
  | cons c scalars ih =>
      have longer : IsUtf8 (dst ++ escaped (String.utf8EncodeChar c)) := by
        obtain ⟨front, rfl⟩ := valid
        rw [isUtf8_utf8_append, escaped_encode]
        exact ⟨_, rfl⟩
      have later := ih longer
      rw [List.length_append] at later
      by_cases narrow : c.toNat < 0x80
      · exact isUtf8_escapeLoop_narrow valid narrow later
      · exact isUtf8_escapeLoop_wide valid (Nat.le_of_not_lt narrow) later

theorem isUtf8_escapeInto_iff (size : Nat) (scalars : List Char) :
    IsUtf8 (escapeInto (utf8 scalars) size) ↔ ¬ CutsScalar size scalars := by
  rw [escapeInto, atJsonEscape]
  by_cases zero : size = 0
  · rw [if_pos zero]
    refine ⟨fun _ => ?_, fun _ => ⟨[], rfl⟩⟩
    rintro ⟨before, c, after, -, -, first, -⟩
    omega
  · rw [if_neg zero]
    exact isUtf8_escapeLoop_iff scalars ⟨[], rfl⟩

/-! ## The parts of a line -/

theorem newline_notMem_escapeInto (src : Bytes) (size : Nat) : 0x0a ∉ escapeInto src size := by
  rw [escapeInto, atJsonEscape]
  split_ifs
  · exact List.not_mem_nil
  · obtain ⟨front, rc, loop, -⟩ := escapeLoop_front size [] src
    rw [loop, List.nil_append]
    intro newline
    exact absurd ((wellQuoted_escaped front).printed 0x0a newline) (by decide)

theorem newline_notMem_unsignedStr (n : Nat) : 0x0a ∉ unsignedStr n :=
  newline_notMem (printed_toDigits n)

theorem signedStr_utf8 (n : Int) : ∃ text, Printed text ∧ signedStr n = utf8 text := by
  have digits := printed_toDigits n.natAbs
  by_cases negative : n < 0
  · refine ⟨'-' :: Nat.toDigits 10 n.natAbs, List.forall_mem_cons.mpr ⟨by decide, digits⟩, ?_⟩
    rw [signedStr, if_pos negative]
    rfl
  · refine ⟨Nat.toDigits 10 n.natAbs, digits, ?_⟩
    rw [signedStr, if_neg negative]
    rfl

/-- A text in front of a quote. -/
theorem isUtf8_append_quote (field : Bytes) (more : List Char) (rest : Bytes) :
    IsUtf8 (field ++ (utf8 ('"' :: more) ++ rest)) ↔ IsUtf8 field ∧ IsUtf8 rest := by
  have quote : utf8 ('"' :: more) ++ rest = 0x22 :: (utf8 more ++ rest) := rfl
  have front : 0x22 :: (utf8 more ++ rest) = utf8 ('"' :: more) ++ rest := rfl
  rw [quote, isUtf8_append_ascii (by decide), front, isUtf8_utf8_append]

theorem isUtf8_utf8 (scalars : List Char) : IsUtf8 (utf8 scalars) :=
  ⟨scalars, rfl⟩

/-! ## Log lines -/

theorem atStatusLog_line (level : AtLogLevel) (message : Bytes) :
    atStatusLog level message =
        joinLines 0x0a [logText level (escapeInto message 1024)] ∧
      ∀ line ∈ [logText level (escapeInto message 1024)], 0x0a ∉ line := by
  have room := @length_escapeInto message 1024 (by decide)
  have length := length_logText level (escapeInto message 1024)
  have free : 0x0a ∉ logText level (escapeInto message 1024) := by
    have name : 0x0a ∉ cstr level.name := newline_notMem (printed_of_plain (levelName_plain level))
    unfold logText
    simp only [List.mem_append, not_or]
    exact ⟨⟨⟨⟨by decide, name⟩, by decide⟩, newline_notMem_escapeInto message 1024⟩, by decide⟩
  constructor
  · rw [atStatusLog, atStatusEmit_free free (by rw [lineRoom]; omega), joinLines_singleton]
  · rw [List.forall_mem_singleton]
    exact free

theorem isUtf8_logText (level : AtLogLevel) (esc : Bytes) :
    IsUtf8 (logText level esc) ↔ IsUtf8 esc := by
  have close := isUtf8_append_quote esc "\x7d".toList []
  rw [List.append_nil] at close
  have empty : IsUtf8 [] := isUtf8_utf8 []
  unfold logText
  simp only [cstr_eq, List.append_assoc, isUtf8_utf8_append]
  exact close.trans (and_iff_left empty)

/-- The session dispatches a log line if and only if its message is not cut. -/
theorem atStatusLog_dispatched (level : AtLogLevel) (message : List Char) :
    AllDispatched (atStatusLog level (utf8 message)) ↔ ¬ CutsScalar 1024 message := by
  obtain ⟨line, free⟩ := atStatusLog_line level (utf8 message)
  rw [line, allDispatched_iff free, List.forall_mem_singleton, isUtf8_logText,
    isUtf8_escapeInto_iff]

/-! ## Status lines -/

/-- The texts of an engine. -/
structure EngineTexts where
  iface : List Char
  ip : List Char
  gateway : List Char
  dns : List Char
  error : List Char

/-- An engine with some texts. -/
def EngineView.withTexts (e : EngineView) (texts : EngineTexts) : EngineView :=
  { e with
    net :=
      { e.net with
        ip := utf8 texts.ip
        gateway := utf8 texts.gateway
        dns := utf8 texts.dns }
    iface := utf8 texts.iface
    error := utf8 texts.error }

theorem newline_notMem_statusText (e : EngineView) (pid : Int32) {iface ip gw dns err : Bytes}
    (free : 0x0a ∉ iface ∧ 0x0a ∉ ip ∧ 0x0a ∉ gw ∧ 0x0a ∉ dns ∧ 0x0a ∉ err) :
    0x0a ∉ statusText e pid iface ip gw dns err := by
  have state : 0x0a ∉ cstr (stateName e.state) :=
    newline_notMem (printed_of_plain (stateName_plain e.state))
  have mac : 0x0a ∉ atMacFormat e.mac := by
    rw [atMacFormat_utf8]
    exact newline_notMem (printed_of_plain (macChars_plain e.mac))
  have process : 0x0a ∉ signedStr pid.toInt := by
    obtain ⟨text, printed, shape⟩ := signedStr_utf8 pid.toInt
    rw [shape]
    exact newline_notMem printed
  have mtu : 0x0a ∉ signedStr utunMtu := by decide
  have fixed : ∀ s ∈ ["\x7b\"type\":\"status\",\"state\":\"", "\",\"iface\":\"",
      "\",\"ip\":\"", "\",\"gateway\":\"", "\",\"dns\":\"", "\",\"mac\":\"",
      "\",\"error\":\"", "\",\"rx_bytes\":", ",\"tx_bytes\":", ",\"rx_frames\":",
      ",\"tx_frames\":", ",\"rx_errors\":", ",\"tx_errors\":", ",\"pid\":",
      ",\"link_mbps\":", ",\"mtu\":", "\x7d"], 0x0a ∉ cstr s := by decide +kernel
  simp only [List.forall_mem_cons, List.not_mem_nil, false_implies, implies_true] at fixed
  unfold statusText
  simp only [List.mem_append, not_or]
  simp only [fixed, free, state, mac, process, mtu, newline_notMem_unsignedStr, not_false_eq_true,
    and_self]

theorem isUtf8_statusText (e : EngineView) (pid : Int32) (iface ip gw dns err : Bytes) :
    IsUtf8 (statusText e pid iface ip gw dns err) ↔
      IsUtf8 iface ∧ IsUtf8 ip ∧ IsUtf8 gw ∧ IsUtf8 dns ∧ IsUtf8 err := by
  obtain ⟨process, -, shape⟩ := signedStr_utf8 pid.toInt
  unfold statusText
  simp only [shape, signedStr_nat, unsignedStr, atMacFormat_utf8, cstr_eq, List.append_assoc,
    isUtf8_utf8_append, String.reduceToList, isUtf8_append_quote, isUtf8_utf8, and_true,
    true_and]

/-- The session dispatches a status line if and only if none of its texts is cut. -/
theorem atStatusEngine_dispatched (e : EngineView) (pid : Int32) (texts : EngineTexts) :
    AllDispatched (atStatusEngine (e.withTexts texts) pid) ↔
      ¬ CutsScalar 32 texts.iface ∧ ¬ CutsScalar 64 texts.ip ∧ ¬ CutsScalar 64 texts.gateway ∧
        ¬ CutsScalar 160 texts.dns ∧ ¬ CutsScalar 512 texts.error := by
  have iface := @length_escapeInto (utf8 texts.iface) 32 (by decide)
  have ip := @length_escapeInto (utf8 texts.ip) 64 (by decide)
  have gateway := @length_escapeInto (utf8 texts.gateway) 64 (by decide)
  have dns := @length_escapeInto (utf8 texts.dns) 160 (by decide)
  have error := @length_escapeInto (utf8 texts.error) 512 (by decide)
  have length := length_statusText (e.withTexts texts) pid (escapeInto (utf8 texts.iface) 32)
    (escapeInto (utf8 texts.ip) 64) (escapeInto (utf8 texts.gateway) 64)
    (escapeInto (utf8 texts.dns) 160) (escapeInto (utf8 texts.error) 512)
  have free := newline_notMem_statusText (e.withTexts texts) pid
    ⟨newline_notMem_escapeInto (utf8 texts.iface) 32, newline_notMem_escapeInto (utf8 texts.ip) 64,
      newline_notMem_escapeInto (utf8 texts.gateway) 64,
      newline_notMem_escapeInto (utf8 texts.dns) 160,
      newline_notMem_escapeInto (utf8 texts.error) 512⟩
  have line : atStatusEngine (e.withTexts texts) pid =
      atStatusEmit (statusText (e.withTexts texts) pid (escapeInto (utf8 texts.iface) 32)
        (escapeInto (utf8 texts.ip) 64) (escapeInto (utf8 texts.gateway) 64)
        (escapeInto (utf8 texts.dns) 160) (escapeInto (utf8 texts.error) 512)) := rfl
  rw [line, atStatusEmit_free free (by rw [lineRoom]; omega), ← joinLines_singleton,
    allDispatched_iff (List.forall_mem_singleton.mpr free), List.forall_mem_singleton,
    isUtf8_statusText, isUtf8_escapeInto_iff, isUtf8_escapeInto_iff, isUtf8_escapeInto_iff,
    isUtf8_escapeInto_iff, isUtf8_escapeInto_iff]

/-! ## Device lines -/

/-- The text of a device as it is written. -/
def writtenDevice (d : AtUsbDeviceInfo) : Bytes :=
  deviceText d (escapeInto d.name 256) (escapeInto d.vendor 256) (escapeInto d.serial 128)

theorem newline_notMem_writtenDevice (d : AtUsbDeviceInfo) : 0x0a ∉ writtenDevice d := by
  have kind : 0x0a ∉ cstr (kindName d.kind) :=
    newline_notMem (printed_of_plain (PrintedDevice.kindName_plain d.kind))
  have fixed : ∀ s ∈ ["\x7b\"type\":\"device\",\"vid\":", ",\"pid\":", ",\"location\":",
      ",\"name\":\"", "\",\"vendor\":\"", "\",\"serial\":\"", "\",\"kind\":\"",
      "\",\"control\":", ",\"data\":", "\x7d"], 0x0a ∉ cstr s := by decide +kernel
  simp only [List.forall_mem_cons, List.not_mem_nil, false_implies, implies_true] at fixed
  unfold writtenDevice deviceText
  simp only [List.mem_append, not_or]
  simp only [fixed, kind, newline_notMem_unsignedStr, newline_notMem_escapeInto,
    not_false_eq_true, and_self]

theorem deviceLine_eq (d : AtUsbDeviceInfo) : deviceLine d = writtenDevice d ++ [0x0a] := by
  have name := @length_escapeInto d.name 256 (by decide)
  have vendor := @length_escapeInto d.vendor 256 (by decide)
  have serial := @length_escapeInto d.serial 128 (by decide)
  have length := PrintedDevice.length_deviceText d (escapeInto d.name 256)
    (escapeInto d.vendor 256) (escapeInto d.serial 128)
  apply atStatusEmit_free (newline_notMem_writtenDevice d)
  rw [lineRoom, writtenDevice]
  omega

theorem isUtf8_deviceText (d : AtUsbDeviceInfo) (name vendor serial : Bytes) :
    IsUtf8 (deviceText d name vendor serial) ↔ IsUtf8 name ∧ IsUtf8 vendor ∧ IsUtf8 serial := by
  unfold deviceText
  simp only [unsignedStr, cstr_eq, List.append_assoc, isUtf8_utf8_append, String.reduceToList,
    isUtf8_append_quote, isUtf8_utf8, and_true]

/-- What is listed of a device can be read. -/
def ListedDevice.Uncut (d : ListedDevice) : Prop :=
  ¬ CutsScalar 256 d.name.toList ∧ ¬ CutsScalar 256 d.vendor.toList ∧
    ¬ CutsScalar 128 d.serial.toList

theorem isUtf8_writtenDevice (d : ListedDevice) : IsUtf8 (writtenDevice d.info) ↔ d.Uncut := by
  rw [writtenDevice, isUtf8_deviceText]
  simp only [ListedDevice.info, cstr_eq, isUtf8_escapeInto_iff]
  rfl

/-- The lines of a device list. -/
def writtenList (devs : List AtUsbDeviceInfo) : List Bytes :=
  utf8 (beginText devs.length) :: (devs.map writtenDevice ++ [utf8 endText])

theorem atStatusDevices_lines {devs : List AtUsbDeviceInfo} (small : devs.length < 2 ^ 31) :
    atStatusDevices devs = joinLines 0x0a (writtenList devs) := by
  have newline (text : List Char) : utf8 (text ++ ['\n']) = utf8 text ++ [0x0a] := utf8_append _ _
  have lines : devs.flatMap deviceLine = joinLines 0x0a (devs.map writtenDevice) := by
    rw [joinLines, List.flatMap_map]
    exact List.flatMap_congr fun d _ => deviceLine_eq d
  rw [atStatusDevices, begin_line small, end_line, newline, newline, lines, writtenList,
    joinLines_cons, joinLines_append, joinLines_singleton]
  simp only [List.append_assoc, List.cons_append, List.nil_append]

theorem newline_notMem_writtenList (devs : List AtUsbDeviceInfo) :
    ∀ line ∈ writtenList devs, 0x0a ∉ line := by
  have first : 0x0a ∉ utf8 (beginText devs.length) := by
    apply newline_notMem
    apply printed_objectText _ (printed_natField _ _)
    exact List.forall_mem_singleton.mpr (printed_wordField _ _)
  have last : 0x0a ∉ utf8 endText := by decide +kernel
  rw [writtenList, List.forall_mem_cons, List.forall_mem_append, List.forall_mem_map,
    List.forall_mem_singleton]
  exact ⟨first, fun d _ => newline_notMem_writtenDevice d, last⟩

/-- The session dispatches the lines of a device list if and only if no text of a device
is cut. -/
theorem atStatusDevices_dispatched {devs : List ListedDevice} (small : devs.length < 2 ^ 31) :
    AllDispatched (atStatusDevices (devs.map ListedDevice.info)) ↔ ∀ d ∈ devs, d.Uncut := by
  rw [atStatusDevices_lines (by rw [List.length_map]; exact small),
    allDispatched_iff (newline_notMem_writtenList _), writtenList, List.forall_mem_cons,
    List.forall_mem_append, List.forall_mem_map, List.forall_mem_map, List.forall_mem_singleton]
  simp only [isUtf8_utf8, isUtf8_writtenDevice, true_and, and_true]

/-! ## The condition -/

/-- **Truncated texts.**  An escaped text is UTF-8 if and only if its array does not end
inside a scalar, and the session dispatches every line that is built from texts if and
only if no array of them does. -/
theorem escaped_text_valid_iff (size : Nat) (src : List Char) (level : AtLogLevel)
    (message : List Char) (devs : List ListedDevice) (e : EngineView) (pid : Int32)
    (texts : EngineTexts) :
    (IsUtf8 (atJsonEscape (utf8 src) size).1 ↔ ¬ CutsScalar size src) ∧
    (AllDispatched (atStatusLog level (utf8 message)) ↔ ¬ CutsScalar 1024 message) ∧
    (devs.length < 2 ^ 31 →
      (AllDispatched (atStatusDevices (devs.map ListedDevice.info)) ↔ ∀ d ∈ devs, d.Uncut)) ∧
    (AllDispatched (atStatusEngine (e.withTexts texts) pid) ↔
      ¬ CutsScalar 32 texts.iface ∧ ¬ CutsScalar 64 texts.ip ∧ ¬ CutsScalar 64 texts.gateway ∧
        ¬ CutsScalar 160 texts.dns ∧ ¬ CutsScalar 512 texts.error) :=
  ⟨isUtf8_escapeInto_iff size src, atStatusLog_dispatched level message,
    fun small => atStatusDevices_dispatched small, atStatusEngine_dispatched e pid texts⟩

/-- With a byte to spare nothing is cut. -/
theorem not_cutsScalar_of_spare {size : Nat} {scalars : List Char}
    (spare : Spare (utf8 scalars) size) : ¬ CutsScalar size scalars := by
  apply (isUtf8_escapeInto_iff size scalars).mp
  rw [escapeInto_spare spare, escaped_utf8]
  exact isUtf8_utf8 _

theorem escaped_text_valid_plain :
    AllDispatched (atStatusDevices ([plainPhone].map ListedDevice.info)) := by
  apply ((escaped_text_valid_iff 1 [] .info [] [plainPhone] upEngine 0
    ⟨[], [], [], [], []⟩).2.2.1 (by decide)).mpr
  rw [List.forall_mem_singleton]
  exact ⟨not_cutsScalar_of_spare (by decide), not_cutsScalar_of_spare (by decide),
    not_cutsScalar_of_spare (by decide)⟩

/-- A phone whose name is 42 control characters and a Hangul syllable. -/
def controlPhone : ListedDevice :=
  { separatedPhone with name := String.ofList (List.replicate 42 '\u0001' ++ ['가']) }

/-- A letter of two bytes is cut in three, and the phone's line is dropped. -/
theorem cut_scalar_dropped :
    atJsonEscape (utf8 ['é']) 3 = ([0xc3], -1) ∧ ¬ IsUtf8 (atJsonEscape (utf8 ['é']) 3).1 ∧
      ¬ AllDispatched (atStatusDevices ([controlPhone].map ListedDevice.info)) := by
  refine ⟨by decide, ?_, ?_⟩
  · intro valid
    apply (isUtf8_escapeInto_iff 3 ['é']).mp valid
    exact ⟨[], 'é', [], rfl, by decide, by decide, by decide⟩
  · intro all
    have uncut := (atStatusDevices_dispatched (by decide)).mp all controlPhone
      (List.mem_singleton.mpr rfl)
    have length : (escaped (utf8 (List.replicate 42 '\u0001'))).length = 252 := by decide +kernel
    apply uncut.1
    refine ⟨List.replicate 42 '\u0001', '가', [], ?_, by decide, ?_, ?_⟩
    · exact String.toList_ofList
    · rw [length]
      decide
    · rw [length]
      decide

end WiredTethering.Status
