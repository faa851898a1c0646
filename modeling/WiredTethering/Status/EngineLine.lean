import WiredTethering.App.ParseHelpers
import WiredTethering.Status.Emit

/-!
# Engine lines and what the app reads

A line of the engine is an object printed from fields, so the app's parser gets back
the values of those fields.
-/

namespace WiredTethering.Status

open WiredTethering.Memory
open WiredTethering.Common
open WiredTethering.Engine
open WiredTethering.Json
open WiredTethering.Text
open WiredTethering.App

/-! ## Fields -/

/-- A member that holds an escaped text. -/
def stringField (key : String) (scalars : List Char) (plain : ∀ c ∈ key.toList, IsPlain c) :
    Field where
  key := key.toList
  text := '"' :: escapedScalars scalars ++ ['"']
  value := .string scalars
  keyed := body_plain plain
  writes := writes_string (body_escapedScalars scalars)

/-- A member that holds a number. -/
def natField (key : String) (n : Nat) (plain : ∀ c ∈ key.toList, IsPlain c) : Field where
  key := key.toList
  text := Nat.toDigits 10 n
  value := .integer n
  keyed := body_plain plain
  writes := writes_nat n

/-- A member that holds a fixed text without escapes. -/
def wordField (key : String) (word : List Char) (plain : ∀ c ∈ key.toList, IsPlain c)
    (plainWord : ∀ c ∈ word, IsPlain c) : Field where
  key := key.toList
  text := '"' :: word ++ ['"']
  value := .string word
  keyed := body_plain plain
  writes := writes_string (body_plain plainWord)

/-! ## Log lines -/

theorem levelName_plain (level : AtLogLevel) : ∀ c ∈ level.name.toList, IsPlain c := by
  cases level <;> decide

theorem typeKey_plain : ∀ c ∈ "type".toList, IsPlain c := by
  decide

theorem pidKey_plain : ∀ c ∈ "pid".toList, IsPlain c := by
  decide

def logFront (level : AtLogLevel) : List Field :=
  [wordField "type" "log".toList typeKey_plain (by decide),
    wordField "level" level.name.toList (by decide) (levelName_plain level)]

def logLast (message : List Char) : Field :=
  stringField "message" message (by decide)

theorem logText_fields (level : AtLogLevel) (message : List Char) :
    logText level (utf8 (escapedScalars message)) =
      utf8 (objectText (logFront level) (logLast message)) := by
  have shape : objectText (logFront level) (logLast message) =
      "\x7b\"type\":\"log\",\"level\":\"".toList ++ level.name.toList ++
        "\",\"message\":\"".toList ++ escapedScalars message ++ "\"\x7d".toList := by
    simp [objectText, logFront, logLast, printFront, Field.print, stringField, wordField,
      memberText]
  rw [shape]
  simp [logText, cstr, utf8]

/-! ## Status lines -/

theorem stateName_plain (state : AtState) : ∀ c ∈ (stateName state).toList, IsPlain c := by
  cases state <;> decide

def hexChars (b : UInt8) : List Char :=
  [hexChar (b.toNat / 16), hexChar (b.toNat % 16)]

/-- The scalars of `at_mac_format`. -/
def macChars (mac : Mac) : List Char :=
  hexChars (octet mac 0) ++ [':'] ++ hexChars (octet mac 1) ++ [':'] ++ hexChars (octet mac 2) ++
    [':'] ++ hexChars (octet mac 3) ++ [':'] ++ hexChars (octet mac 4) ++ [':'] ++
    hexChars (octet mac 5)

theorem utf8_hexChars (b : UInt8) : utf8 (hexChars b) = hex2 b := by
  have digit : ∀ n < 16, String.utf8EncodeChar (hexChar n) = [hexDigit n] := by decide
  have small : b.toNat < 256 := b.toNat_lt
  simp [hexChars, hex2, utf8, digit _ (show b.toNat / 16 < 16 by omega),
    digit _ (show b.toNat % 16 < 16 by omega)]

theorem atMacFormat_utf8 (mac : Mac) : atMacFormat mac = utf8 (macChars mac) := by
  simp only [macChars, utf8_append, utf8_hexChars]
  rfl

theorem macChars_plain (mac : Mac) : ∀ c ∈ macChars mac, IsPlain c := by
  have digit : ∀ n < 16, IsPlain (hexChar n) := by decide
  have hex : ∀ b : UInt8, ∀ c ∈ hexChars b, IsPlain c := by
    intro b c mem
    have small : b.toNat < 256 := b.toNat_lt
    simp only [hexChars, List.mem_cons, List.not_mem_nil, or_false] at mem
    rcases mem with rfl | rfl
    · exact digit _ (by omega)
    · exact digit _ (by omega)
  have colon : IsPlain ':' := by decide
  intro c mem
  simp only [macChars, List.mem_append, List.mem_singleton, or_assoc] at mem
  rcases mem with mem | rfl | mem | rfl | mem | rfl | mem | rfl | mem | rfl | mem
  all_goals first | exact hex _ c mem | exact colon

def statusFront (e : EngineView) (pid : Nat) (iface ip gw dns err : List Char) : List Field :=
  [wordField "type" "status".toList typeKey_plain (by decide),
    wordField "state" (stateName e.state).toList (by decide) (stateName_plain e.state),
    stringField "iface" iface (by decide),
    stringField "ip" ip (by decide),
    stringField "gateway" gw (by decide),
    stringField "dns" dns (by decide),
    wordField "mac" (macChars e.mac) (by decide) (macChars_plain e.mac),
    stringField "error" err (by decide),
    natField "rx_bytes" e.stats.rxBytes.toNat (by decide),
    natField "tx_bytes" e.stats.txBytes.toNat (by decide),
    natField "rx_frames" e.stats.rxFrames.toNat (by decide),
    natField "tx_frames" e.stats.txFrames.toNat (by decide),
    natField "rx_errors" e.stats.rxErrors.toNat (by decide),
    natField "tx_errors" e.stats.txErrors.toNat (by decide),
    natField "pid" pid pidKey_plain,
    natField "link_mbps" e.linkMbps.toNat (by decide)]

def statusLast : Field :=
  natField "mtu" utunMtu (by decide)

theorem signedStr_nat (n : Nat) : signedStr n = utf8 (Nat.toDigits 10 n) := by
  rw [signedStr, if_neg (by omega)]
  rfl

theorem cstr_eq (s : String) : cstr s = utf8 s.toList :=
  rfl

set_option maxRecDepth 4096 in
theorem statusText_fields (e : EngineView) {pid : Int32} {n : Nat} (natural : pid.toInt = n)
    (iface ip gw dns err : List Char) :
    statusText e pid (utf8 (escapedScalars iface)) (utf8 (escapedScalars ip))
        (utf8 (escapedScalars gw)) (utf8 (escapedScalars dns)) (utf8 (escapedScalars err)) =
      utf8 (objectText (statusFront e n iface ip gw dns err) statusLast) := by
  unfold statusText
  simp only [natural, signedStr_nat]
  simp only [atMacFormat_utf8, unsignedStr, cstr_eq, ← utf8_append]
  apply congrArg utf8
  simp only [objectText, statusFront, statusLast, printFront, Field.print, stringField, wordField,
    natField, memberText, List.flatMap_cons, List.flatMap_nil, List.append_assoc,
    List.cons_append, List.nil_append, String.reduceToList]

/-! ## What is written -/

/-- No control characters. -/
def Printed (text : List Char) : Prop :=
  ∀ c ∈ text, 0x20 ≤ c.toNat

theorem printed_append {first second : List Char} (one : Printed first) (two : Printed second) :
    Printed (first ++ second) := by
  intro c mem
  rcases List.mem_append.mp mem with mem | mem
  · exact one c mem
  · exact two c mem

theorem printed_of_plain {text : List Char} (plain : ∀ c ∈ text, IsPlain c) : Printed text :=
  fun c mem => (plain c mem).2.2

theorem printed_escapedScalars (scalars : List Char) : Printed (escapedScalars scalars) := by
  have hex : ∀ n < 16, 0x20 ≤ (hexChar n).toNat := by decide
  intro c mem
  obtain ⟨d, -, mem⟩ := List.mem_flatMap.mp mem
  rw [escapeScalar] at mem
  split_ifs at mem with quote backslash newline return_ tab control
  all_goals simp only [List.mem_cons, List.not_mem_nil, or_false] at mem
  · rcases mem with rfl | rfl <;> decide
  · rcases mem with rfl | rfl <;> decide
  · rcases mem with rfl | rfl <;> decide
  · rcases mem with rfl | rfl <;> decide
  · rcases mem with rfl | rfl <;> decide
  · rcases mem with rfl | rfl | rfl | rfl | rfl | rfl
    · decide
    · decide
    · decide
    · decide
    · exact hex _ (by omega)
    · exact hex _ (by omega)
  · rw [mem]
    exact Nat.le_of_not_lt control

theorem printed_toDigits (n : Nat) : Printed (Nat.toDigits 10 n) := by
  intro c mem
  have digit := Nat.isDigit_of_mem_toDigits (by decide) (by decide) mem
  simp only [Char.isDigit, Bool.and_eq_true, decide_eq_true_eq] at digit
  have above : 48 ≤ c.toNat := digit.1
  omega

theorem printed_quoted {text : List Char} (printed : Printed text) :
    Printed ('"' :: text ++ ['"']) := by
  have quote : ∀ c ∈ ['"'], 0x20 ≤ c.toNat := by decide
  exact printed_append (printed_append quote printed) quote

theorem printed_memberText {key text : List Char} (printedKey : Printed key)
    (printed : Printed text) : Printed (memberText key text) := by
  have colon : ∀ c ∈ [':'], 0x20 ≤ c.toNat := by decide
  have shape : memberText key text = '"' :: key ++ ['"'] ++ ([':'] ++ text) := by
    simp [memberText]
  rw [shape]
  exact printed_append (printed_quoted printedKey) (printed_append colon printed)

theorem printed_stringField {key : String} (scalars : List Char)
    (plain : ∀ c ∈ key.toList, IsPlain c) : Printed (stringField key scalars plain).print :=
  printed_memberText (printed_of_plain plain) (printed_quoted (printed_escapedScalars scalars))

theorem printed_natField {key : String} (n : Nat) (plain : ∀ c ∈ key.toList, IsPlain c) :
    Printed (natField key n plain).print :=
  printed_memberText (printed_of_plain plain) (printed_toDigits n)

theorem printed_wordField {key : String} {word : List Char}
    (plain : ∀ c ∈ key.toList, IsPlain c) (plainWord : ∀ c ∈ word, IsPlain c) :
    Printed (wordField key word plain plainWord).print :=
  printed_memberText (printed_of_plain plain) (printed_quoted (printed_of_plain plainWord))

theorem printed_printFront {fields : List Field}
    (printed : ∀ field ∈ fields, Printed field.print) : Printed (printFront fields) := by
  have comma : ∀ c ∈ [','], 0x20 ≤ c.toNat := by decide
  intro c mem
  obtain ⟨field, mem, inside⟩ := List.mem_flatMap.mp mem
  exact printed_append (printed field mem) comma c inside

theorem printed_objectText {front : List Field} {last : Field}
    (printedFront : ∀ field ∈ front, Printed field.print) (printedLast : Printed last.print) :
    Printed (objectText front last) := by
  have opening : ∀ c ∈ ['\x7b'], 0x20 ≤ c.toNat := by decide
  have closing : ∀ c ∈ ['\x7d'], 0x20 ≤ c.toNat := by decide
  exact printed_append opening
    (printed_append (printed_printFront printedFront) (printed_append printedLast closing))

theorem printed_logText (level : AtLogLevel) (message : List Char) :
    Printed (objectText (logFront level) (logLast message)) := by
  apply printed_objectText _ (printed_stringField message _)
  simp only [logFront, List.forall_mem_cons, List.not_mem_nil, false_implies, implies_true,
    and_true]
  exact ⟨printed_wordField _ _, printed_wordField _ _⟩

theorem printed_statusText (e : EngineView) (pid : Nat) (iface ip gw dns err : List Char) :
    Printed (objectText (statusFront e pid iface ip gw dns err) statusLast) := by
  apply printed_objectText _ (printed_natField utunMtu _)
  simp only [statusFront, List.forall_mem_cons, List.not_mem_nil, false_implies, implies_true,
    and_true]
  exact ⟨printed_wordField _ _, printed_wordField _ _, printed_stringField _ _,
    printed_stringField _ _, printed_stringField _ _, printed_stringField _ _,
    printed_wordField _ _, printed_stringField _ _, printed_natField _ _, printed_natField _ _,
    printed_natField _ _, printed_natField _ _, printed_natField _ _, printed_natField _ _,
    printed_natField _ _, printed_natField _ _⟩

/-- A text without control characters has no newline. -/
theorem newline_notMem {text : List Char} (printed : Printed text) : 0x0a ∉ utf8 text := by
  intro mem
  obtain ⟨c, inside, newline⟩ := mem_of_mem_utf8 (by decide) mem
  have above := printed c inside
  rw [newline] at above
  exact absurd above (by decide)

/-- A text without newlines that fits is written as one line. -/
theorem atStatusEmit_free {text : Bytes} (free : 0x0a ∉ text) (short : text.length < lineRoom) :
    atStatusEmit text = text ++ [0x0a] := by
  have whole : text.take (lineRoom - 1) = text := List.take_of_length_le (Nat.le_pred_of_lt short)
  rw [atStatusEmit, whole]
  apply if_neg
  intro newline
  exact free (List.mem_of_getLast? newline)

theorem atStatusEmit_line {text : List Char} (printed : Printed text)
    (short : (utf8 text).length < lineRoom) :
    atStatusEmit (utf8 text) = utf8 text ++ [0x0a] :=
  atStatusEmit_free (newline_notMem printed) short

theorem length_unsignedStr {n k : Nat} (some_ : 0 < k) (bound : n < 10 ^ k) :
    (unsignedStr n).length ≤ k := by
  rw [unsignedStr, length_utf8_of_ascii]
  · exact (Nat.length_toDigits_le_iff (by decide) some_).mpr bound
  · intro c mem
    have digit := Nat.isDigit_of_mem_toDigits (by decide) (by decide) mem
    simp only [Char.isDigit, Bool.and_eq_true, decide_eq_true_eq] at digit
    have below : c.toNat ≤ 57 := digit.2
    omega

theorem length_counter (n : UInt64) : (unsignedStr n.toNat).length ≤ 20 :=
  length_unsignedStr (by decide) (Nat.lt_trans n.toNat_lt (by decide))

theorem length_stateName (state : AtState) : (cstr (stateName state)).length ≤ 10 := by
  cases state <;> decide

theorem length_signedStr (pid : Int32) : (signedStr pid.toInt).length ≤ 11 := by
  have low := pid.le_toInt
  have high := pid.toInt_lt
  have digits : (unsignedStr pid.toInt.natAbs).length ≤ 10 :=
    length_unsignedStr (by decide) (by omega)
  rw [signedStr]
  split
  · rw [List.length_append, show (cstr "-").length = 1 from rfl]
    omega
  · omega

/-- The fixed parts of a status line and its numbers take at most 405 bytes. -/
theorem length_statusText (e : EngineView) (pid : Int32) (iface ip gw dns err : Bytes) :
    (statusText e pid iface ip gw dns err).length ≤
      405 + iface.length + ip.length + gw.length + dns.length + err.length := by
  have state := length_stateName e.state
  have mac : (atMacFormat e.mac).length = 17 := rfl
  have rxBytes := length_counter e.stats.rxBytes
  have txBytes := length_counter e.stats.txBytes
  have rxFrames := length_counter e.stats.rxFrames
  have txFrames := length_counter e.stats.txFrames
  have rxErrors := length_counter e.stats.rxErrors
  have txErrors := length_counter e.stats.txErrors
  have process := length_signedStr pid
  have link : (unsignedStr e.linkMbps.toNat).length ≤ 10 :=
    length_unsignedStr (by decide) (Nat.lt_trans e.linkMbps.toNat_lt (by decide))
  have mtu : (signedStr utunMtu).length = 4 := by decide
  rw [cstr] at state
  unfold statusText
  simp only [List.length_append, mac, mtu]
  simp [cstr, Char.utf8Size] at state ⊢
  omega

theorem length_logText (level : AtLogLevel) (esc : Bytes) :
    (logText level esc).length ≤ 43 + esc.length := by
  have name : (cstr level.name).length ≤ 5 := by cases level <;> decide
  unfold logText
  simp only [List.length_append]
  simp [cstr, Char.utf8Size] at name ⊢
  omega

/-! ## What is read -/

def connectionState : AtState → ConnectionState
  | .idle => .idle
  | .connecting => .connecting
  | .connected => .connected
  | .stopping => .stopping
  | .error => .error

/-- The status that the app is meant to show. -/
def shownStatus (e : EngineView) (pid : Int) (iface ip gateway dns error : String) :
    EngineStatus where
  state := connectionState e.state
  iface := iface
  ip := ip
  gateway := gateway
  dns := dns
  error := error
  rxBytes := e.stats.rxBytes
  txBytes := e.stats.txBytes
  rxErrors := e.stats.rxErrors
  txErrors := e.stats.txErrors
  pid := pid
  linkMbps := e.linkMbps
  mtu := 1500

theorem ofRaw_stateName (state : AtState) :
    ConnectionState.ofRaw (stateName state) = some (connectionState state) := by
  cases state <;> rfl

theorem uint64_counter (bridge : RealBridge) (n : UInt64) :
    uint64 bridge (some (.integer n.toNat)) = some n := by
  have small := n.toNat_lt
  rw [uint64, if_pos ⟨by omega, by omega⟩, Int.toNat_natCast, UInt64.ofNat_toNat]

theorem uint64_nat (bridge : RealBridge) {n : Nat} (small : n < 2 ^ 64) :
    uint64 bridge (some (.integer n)) = some (UInt64.ofNat n) := by
  rw [uint64, if_pos ⟨by omega, by omega⟩, Int.toNat_natCast]

/-- The members of a status line. -/
def statusEntries (e : EngineView) (pid : Nat) (iface ip gw dns err : List Char) :
    List (List Char × Value) :=
  (statusFront e pid iface ip gw dns err).map Field.entry ++ [statusLast.entry]

theorem parseStatus_entries (bridge : RealBridge) (e : EngineView) {pid : Nat}
    (small : pid < 2 ^ 31) (iface ip gw dns err : List Char) :
    parseStatus bridge (statusEntries e pid iface ip gw dns err) =
      some (shownStatus e pid (String.ofList iface) (String.ofList ip) (String.ofList gw)
        (String.ofList dns) (String.ofList err)) := by
  have process := @uint64_nat bridge pid (by omega)
  have mtu := @uint64_nat bridge utunMtu (by decide)
  have link := @uint64_nat bridge e.linkMbps.toNat (Nat.lt_trans e.linkMbps.toNat_lt (by decide))
  have processValue : ((pid : Int) % 18446744073709551616).bmod 4294967296 = pid := by
    rw [Int.emod_eq_of_lt (by omega) (by omega)]
    exact Int.bmod_eq_of_le (by omega) (by omega)
  have mtuValue : ((utunMtu : Int) % 18446744073709551616).bmod 18446744073709551616 = 1500 := by
    decide
  simp [parseStatus, statusEntries, statusFront, statusLast, Field.entry, stringField, wordField,
    natField, member, List.lookup_cons, asString, uint64_counter, process, mtu, link,
    ofRaw_stateName, processValue, mtuValue, shownStatus]

theorem parseEngineLine_status (bridge : RealBridge) (e : EngineView) {pid : Nat}
    (small : pid < 2 ^ 31) (iface ip gw dns err : List Char) {blank : List Char}
    (isBlank : skipSpace blank = []) :
    parseEngineLine bridge (String.ofList
        (objectText (statusFront e pid iface ip gw dns err) statusLast ++ blank)) =
      some (some (.status (shownStatus e pid (String.ofList iface) (String.ofList ip)
        (String.ofList gw) (String.ofList dns) (String.ofList err)))) := by
  have type : asString (member (statusEntries e pid iface ip gw dns err) "type") =
      some "status" := rfl
  have status := parseStatus_entries bridge e small iface ip gw dns err
  rw [statusEntries] at type status
  rw [parseEngineLine, String.toList_ofList, jsonObject_objectText _ _ isBlank]
  dsimp only
  rw [type]
  dsimp only
  rw [if_neg (by decide), if_pos rfl, status]
  rfl

theorem parseEngineLine_log (bridge : RealBridge) (level : AtLogLevel) (message : List Char)
    {blank : List Char} (isBlank : skipSpace blank = []) :
    parseEngineLine bridge (String.ofList
        (objectText (logFront level) (logLast message) ++ blank)) =
      some (some (.log level.name (String.ofList message))) := by
  rw [parseEngineLine, String.toList_ofList, jsonObject_objectText _ _ isBlank]
  have type : asString (member ((logFront level).map Field.entry ++ [(logLast message).entry])
      "type") = some "log" := rfl
  dsimp only
  rw [type]
  dsimp only
  rw [if_pos rfl]
  simp [logFront, logLast, wordField, stringField, Field.entry, member, List.lookup_cons, asString]

/-! ## Round trips -/

/-- The escaped form leaves a byte to spare in an array of `size` bytes, beside the
terminator. -/
def Spare (src : Bytes) (size : Nat) : Prop :=
  (escaped src).length + 2 ≤ size

instance (src : Bytes) (size : Nat) : Decidable (Spare src size) :=
  inferInstanceAs (Decidable (_ ≤ _))

theorem escapeInto_spare {src : Bytes} {size : Nat} (spare : Spare src size) :
    escapeInto src size = escaped src := by
  have some_ : size ≠ 0 := by
    rintro rfl
    exact absurd spare (by rw [Spare]; omega)
  have whole := @escapeLoop_spare size [] src (by rw [Spare] at spare; simpa using spare)
  rw [escapeInto, atJsonEscape, if_neg some_, whole]
  rfl

theorem escaped_cstr (s : String) : escaped (cstr s) = utf8 (escapedScalars s.toList) :=
  escaped_utf8 s.toList

theorem spare_written {text : String} {size : Nat} (spare : Spare (cstr text) size) :
    escapeInto (cstr text) size = utf8 (escapedScalars text.toList) := by
  rw [escapeInto_spare spare, escaped_cstr]

theorem spare_fits {text : String} {size : Nat} (spare : Spare (cstr text) size) :
    (utf8 (escapedScalars text.toList)).length < size := by
  rw [Spare, escaped_cstr] at spare
  omega

/-- The texts of an engine are strings whose escaped forms leave a byte to spare. -/
structure Texts (e : EngineView) (iface ip gateway dns error : String) : Prop where
  iface : e.iface = cstr iface
  ip : e.net.ip = cstr ip
  gateway : e.net.gateway = cstr gateway
  dns : e.net.dns = cstr dns
  error : e.error = cstr error
  ifaceSpare : Spare e.iface 32
  ipSpare : Spare e.net.ip 64
  gatewaySpare : Spare e.net.gateway 64
  dnsSpare : Spare e.net.dns 160
  errorSpare : Spare e.error 512

/-- `text` is written whole, as one line, and the app reads it as `line`. -/
structure ReadsAs (bridge : RealBridge) (written text : Bytes) (line : EngineLine) : Prop where
  whole : written = text ++ [0x0a]
  single : 0x0a ∉ text
  read : ∃ raw, textOf text = some raw ∧ parseEngineLine bridge raw = some (some line)
  readWithNewline :
    ∃ raw, textOf written = some raw ∧ parseEngineLine bridge raw = some (some line)

theorem textOf_utf8 (scalars : List Char) :
    textOf (utf8 scalars) = some (String.ofList scalars) := by
  rw [textOf, decodeUtf8_utf8]
  rfl

/-- A printed text that fits is written whole and read as its parser says. -/
theorem readsAs_of_parse {bridge : RealBridge} {text : List Char} {line : EngineLine}
    (printed : Printed text) (short : (utf8 text).length < lineRoom)
    (parse : ∀ blank, skipSpace blank = [] →
      parseEngineLine bridge (String.ofList (text ++ blank)) = some (some line)) :
    ReadsAs bridge (atStatusEmit (utf8 text)) (utf8 text) line where
  whole := atStatusEmit_line printed short
  single := newline_notMem printed
  read := by
    refine ⟨_, textOf_utf8 text, ?_⟩
    have alone := parse [] rfl
    rwa [List.append_nil] at alone
  readWithNewline := by
    have shape : utf8 text ++ [0x0a] = utf8 (text ++ ['\n']) := by
      rw [utf8_append]
      rfl
    rw [atStatusEmit_line printed short, shape]
    exact ⟨_, textOf_utf8 _, parse ['\n'] rfl⟩

theorem atStatusEngine_readsAs (bridge : RealBridge) {e : EngineView} {pid : Int32}
    (positive : 0 < pid) {iface ip gateway dns error : String}
    (texts : Texts e iface ip gateway dns error) :
    ReadsAs bridge (atStatusEngine e pid)
      (statusText e pid (escaped e.iface) (escaped e.net.ip) (escaped e.net.gateway)
        (escaped e.net.dns) (escaped e.error))
      (.status (shownStatus e pid.toInt iface ip gateway dns error)) := by
  obtain ⟨n, natural⟩ : ∃ n : Nat, pid.toInt = n :=
    Int.eq_ofNat_of_zero_le (Int.le_of_lt (Int32.lt_iff_toInt_lt.mp positive))
  have small : n < 2 ^ 31 := by
    have below := pid.toInt_lt
    omega
  have ifaceSpare : Spare (cstr iface) 32 := texts.iface ▸ texts.ifaceSpare
  have ipSpare : Spare (cstr ip) 64 := texts.ip ▸ texts.ipSpare
  have gatewaySpare : Spare (cstr gateway) 64 := texts.gateway ▸ texts.gatewaySpare
  have dnsSpare : Spare (cstr dns) 160 := texts.dns ▸ texts.dnsSpare
  have errorSpare : Spare (cstr error) 512 := texts.error ▸ texts.errorSpare
  have ifaceFits := spare_fits ifaceSpare
  have ipFits := spare_fits ipSpare
  have gatewayFits := spare_fits gatewaySpare
  have dnsFits := spare_fits dnsSpare
  have errorFits := spare_fits errorSpare
  have length := length_statusText e pid (utf8 (escapedScalars iface.toList))
    (utf8 (escapedScalars ip.toList)) (utf8 (escapedScalars gateway.toList))
    (utf8 (escapedScalars dns.toList)) (utf8 (escapedScalars error.toList))
  rw [statusText_fields e natural] at length
  rw [atStatusEngine, texts.iface, texts.ip, texts.gateway, texts.dns, texts.error,
    spare_written ifaceSpare, spare_written ipSpare, spare_written gatewaySpare,
    spare_written dnsSpare, spare_written errorSpare, escaped_cstr, escaped_cstr, escaped_cstr,
    escaped_cstr, escaped_cstr, statusText_fields e natural]
  apply readsAs_of_parse (printed_statusText e n _ _ _ _ _)
  · rw [lineRoom]
    omega
  · intro blank isBlank
    have parsed := parseEngineLine_status bridge e small iface.toList ip.toList gateway.toList
      dns.toList error.toList isBlank
    rw [String.ofList_toList, String.ofList_toList, String.ofList_toList, String.ofList_toList,
      String.ofList_toList] at parsed
    rw [natural]
    exact parsed

/-- A log line with a message that fits its array. -/
theorem logText_readsAs (bridge : RealBridge) (level : AtLogLevel) {message : List Char}
    (fits : (utf8 (escapedScalars message)).length < 1024) :
    ReadsAs bridge (atStatusEmit (logText level (utf8 (escapedScalars message))))
      (logText level (utf8 (escapedScalars message)))
      (.log level.name (String.ofList message)) := by
  have length := length_logText level (utf8 (escapedScalars message))
  rw [logText_fields] at length ⊢
  apply readsAs_of_parse (printed_logText level message)
  · rw [lineRoom]
    omega
  · exact fun blank isBlank => parseEngineLine_log bridge level message isBlank

theorem atStatusLog_readsAs (bridge : RealBridge) (level : AtLogLevel) {message : String}
    (spare : Spare (cstr message) 1024) :
    ReadsAs bridge (atStatusLog level (cstr message)) (logText level (escaped (cstr message)))
      (.log level.name message) := by
  have line := @logText_readsAs bridge level message.toList (spare_fits spare)
  rwa [atStatusLog, spare_written spare, escaped_cstr, ← String.ofList_toList (s := message),
    String.toList_ofList]

/-- Every status line and every log line is one whole line that the app reads back, as long
as each escaped text leaves a byte to spare in its array. -/
theorem engine_lines_read_back (bridge : RealBridge) :
    (∀ (e : EngineView) (pid : Int32) (iface ip gateway dns error : String), 0 < pid →
      Texts e iface ip gateway dns error →
        ReadsAs bridge (atStatusEngine e pid)
          (statusText e pid (escaped e.iface) (escaped e.net.ip) (escaped e.net.gateway)
            (escaped e.net.dns) (escaped e.error))
          (.status (shownStatus e pid.toInt iface ip gateway dns error))) ∧
      ∀ (level : AtLogLevel) (message : String), Spare (cstr message) 1024 →
        ReadsAs bridge (atStatusLog level (cstr message)) (logText level (escaped (cstr message)))
          (.log level.name message) := by
  constructor
  · intro e pid iface ip gateway dns error positive texts
    exact atStatusEngine_readsAs bridge positive texts
  · intro level message spare
    exact atStatusLog_readsAs bridge level spare

/-- A bridge for texts without fractions. -/
def noReals : RealBridge := ⟨fun _ => none, fun _ => 0, fun _ => 0⟩

/-- An engine that is up on `en5`. -/
def upEngine : EngineView where
  state := .connected
  stats := ⟨1500, 900, 3, 2, 0, 1⟩
  net := ⟨cstr "192.168.42.7", cstr "255.255.255.0", cstr "192.168.42.129", cstr "8.8.8.8", true⟩
  mac := #v[0x0a, 0x54, 0x48, 0x00, 0x00, 0x01]
  iface := cstr "utun5"
  error := cstr ""
  linkMbps := 480

theorem engine_lines_read_back_up :
    ReadsAs noReals (atStatusEngine upEngine 4242)
        (statusText upEngine 4242 (escaped upEngine.iface) (escaped upEngine.net.ip)
          (escaped upEngine.net.gateway) (escaped upEngine.net.dns) (escaped upEngine.error))
        (.status (shownStatus upEngine (4242 : Int32).toInt "utun5" "192.168.42.7"
          "192.168.42.129" "8.8.8.8" "")) ∧
      ReadsAs noReals (atStatusLog .warn (cstr "a \"b\""))
        (logText .warn (escaped (cstr "a \"b\""))) (.log "warn" "a \"b\"") := by
  have lines := engine_lines_read_back noReals
  have texts : Texts upEngine "utun5" "192.168.42.7" "192.168.42.129" "8.8.8.8" "" :=
    ⟨rfl, rfl, rfl, rfl, rfl, by decide, by decide, by decide, by decide, by decide⟩
  constructor
  · exact lines.1 upEngine 4242 _ _ _ _ _ (by decide) texts
  · exact lines.2 .warn "a \"b\"" (by decide)

theorem utf8_letters (n : Nat) : utf8 (List.replicate n 'a') = List.replicate n 0x61 := by
  induction n with
  | zero => rfl
  | succ n ih =>
      rw [List.replicate_succ, List.replicate_succ, utf8_cons, ih]
      rfl

theorem escaped_letters (n : Nat) :
    escaped (List.replicate n 0x61) = List.replicate n 0x61 := by
  induction n with
  | zero => rfl
  | succ n ih =>
      rw [List.replicate_succ, escaped_cons, ih]
      rfl

theorem escapeInto_letters (n : Nat) :
    escapeInto (List.replicate (n + 1) 0x61) (n + 2) = List.replicate n 0x61 := by
  have tight : ([] : Bytes).length + (escaped (List.replicate (n + 1) 0x61)).length + 1 =
      n + 2 := by
    rw [escaped_letters, List.length_replicate, List.length_nil]
    omega
  have some_ : List.replicate (n + 1) (0x61 : UInt8) ≠ [] := List.cons_ne_nil _ _
  have dropped := escapeLoop_tight some_ tight
  rw [escapeInto, atJsonEscape, if_neg (Nat.succ_ne_zero _), dropped, List.nil_append,
    List.dropLast_replicate, Nat.add_sub_cancel, escaped_letters]

/-- A message of 1023 letters fits the array of 1024 bytes with its terminator.  It loses
its last letter. -/
theorem tight_message_shortened :
    (escaped (List.replicate 1023 0x61)).length + 1 = 1024 ∧
      ∃ raw, textOf (atStatusLog .info (List.replicate 1023 0x61)) = some raw ∧
        parseEngineLine noReals raw =
          some (some (.log "info" (String.ofList (List.replicate 1022 'a')))) ∧
        parseEngineLine noReals raw ≠
          some (some (.log "info" (String.ofList (List.replicate 1023 'a')))) := by
  have tight : (escaped (List.replicate 1023 0x61)).length + 1 = 1024 := by
    rw [escaped_letters, List.length_replicate]
  have esc : escapeInto (List.replicate (1022 + 1) 0x61) (1022 + 2) =
      utf8 (escapedScalars (List.replicate 1022 'a')) := by
    rw [escapeInto_letters, ← escaped_utf8, utf8_letters, escaped_letters]
  have fits : (utf8 (escapedScalars (List.replicate 1022 'a'))).length < 1024 := by
    rw [← escaped_utf8, utf8_letters, escaped_letters, List.length_replicate]
    decide
  obtain ⟨raw, text, parsed⟩ := (logText_readsAs noReals .info fits).readWithNewline
  refine ⟨tight, raw, ?_, parsed, ?_⟩
  · rw [atStatusLog, esc]
    exact text
  · rw [parsed]
    intro same
    have message := (EngineLine.log.inj (Option.some.inj (Option.some.inj same))).2
    have lists := congrArg String.toList message
    rw [String.toList_ofList, String.toList_ofList] at lists
    have lengths := congrArg List.length lists
    rw [List.length_replicate, List.length_replicate] at lengths
    exact absurd lengths (by decide)

end WiredTethering.Status
