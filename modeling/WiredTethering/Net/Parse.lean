import Mathlib.Data.List.DropRight
import WiredTethering.Common.Text
import WiredTethering.Dhcp.Lease

/-!
# The text parsers of the network configuration

`net_parse.c`: fields of `scutil` and `route` output, the power state and device
of `networksetup` output, and the checks of a lease before it is published.
-/

namespace WiredTethering.Net

open WiredTethering.Memory
open WiredTethering.Common
open WiredTethering.Dhcp

/-! ## Characters -/

def isAlpha (c : UInt8) : Bool :=
  65 ≤ c ∧ c ≤ 90 ∨ 97 ≤ c ∧ c ≤ 122

def isAlnum (c : UInt8) : Bool :=
  isAlpha c || isDigit c

def isSpace (c : UInt8) : Bool :=
  c = 32 ∨ 9 ≤ c ∧ c ≤ 13

def toLower (c : UInt8) : UInt8 :=
  if 65 ≤ c ∧ c ≤ 90 then c + 32 else c

/-- A blank or a tab. -/
def isBlank (c : UInt8) : Bool :=
  c = 32 ∨ c = 9

/-- `strncasecmp(p, label, strlen(label)) == 0`. -/
def prefixCi (label p : Bytes) : Bool :=
  (p.take label.length).map toLower = label.map toLower

/-- `strcasecmp(s, t) == 0`. -/
def eqCi (s t : Bytes) : Bool :=
  s.map toLower = t.map toLower

/-- `strstr(s, needle) != NULL`. -/
def strstr (needle : Bytes) : Bytes → Bool
  | [] => needle.isEmpty
  | c :: rest => needle.isPrefixOf (c :: rest) || strstr needle rest

/-- `at_str_contains_ci`. -/
def atStrContainsCi (needle : Bytes) : Bytes → Bool
  | [] => false
  | c :: rest => !needle.isEmpty && (prefixCi needle (c :: rest) || atStrContainsCi needle rest)

/-- `at_parse_wifi_truthy`. -/
def atParseWifiTruthy (s : Bytes) : Bool :=
  eqCi s (cstr "true") || eqCi s (cstr "yes") || s = cstr "1" || eqCi s (cstr "on")

/-! ## Fields -/

/-- A key may end before this character. -/
def endsField (c : UInt8) : Bool :=
  c = 32 ∨ c = 9 ∨ c = 58 ∨ c = 10 ∨ c = 13

/-- `scutil_key_at`: the label stands here as a whole key. -/
def scutilKeyAt (label p : Bytes) : Bool :=
  prefixCi label p && (p.drop label.length).head?.all endsField

/-- A key may start behind this character. -/
def startsField (prev : UInt8) : Bool :=
  prev = 10 ∨ prev = 32 ∨ prev = 9 ∨ prev = 123 ∨ prev = 13

/-- The value behind a label, in an array of `n` bytes. -/
def fieldValue (n : Nat) (p : Bytes) : Bytes :=
  let p := p.dropWhile fun c => isBlank c || c = 58
  let p := if p.head? = some 34 then p.tail else p
  let out := (p.takeWhile fun c => c ≠ 10 && c ≠ 13 && c ≠ 34).take (n - 1)
  out.rdropWhile fun c => isBlank c || c = 125

/-- The scan of `at_parse_scutil_field` behind the character `prev`. -/
def fieldFrom (label : Bytes) (n : Nat) (prev : UInt8) : Bytes → Bytes
  | [] => []
  | c :: rest =>
      if startsField prev && scutilKeyAt label (c :: rest) then
        fieldValue n ((c :: rest).drop label.length)
      else fieldFrom label n c rest

/-- `at_parse_scutil_field` into an array of `n` bytes. -/
def atParseScutilField (text label : Bytes) (n : Nat) : Bytes :=
  fieldFrom label n 10 text

/-! ## Wi-Fi -/

/-- `at_parse_wifi_power_text`. -/
def atParseWifiPowerText (out : Bytes) : Int :=
  if out = [] then -1
  else if atStrContainsCi (cstr "Off") out || strstr (cstr "꺼짐") out ||
      strstr (cstr "끄기") out || strstr (cstr "꺼져") out then 0
  else if strstr (cstr ": On") out || strstr (cstr ": on") out || strstr (cstr ":On") out ||
      strstr (cstr "켜짐") out || strstr (cstr "켜기") out ||
      atStrContainsCi (cstr "enabled") out then 1
  else if atStrContainsCi (cstr "On") out || strstr (cstr "켜") out then 1
  else -1

def isPortLine (line : Bytes) : Bool :=
  (cstr "Hardware Port:").isPrefixOf line || (cstr "하드웨어 포트:").isPrefixOf line

def isDeviceLine (line : Bytes) : Bool :=
  (cstr "Device:").isPrefixOf line || (cstr "장치:").isPrefixOf line

def namesWifi (line : Bytes) : Bool :=
  atStrContainsCi (cstr "Wi-Fi") line || atStrContainsCi (cstr "WiFi") line ||
    atStrContainsCi (cstr "AirPort") line || atStrContainsCi (cstr "와이파이") line

/-- The device of a device line, in an array of `n` bytes. -/
def deviceOf (line : Bytes) (n : Nat) : Bytes :=
  let p := (line.dropWhile (· ≠ 58)).tail
  (strlcpy (p.dropWhile isBlank) n).rdropWhile fun c => isBlank c || c = 13

/-- The loop of `at_parse_wifi_device_text` over the lines. -/
def wifiDeviceFrom (n : Nat) (want : Bool) : List Bytes → Option Bytes
  | [] => none
  | line :: lines =>
      if isPortLine line then wifiDeviceFrom n (namesWifi line) lines
      else if !want || !isDeviceLine line then wifiDeviceFrom n want lines
      else
        let dev := deviceOf line n
        if dev ≠ [] then some dev else none

/-- `at_parse_wifi_device_text`: the device, or none when it returns -1.
`strtok_r` skips empty lines. -/
def atParseWifiDeviceText (text : Bytes) (n : Nat) : Option Bytes :=
  wifiDeviceFrom n false (((strlcpy text 4096).splitOn 10).filter (· ≠ []))

/-! ## Leases -/

/-- An octet of `inet_pton`: one to three digits, no leading zero. -/
def octetOk (s : Bytes) : Bool :=
  s ≠ [] && s.length ≤ 3 && s.all isDigit && (s.length = 1 || s.head? ≠ some 48) &&
    (takeDigits 10 0 s).1 ≤ 255

/-- `inet_pton` for IPv4 accepts the text. -/
def inetPton (s : Bytes) : Bool :=
  (s.splitOn 46).length = 4 && (s.splitOn 46).all octetOk

/-- `at_ipv4_dotted_ok`. -/
def atIpv4DottedOk (s : Bytes) : Bool :=
  s ≠ [] && s.all (fun c => c = 46 || isDigit c) && inetPton s

/-- `at_ifname_ok`. -/
def atIfnameOk (name : Bytes) : Bool :=
  (name.head?.any isAlpha) && name.length ≤ 15 && name.all isAlnum

/-- `%63s`: a word of at most 63 bytes, and what follows it. -/
def scanWord (s : Bytes) : Bytes × Bytes :=
  let s := s.dropWhile isSpace
  let word := (s.takeWhile fun c => !isSpace c).take 63
  (word, s.drop word.length)

/-- `sscanf(dns, "%63s %63s", dns1, dns2)`. -/
def scanDns (dns : Bytes) : Bytes × Bytes :=
  let (dns1, rest) := scanWord dns
  (dns1, (scanWord rest).1)

/-- `at_lease_addrs_ok`. -/
def atLeaseAddrsOk (lease : AtNetInfo) : Bool :=
  if !atIpv4DottedOk lease.ip then false
  else if lease.netmask ≠ [] && !atIpv4DottedOk lease.netmask then false
  else if lease.gateway ≠ [] && !atIpv4DottedOk lease.gateway then false
  else if lease.dns = [] then true
  else
    let (dns1, dns2) := scanDns lease.dns
    if dns1 = [] then false
    else if !atIpv4DottedOk dns1 then false
    else !(dns2 ≠ [] && !atIpv4DottedOk dns2)

/-! ## Reading a field of a dump -/

/-- A line of a dictionary dump. -/
def dumpLine (entry : Bytes × Bytes) : Bytes :=
  cstr "  " ++ entry.1 ++ cstr " : " ++ entry.2 ++ cstr "\n"

/-- `show` of a dictionary, without the final newline. -/
def dump (entries : List (Bytes × Bytes)) : Bytes :=
  cstr "<dictionary> \x7b\n" ++ entries.flatMap dumpLine ++ cstr "\x7d"

/-- No white space, quote or brace. -/
def isPlain (c : UInt8) : Bool :=
  !isSpace c && c ≠ 34 && c ≠ 123 && c ≠ 125

/-- The value could be taken for the label: it is the label, or the label and a
colon stand at its front. -/
def Resembles (label value : Bytes) : Prop :=
  prefixCi label value = true ∧
    (value.drop label.length = [] ∨ (value.drop label.length).head? = some 58)

instance (label value : Bytes) : Decidable (Resembles label value) :=
  inferInstanceAs (Decidable (_ ∧ _))

/-- An entry that a search for `label` reads as it is. -/
structure Readable (label : Bytes) (entry : Bytes × Bytes) : Prop where
  key : ∀ c ∈ entry.1, isAlnum c = true
  plain : ∀ c ∈ entry.2, isPlain c = true
  colon : entry.2.head? ≠ some 58
  other : ¬ Resembles label entry.2

section

variable {label : Bytes} {n : Nat}

theorem isAlnum_not_startsField {c : UInt8} (alnum : isAlnum c = true) : startsField c = false := by
  grind [isAlnum, isAlpha, isDigit, startsField]

theorem isAlnum_not_endsField {c : UInt8} (alnum : isAlnum c = true) : endsField c = false := by
  grind [isAlnum, isAlpha, isDigit, endsField]

theorem isPlain_not_startsField {c : UInt8} (plain : isPlain c = true) : startsField c = false := by
  grind [isPlain, isSpace, startsField]

theorem isPlain_ne {c d : UInt8} (plain : isPlain c = true) (special : isPlain d = false) :
    c ≠ d := by
  rintro rfl
  rw [plain] at special
  contradiction

theorem isPlain_not_blank {c : UInt8} (plain : isPlain c = true) : isBlank c = false := by
  grind [isPlain, isSpace, isBlank]

theorem isAlnum_of_toLower_eq {c d : UInt8} (alnum : isAlnum c = true)
    (same : toLower d = toLower c) : isAlnum d = true := by
  grind [isAlnum, isAlpha, isDigit, toLower]

theorem prefixCi_cons {l c : UInt8} {label rest : Bytes} :
    prefixCi (l :: label) (c :: rest) = true ↔
      toLower c = toLower l ∧ prefixCi label rest = true := by
  simp [prefixCi]

theorem not_prefixCi_nil (named : label ≠ []) : prefixCi label [] = false := by
  cases label with
  | nil => contradiction
  | cons l label => simp [prefixCi]

/-- A label that starts with a letter or digit is not found at another character. -/
theorem scutilKeyAt_other (named : label.head?.any isAlnum = true) {c : UInt8}
    (other : isAlnum c = false) (rest : Bytes) : scutilKeyAt label (c :: rest) = false := by
  cases label with
  | nil => contradiction
  | cons l label =>
      have differs : prefixCi (l :: label) (c :: rest) = false := by
        rw [Bool.eq_false_iff]
        intro found
        have same := (prefixCi_cons.mp found).1
        rw [isAlnum_of_toLower_eq named same] at other
        contradiction
      simp [scutilKeyAt, differs]

theorem fieldFrom_skip (named : label.head?.any isAlnum = true) (prev : UInt8) {c : UInt8}
    (other : isAlnum c = false) (rest : Bytes) :
    fieldFrom label n prev (c :: rest) = fieldFrom label n c rest := by
  simp [fieldFrom, scutilKeyAt_other named other]

/-- The characters of a word behind its first are skipped. -/
theorem fieldFrom_inside (named : label.head?.any isAlnum = true) {word : Bytes}
    (inside : ∀ c ∈ word, startsField c = false) {prev c : UInt8}
    (behind : startsField prev = false) (other : isAlnum c = false) (rest : Bytes) :
    fieldFrom label n prev (word ++ c :: rest) = fieldFrom label n c rest := by
  induction word generalizing prev with
  | nil => exact fieldFrom_skip named prev other rest
  | cons d word ih =>
      rw [List.cons_append, fieldFrom, behind]
      exact ih (fun e mem => inside e (List.mem_cons_of_mem d mem)) (inside d List.mem_cons_self)

/-- A word that the label does not match is skipped. -/
theorem fieldFrom_word (named : label.head?.any isAlnum = true) {word : Bytes}
    (inside : ∀ c ∈ word, startsField c = false) (prev : UInt8) {c : UInt8}
    (other : isAlnum c = false) {rest : Bytes}
    (differs : scutilKeyAt label (word ++ c :: rest) = false) :
    fieldFrom label n prev (word ++ c :: rest) = fieldFrom label n c rest := by
  cases word with
  | nil => exact fieldFrom_skip named prev other rest
  | cons d word =>
      have skipped : fieldFrom label n prev (d :: word ++ c :: rest) =
          fieldFrom label n d (word ++ c :: rest) := by
        rw [List.cons_append] at differs
        rw [List.cons_append, fieldFrom, differs, Bool.and_false]
        rfl
      rw [skipped]
      exact fieldFrom_inside named (fun e mem => inside e (List.mem_cons_of_mem d mem))
        (inside d List.mem_cons_self) other rest

/-- Where a label matches at a word that ends in another character. -/
theorem prefixCi_append_iff {c : UInt8} (other : ∀ l ∈ label, toLower c ≠ toLower l)
    (word rest : Bytes) :
    prefixCi label (word ++ c :: rest) = true ↔
      prefixCi label word = true ∧ label.length ≤ word.length := by
  induction word generalizing label with
  | nil =>
      cases label with
      | nil => simp [prefixCi]
      | cons l label =>
          simp only [List.nil_append, prefixCi_cons, not_prefixCi_nil (List.cons_ne_nil l label),
            Bool.false_eq_true, false_and, iff_false, not_and]
          exact fun same => absurd same (other l List.mem_cons_self)
  | cons d word ih =>
      cases label with
      | nil => simp [prefixCi]
      | cons l label =>
          rw [List.cons_append, prefixCi_cons, prefixCi_cons,
            ih fun e mem => other e (List.mem_cons_of_mem l mem), and_assoc, List.length_cons,
            List.length_cons, Nat.add_le_add_iff_right]

/-- A label that matches at a word ends inside it or with it. -/
theorem scutilKeyAt_append_iff (alnum : ∀ c ∈ label, isAlnum c = true) {word : Bytes} {c : UInt8}
    (other : isAlnum c = false) (rest : Bytes) :
    scutilKeyAt label (word ++ c :: rest) = true ↔
      (prefixCi label word = true ∧ label.length ≤ word.length) ∧
        endsField ((word.drop label.length).headD c) = true := by
  have apart : ∀ l ∈ label, toLower c ≠ toLower l := by
    intro l mem same
    rw [isAlnum_of_toLower_eq (alnum l mem) same] at other
    contradiction
  rw [scutilKeyAt, Bool.and_eq_true, prefixCi_append_iff apart]
  refine and_congr_right fun matched => ?_
  rw [List.drop_append_of_le_length matched.2]
  cases word.drop label.length with
  | nil => rfl
  | cons d behind => rfl

/-- A key does not match another label. -/
theorem scutilKeyAt_key (alnum : ∀ c ∈ label, isAlnum c = true) {key : Bytes}
    (keyed : ∀ c ∈ key, isAlnum c = true) (rest : Bytes) :
    scutilKeyAt label (key ++ 32 :: rest) = eqCi label key := by
  rw [Bool.eq_iff_iff, scutilKeyAt_append_iff alnum (by decide)]
  constructor
  · rintro ⟨⟨matched, fits⟩, ends⟩
    cases behind : key.drop label.length with
    | nil =>
        have whole : key.take label.length = key := by
          rw [List.take_of_length_le (List.drop_eq_nil_iff.mp behind)]
        simpa [eqCi, prefixCi, whole, eq_comm] using matched
    | cons d behind' =>
        have inKey : d ∈ key := List.mem_of_mem_drop (behind ▸ List.mem_cons_self)
        rw [behind, List.headD_cons, isAlnum_not_endsField (keyed d inKey)] at ends
        contradiction
  · intro same
    have mapped : label.map toLower = key.map toLower := by
      simpa [eqCi] using same
    have sized : label.length = key.length := by
      simpa using congrArg List.length mapped
    refine ⟨⟨?_, sized.le⟩, ?_⟩
    · simp [prefixCi, sized, mapped]
    · rw [sized, List.drop_length]
      rfl

/-- A value matches a label only if it resembles it. -/
theorem scutilKeyAt_value (alnum : ∀ c ∈ label, isAlnum c = true) {value : Bytes}
    (plain : ∀ c ∈ value, isPlain c = true) (other : ¬ Resembles label value) (rest : Bytes) :
    scutilKeyAt label (value ++ 10 :: rest) = false := by
  rw [Bool.eq_false_iff]
  intro found
  obtain ⟨⟨matched, -⟩, ends⟩ := (scutilKeyAt_append_iff alnum (by decide) rest).mp found
  apply other
  refine ⟨matched, ?_⟩
  cases behind : value.drop label.length with
  | nil => exact .inl rfl
  | cons d behind' =>
      have inValue : d ∈ value := List.mem_of_mem_drop (behind ▸ List.mem_cons_self)
      rw [behind, List.headD_cons] at ends
      have colon : d = 58 := by
        have plain := plain d inValue
        grind [isPlain, isSpace, endsField]
      exact .inr (congrArg some colon)

/-- The value of a field is read up to the end of its line. -/
theorem fieldValue_line (gap : Bytes) (between : gap.all (fun c => isBlank c || c = 58) = true)
    {value : Bytes} (plain : ∀ c ∈ value, isPlain c = true) (colon : value.head? ≠ some 58)
    (rest : Bytes) :
    fieldValue n (gap ++ (value ++ 10 :: rest)) = value.take (n - 1) := by
  have reached : (gap ++ (value ++ 10 :: rest)).dropWhile (fun c => isBlank c || c = 58) =
      value ++ 10 :: rest := by
    rw [List.dropWhile_append_of_pos (fun c mem => List.all_eq_true.mp between c mem)]
    cases value with
    | nil => rfl
    | cons c value =>
        have blank := isPlain_not_blank (plain c List.mem_cons_self)
        have apart : c ≠ 58 := fun same => colon (congrArg some same)
        rw [List.cons_append, List.dropWhile_cons_of_neg (by simp [blank, apart])]
  have unquoted : (value ++ 10 :: rest).head? ≠ some 34 := by
    cases value with
    | nil => simp
    | cons c value =>
        exact fun quoted =>
          isPlain_ne (plain c List.mem_cons_self) (by decide) (Option.some.inj quoted)
  have whole : (value ++ 10 :: rest).takeWhile (fun c => c ≠ 10 && c ≠ 13 && c ≠ 34) = value := by
    rw [List.takeWhile_append_of_pos]
    · simp
    · intro c mem
      have apart {d : UInt8} (special : isPlain d = false) : c ≠ d :=
        isPlain_ne (plain c mem) special
      simp [apart (d := 10) (by decide), apart (d := 13) (by decide), apart (d := 34) (by decide)]
  have trimmed : (value.take (n - 1)).rdropWhile (fun c => isBlank c || c = 125) =
      value.take (n - 1) := by
    rw [List.rdropWhile_eq_self_iff]
    intro nonempty
    have plain := plain _ (List.mem_of_mem_take (List.getLast_mem nonempty))
    simp [isPlain_not_blank plain, isPlain_ne plain (d := 125) (by decide)]
  simp only [fieldValue, reached, if_neg unquoted, whole, trimmed]

theorem dumpLine_append (entry : Bytes × Bytes) (rest : Bytes) :
    dumpLine entry ++ rest =
      32 :: 32 :: (entry.1 ++ 32 :: 58 :: 32 :: (entry.2 ++ 10 :: rest)) := by
  have gap : cstr "  " = [32, 32] := by decide
  have colon : cstr " : " = [32, 58, 32] := by decide
  have newline : cstr "\n" = [10] := by decide
  simp [dumpLine, gap, colon, newline]

/-- A line with another key is skipped. -/
theorem fieldFrom_line (named : label.head?.any isAlnum = true)
    (alnum : ∀ c ∈ label, isAlnum c = true)
    {entry : Bytes × Bytes} (readable : Readable label entry)
    (differs : eqCi label entry.1 = false) (prev : UInt8) (rest : Bytes) :
    fieldFrom label n prev (dumpLine entry ++ rest) = fieldFrom label n 10 rest := by
  have skip (prev : UInt8) {c : UInt8} (other : isAlnum c = false) (rest : Bytes) :
      fieldFrom label n prev (c :: rest) = fieldFrom label n c rest :=
    fieldFrom_skip named prev other rest
  calc
    fieldFrom label n prev (dumpLine entry ++ rest) =
        fieldFrom label n 32 (entry.1 ++ 32 :: 58 :: 32 :: (entry.2 ++ 10 :: rest)) := by
      rw [dumpLine_append, skip prev (by decide), skip 32 (by decide)]
    _ = fieldFrom label n 32 (58 :: 32 :: (entry.2 ++ 10 :: rest)) := by
      apply fieldFrom_word named _ 32 (by decide)
      · rw [scutilKeyAt_key alnum readable.key]
        exact differs
      · exact fun c mem => isAlnum_not_startsField (readable.key c mem)
    _ = fieldFrom label n 32 (entry.2 ++ 10 :: rest) := by
      rw [skip 32 (by decide), skip 58 (by decide)]
    _ = fieldFrom label n 10 rest := by
      apply fieldFrom_word named _ 32 (by decide)
      · exact scutilKeyAt_value alnum readable.plain readable.other rest
      · exact fun c mem => isPlain_not_startsField (readable.plain c mem)

/-- The line with the key is found. -/
theorem fieldFrom_found (named : label.head?.any isAlnum = true)
    (alnum : ∀ c ∈ label, isAlnum c = true)
    {entry : Bytes × Bytes} (readable : Readable label entry) (same : eqCi label entry.1 = true)
    (prev : UInt8) (rest : Bytes) :
    fieldFrom label n prev (dumpLine entry ++ rest) = entry.2.take (n - 1) := by
  have sized : label.length = entry.1.length := by
    have mapped : label.map toLower = entry.1.map toLower := by
      simpa [eqCi] using same
    simpa using congrArg List.length mapped
  rw [dumpLine_append, fieldFrom_skip named prev (by decide),
    fieldFrom_skip named 32 (by decide)]
  have found := scutilKeyAt_key alnum readable.key (58 :: 32 :: (entry.2 ++ 10 :: rest))
  cases keyed : entry.1 with
  | nil =>
      rw [keyed] at sized
      rw [List.eq_nil_of_length_eq_zero sized] at named
      contradiction
  | cons d key =>
      rw [same, keyed, List.cons_append] at found
      rw [List.cons_append, fieldFrom, found]
      simp only [startsField, Bool.and_true, decide_true, or_true, true_or, if_true]
      rw [← List.cons_append, ← keyed, sized, List.drop_left]
      exact fieldValue_line [32, 58, 32] (by decide) readable.plain readable.colon rest

/-- The lines before the one with the key are skipped. -/
theorem fieldFrom_lines (named : label.head?.any isAlnum = true)
    (alnum : ∀ c ∈ label, isAlnum c = true)
    {entries : List (Bytes × Bytes)} (readable : ∀ entry ∈ entries, Readable label entry)
    (prev : UInt8) (rest : Bytes) :
    fieldFrom label n prev (entries.flatMap dumpLine ++ 125 :: rest) =
      match entries.find? (fun entry => eqCi label entry.1) with
      | some entry => entry.2.take (n - 1)
      | none => fieldFrom label n 125 rest := by
  induction entries generalizing prev with
  | nil => exact fieldFrom_skip named prev (by decide) rest
  | cons entry entries ih =>
      have first := readable entry List.mem_cons_self
      rw [List.flatMap_cons, List.append_assoc]
      cases same : eqCi label entry.1 with
      | true =>
          rw [fieldFrom_found named alnum first same, List.find?_cons, same]
      | false =>
          rw [fieldFrom_line named alnum first same,
            ih (fun other mem => readable other (List.mem_cons_of_mem entry mem)) 10,
            List.find?_cons, same]

theorem fieldFrom_newlines (named : label.head?.any isAlnum = true) (prev : UInt8)
    (newlines : Nat) : fieldFrom label n prev (List.replicate newlines 10) = [] := by
  induction newlines generalizing prev with
  | zero => rfl
  | succ newlines ih =>
      rw [List.replicate_succ, fieldFrom_skip named prev (by decide), ih]

theorem head_isAlnum (named : label ≠ []) (alnum : ∀ c ∈ label, isAlnum c = true) :
    label.head?.any isAlnum = true := by
  cases label with
  | nil => contradiction
  | cons l label => exact alnum l List.mem_cons_self

/-- A field of a dump is the value of its key, or empty when there is no such key; newlines
may follow the dump. -/
theorem atParseScutilField_dump_newlines (named : label ≠ [])
    (alnum : ∀ c ∈ label, isAlnum c = true) {entries : List (Bytes × Bytes)}
    (readable : ∀ entry ∈ entries, Readable label entry) (newlines n : Nat) :
    atParseScutilField (dump entries ++ List.replicate newlines 10) label n =
      match entries.find? (fun entry => eqCi label entry.1) with
      | some entry => entry.2.take (n - 1)
      | none => [] := by
  have named := head_isAlnum named alnum
  have front : cstr "<dictionary> \x7b\n" = cstr "<dictionary>" ++ [32, 123, 10] := by decide
  have back : cstr "\x7d" = [125] := by decide
  have skip (prev : UInt8) {c : UInt8} (other : isAlnum c = false) (rest : Bytes) :
      fieldFrom label n prev (c :: rest) = fieldFrom label n c rest :=
    fieldFrom_skip named prev other rest
  calc
    atParseScutilField (dump entries ++ List.replicate newlines 10) label n =
        fieldFrom label n 10 (cstr "<dictionary>" ++ 32 :: 123 :: 10 ::
          (entries.flatMap dumpLine ++ 125 :: List.replicate newlines 10)) := by
      simp [atParseScutilField, dump, front, back]
    _ = fieldFrom label n 32 (123 :: 10 ::
          (entries.flatMap dumpLine ++ 125 :: List.replicate newlines 10)) := by
      apply fieldFrom_word named _ 10 (by decide)
      · exact scutilKeyAt_other named (by decide) _
      · decide
    _ = fieldFrom label n 10
          (entries.flatMap dumpLine ++ 125 :: List.replicate newlines 10) := by
      rw [skip 32 (by decide), skip 123 (by decide)]
    _ = _ := by
      rw [fieldFrom_lines named alnum readable, fieldFrom_newlines named]

theorem atParseScutilField_dump (named : label ≠ []) (alnum : ∀ c ∈ label, isAlnum c = true)
    {entries : List (Bytes × Bytes)} (readable : ∀ entry ∈ entries, Readable label entry) (n : Nat) :
    atParseScutilField (dump entries) label n =
      match entries.find? (fun entry => eqCi label entry.1) with
      | some entry => entry.2.take (n - 1)
      | none => [] := by
  have read := atParseScutilField_dump_newlines named alnum readable 0 n
  rw [List.replicate_zero, List.append_nil] at read
  exact read

/-- The field of the only entry with its key. -/
theorem atParseScutilField_dump_of_mem (named : label ≠ []) (alnum : ∀ c ∈ label, isAlnum c = true)
    {entries : List (Bytes × Bytes)} (readable : ∀ entry ∈ entries, Readable label entry)
    {value : Bytes} (mem : (label, value) ∈ entries)
    (single : ∀ entry ∈ entries, eqCi label entry.1 = true → entry.2 = value) (n : Nat) :
    atParseScutilField (dump entries) label n = value.take (n - 1) := by
  rw [atParseScutilField_dump named alnum readable]
  cases found : entries.find? (fun entry => eqCi label entry.1) with
  | none =>
      have differs := List.find?_eq_none.mp found _ mem
      simp [eqCi] at differs
  | some entry =>
      have same := List.find?_some found
      exact congrArg (List.take (n - 1)) (single entry (List.mem_of_find?_eq_some found) same)

/-- No two keys are equal but for the case of their letters. -/
def KeysDiffer (entries : List (Bytes × Bytes)) : Prop :=
  entries.Pairwise fun one other => eqCi one.1 other.1 = false

instance (entries : List (Bytes × Bytes)) : Decidable (KeysDiffer entries) :=
  inferInstanceAs (Decidable (entries.Pairwise _))

theorem eqCi_trans {label one other : Bytes} (same : eqCi label one = true)
    (same' : eqCi label other = true) : eqCi one other = true := by
  rw [eqCi, decide_eq_true_eq] at same same' ⊢
  exact same.symm.trans same'

/-- At most one entry has a key. -/
theorem entry_unique {entries : List (Bytes × Bytes)} (keys : KeysDiffer entries)
    {one other : Bytes × Bytes} (mem : one ∈ entries) (mem' : other ∈ entries)
    (same : eqCi label one.1 = true) (same' : eqCi label other.1 = true) : one = other := by
  induction entries with
  | nil => exact absurd mem List.not_mem_nil
  | cons entry entries ih =>
      rw [KeysDiffer, List.pairwise_cons] at keys
      rcases List.mem_cons.mp mem with rfl | behind
      · rcases List.mem_cons.mp mem' with rfl | behind'
        · rfl
        · have differ := keys.1 other behind'
          rw [eqCi_trans same same'] at differ
          cases differ
      · rcases List.mem_cons.mp mem' with rfl | behind'
        · have differ := keys.1 one behind
          rw [eqCi_trans same' same] at differ
          cases differ
        · exact ih keys.2 behind behind'

/-- The field of a dump is the value of the key that is equal to the label but for the case
of its letters, cut to the array, and empty when there is no such key. -/
theorem scutil_field_by_key {entries : List (Bytes × Bytes)} (keys : KeysDiffer entries)
    (named : label ≠ []) (alnum : ∀ c ∈ label, isAlnum c = true)
    (readable : ∀ entry ∈ entries, Readable label entry) (newlines n : Nat) :
    (∀ entry ∈ entries, eqCi label entry.1 = true →
      atParseScutilField (dump entries ++ List.replicate newlines 10) label n =
        entry.2.take (n - 1)) ∧
    ((∀ entry ∈ entries, eqCi label entry.1 = false) →
      atParseScutilField (dump entries ++ List.replicate newlines 10) label n = []) := by
  have read := atParseScutilField_dump_newlines named alnum readable newlines n
  constructor
  · intro entry mem same
    cases found : entries.find? (fun entry => eqCi label entry.1) with
    | none => exact absurd same (List.find?_eq_none.mp found entry mem)
    | some first =>
        rw [found] at read
        have found_ : eqCi label first.1 = true :=
          @List.find?_some _ (fun entry : Bytes × Bytes => eqCi label entry.1) _ _ found
        have unique := entry_unique keys (List.mem_of_find?_eq_some found) mem found_ same
        rw [read, unique]
  · intro differ
    have none_ : entries.find? (fun entry => eqCi label entry.1) = none := by
      rw [List.find?_eq_none]
      intro entry mem
      rw [differ entry mem]
      exact Bool.false_ne_true
    rw [read, none_]

/-- The default route of a backup, with keys that begin like others. -/
def routeEntries : List (Bytes × Bytes) :=
  [(cstr "Gateway6", cstr "fe80::1"), (cstr "Kind6", cstr "none"),
    (cstr "Gateway", cstr "10.0.0.1"), (cstr "kind", [])]

theorem scutil_field_by_key_route :
    (∀ entry ∈ routeEntries, eqCi (cstr "Gateway") entry.1 = true →
      atParseScutilField (dump routeEntries ++ List.replicate 1 10) (cstr "Gateway") 64 =
        entry.2.take 63) ∧
    ((∀ entry ∈ routeEntries, eqCi (cstr "Gateway") entry.1 = false) →
      atParseScutilField (dump routeEntries ++ List.replicate 1 10) (cstr "Gateway") 64 = []) := by
  apply scutil_field_by_key (by decide) (by decide) (by decide)
  have plain : ∀ entry ∈ routeEntries, (∀ c ∈ entry.1, isAlnum c = true) ∧
      (∀ c ∈ entry.2, isPlain c = true) ∧ entry.2.head? ≠ some 58 ∧
      ¬ Resembles (cstr "Gateway") entry.2 := by decide
  intro entry mem
  obtain ⟨key, value, colon, other⟩ := plain entry mem
  exact ⟨key, value, colon, other⟩

/-! ## Scanning past fixed text -/

/-- The label cannot start in the text, whatever follows the text. -/
def lacksField (label : Bytes) (prev : UInt8) : Bytes → Bool
  | [] => true
  | c :: rest =>
      !(startsField prev && (label.zip (c :: rest)).all fun (l, d) => toLower d = toLower l) &&
        lacksField label c rest

theorem not_prefixCi_of_zip {p : Bytes} (rest : Bytes)
    (differs : (label.zip p).all (fun (l, d) => toLower d = toLower l) = false) :
    prefixCi label (p ++ rest) = false := by
  induction label generalizing p with
  | nil => contradiction
  | cons l label ih =>
      cases p with
      | nil => contradiction
      | cons c p =>
          rw [Bool.eq_false_iff, List.cons_append, ne_eq, prefixCi_cons]
          rintro ⟨same, matched⟩
          rw [List.zip_cons_cons, List.all_cons, Bool.and_eq_false_iff] at differs
          rcases differs with differs | differs
          · simp [same] at differs
          · rw [ih differs] at matched
            contradiction

theorem fieldFrom_past {text : Bytes} {prev : UInt8} (lacks : lacksField label prev text = true)
    (rest : Bytes) :
    fieldFrom label n prev (text ++ rest) = fieldFrom label n (text.getLastD prev) rest := by
  induction text generalizing prev with
  | nil => rfl
  | cons c text ih =>
      rw [lacksField, Bool.and_eq_true, Bool.not_eq_true', Bool.and_eq_false_iff] at lacks
      obtain ⟨here, later⟩ := lacks
      have skipped : (startsField prev && scutilKeyAt label (c :: text ++ rest)) = false := by
        rcases here with inside | differs
        · rw [inside, Bool.false_and]
        · rw [scutilKeyAt, not_prefixCi_of_zip rest differs, Bool.false_and, Bool.and_false]
      rw [List.cons_append] at skipped ⊢
      rw [fieldFrom, skipped, List.getLastD_cons]
      exact ih later

/-- A label is found where it stands behind a blank and before one. -/
theorem fieldFrom_here (named : label ≠ []) {prev c : UInt8} (starts : startsField prev = true)
    (ends : endsField c = true) (rest : Bytes) :
    fieldFrom label n prev (label ++ c :: rest) = fieldValue n (c :: rest) := by
  have found : scutilKeyAt label (label ++ c :: rest) = true := by
    simp [scutilKeyAt, prefixCi, ends]
  cases label with
  | nil => contradiction
  | cons l label =>
      rw [List.cons_append] at found ⊢
      rw [fieldFrom, starts, found, ← List.cons_append, List.drop_left]
      rfl

end

end WiredTethering.Net
