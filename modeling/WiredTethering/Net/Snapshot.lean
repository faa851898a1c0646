import Mathlib.Data.List.Nodup
import WiredTethering.Net.Config

/-!
# The snapshot read back

The snapshot is written as dictionaries of strings and read back from the text
that `scutil` prints; the routes in it were themselves read from the text of
`route get`.  Both readings return what was there, for the values that routes and
Wi-Fi devices have.
-/

namespace WiredTethering.Net

open WiredTethering.Memory
open WiredTethering.Common

/-! ## Values -/

/-- The keys of the record of routes. -/
def routeKeys : List Bytes :=
  [cstr "Kind", cstr "Gateway", cstr "Interface", cstr "Kind6", cstr "Gateway6",
    cstr "Interface6", cstr "WifiDev", cstr "WifiWasOn"]

/-- The keys of the record of the Wi-Fi power. -/
def wifiKeys : List Bytes :=
  [cstr "Device", cstr "WasOn", cstr "TurnedOff"]

/-- The name of an interface: letters and digits, no key of a record, and not the
word that stands for no interface. -/
structure IfName (name : Bytes) : Prop where
  alnum : ∀ c ∈ name, isAlnum c = true
  ne_nil : name ≠ []
  short : name.length ≤ 15
  other : ∀ key ∈ routeKeys ++ wifiKeys, eqCi key name = false
  ne_none : name ≠ cstr "none"

/-- A value that can be read back from a record under each of `keys`. -/
structure Token (keys : List Bytes) (value : Bytes) : Prop where
  plain : ∀ c ∈ value, isPlain c = true
  colon : value.head? ≠ some 58
  other : ∀ key ∈ keys, ¬ Resembles key value

instance (keys : List Bytes) (value : Bytes) : Decidable (Token keys value) :=
  decidable_of_iff
    ((∀ c ∈ value, isPlain c = true) ∧ value.head? ≠ some 58 ∧ ∀ key ∈ keys, ¬ Resembles key value)
    ⟨fun ⟨plain, colon, other⟩ => ⟨plain, colon, other⟩,
      fun token => ⟨token.plain, token.colon, token.other⟩⟩

/-- A gateway of the family: one word with the character of its addresses, and
neither a key of the record nor what `route get` prints in another place. -/
structure Gateway (family : Family) (gw : Bytes) : Prop where
  token : Token routeKeys gw
  mark : family.mark ∈ gw
  short : gw.length < family.gwLen
  notLink : (cstr "link#").isPrefixOf gw = false
  notLabel : prefixCi (cstr "interface:") gw = false

instance (family : Family) (gw : Bytes) : Decidable (Gateway family gw) :=
  decidable_of_iff
    (Token routeKeys gw ∧ family.mark ∈ gw ∧ gw.length < family.gwLen ∧
      (cstr "link#").isPrefixOf gw = false ∧ prefixCi (cstr "interface:") gw = false)
    ⟨fun ⟨token, mark, short, notLink, notLabel⟩ => ⟨token, mark, short, notLink, notLabel⟩,
      fun valid => ⟨valid.token, valid.mark, valid.short, valid.notLink, valid.notLabel⟩⟩

/-- The values of a default route are as the host prints them. -/
def Route.Wf (family : Family) : Route → Prop
  | .none => True
  | .gateway gw => Gateway family gw
  | .interface ifname => IfName ifname

theorem isAlnum_isPlain {c : UInt8} (alnum : isAlnum c = true) : isPlain c = true := by
  grind [isAlnum, isAlpha, isDigit, isPlain, isSpace]

theorem Token.nil {keys : List Bytes} (named : ∀ key ∈ keys, key ≠ []) : Token keys [] where
  plain := nofun
  colon := nofun
  other := by
    rintro key mem ⟨matched, -⟩
    rw [not_prefixCi_nil (named key mem)] at matched
    contradiction

/-- A word of letters and digits resembles a key only if it is the key. -/
theorem Resembles.same {key name : Bytes} (alnum : ∀ c ∈ name, isAlnum c = true)
    (resembles : Resembles key name) : eqCi key name = true := by
  rcases resembles with ⟨matched, ends | colon⟩
  · have whole : name.take key.length = name :=
      List.take_of_length_le (List.drop_eq_nil_iff.mp ends)
    simpa [eqCi, prefixCi, whole, eq_comm] using matched
  · have inName : 58 ∈ name := List.mem_of_mem_drop (List.mem_of_head? colon)
    exact absurd (alnum 58 inName) (by decide)

theorem Token.of_alnum {keys : List Bytes} {name : Bytes} (alnum : ∀ c ∈ name, isAlnum c = true)
    (other : ∀ key ∈ keys, eqCi key name = false) : Token keys name where
  plain := fun c mem => isAlnum_isPlain (alnum c mem)
  colon := fun same => absurd (alnum 58 (List.mem_of_head? same)) (by decide)
  other := by
    intro key mem resembles
    have same := resembles.same alnum
    rw [other key mem] at same
    contradiction

theorem IfName.token {name : Bytes} (valid : IfName name) : Token routeKeys name :=
  .of_alnum valid.alnum fun key mem => valid.other key (List.mem_append_left _ mem)

theorem IfName.wifiToken {name : Bytes} (valid : IfName name) : Token wifiKeys name :=
  .of_alnum valid.alnum fun key mem => valid.other key (List.mem_append_right _ mem)

/-! ## Records -/

/-- A dictionary of strings. -/
def record (entries : List (Bytes × Bytes)) : Dict :=
  entries.map fun entry => (entry.1, .str entry.2)

/-- The entries have keys from `keys`, each at most once, and values that can be
read back under any of them. -/
structure Recorded (keys : List Bytes) (entries : List (Bytes × Bytes)) : Prop where
  keyed : ∀ key ∈ keys, key ≠ [] ∧ ∀ c ∈ key, isAlnum c = true
  distinct : ∀ a ∈ keys, ∀ b ∈ keys, eqCi a b = true → a = b
  single : (entries.map Prod.fst).Nodup
  known : ∀ entry ∈ entries, entry.1 ∈ keys
  tokens : ∀ entry ∈ entries, Token keys entry.2
  fits : (dump entries).length ≤ 2047

/-- The words that `scutil_show` looks for do not start in a word of the text. -/
theorem strstr_word {word : Bytes} (plain : ∀ c ∈ word, isPlain c = true) {c : UInt8}
    (gap : isPlain c = false) {rest : Bytes} (next : c = 32 → rest.head? ≠ some 115) :
    strstr (cstr "No such key") (word ++ c :: rest) =
      strstr (cstr "No such key") (c :: rest) := by
  have needle : cstr "No such key" = 78 :: 111 :: 32 :: 115 :: cstr "uch key" := by decide
  have absent {x : UInt8} {word : Bytes} (plain : ∀ d ∈ word, isPlain d = true) :
      (cstr "No such key").isPrefixOf (x :: (word ++ c :: rest)) = false := by
    rw [Bool.eq_false_iff, ne_eq, List.isPrefixOf_iff_prefix, needle, List.cons_prefix_cons]
    rintro ⟨-, starts⟩
    match word with
    | [] =>
        rw [List.nil_append, List.cons_prefix_cons] at starts
        rw [← starts.1] at gap
        contradiction
    | [y] =>
        rw [List.cons_append, List.nil_append, List.cons_prefix_cons, List.cons_prefix_cons]
          at starts
        obtain ⟨-, blank, behind⟩ := starts
        obtain ⟨tail, rfl⟩ := behind
        exact next blank.symm rfl
    | y :: z :: word =>
        rw [List.cons_append, List.cons_append, List.cons_prefix_cons, List.cons_prefix_cons]
          at starts
        exact isPlain_ne (plain z (by simp)) (by decide) starts.2.1.symm
  induction word with
  | nil => rfl
  | cons x word ih =>
      have rest := fun d mem => plain d (List.mem_cons_of_mem x mem)
      rw [List.cons_append, strstr, absent rest, Bool.false_or]
      exact ih rest

theorem strstr_skip {c : UInt8} (other : c ≠ 78) (rest : Bytes) :
    strstr (cstr "No such key") (c :: rest) = strstr (cstr "No such key") rest := by
  have needle : cstr "No such key" = 78 :: cstr "o such key" := by decide
  have absent : (cstr "No such key").isPrefixOf (c :: rest) = false := by
    rw [Bool.eq_false_iff, ne_eq, List.isPrefixOf_iff_prefix, needle, List.cons_prefix_cons]
    exact fun starts => other starts.1.symm
  rw [strstr, absent, Bool.false_or]

/-- A dump of plain values does not say that there is no such key. -/
theorem strstr_dump {entries : List (Bytes × Bytes)}
    (keyed : ∀ entry ∈ entries, ∀ c ∈ entry.1, isAlnum c = true)
    (plain : ∀ entry ∈ entries, ∀ c ∈ entry.2, isPlain c = true) :
    strstr (cstr "No such key") (dump entries) = false := by
  have front : cstr "<dictionary> \x7b\n" = cstr "<dictionary>" ++ [32, 123, 10] := by decide
  have back : cstr "\x7d" = [125] := by decide
  have lines : strstr (cstr "No such key") (entries.flatMap dumpLine ++ [125]) = false := by
    induction entries with
    | nil => decide
    | cons entry entries ih =>
        have key := fun c mem => isAlnum_isPlain (keyed entry List.mem_cons_self c mem)
        have value := plain entry List.mem_cons_self
        rw [List.flatMap_cons, List.append_assoc, dumpLine_append, strstr_skip (by decide),
          strstr_skip (by decide), strstr_word key (by decide) (by simp),
          strstr_skip (by decide), strstr_skip (by decide), strstr_skip (by decide),
          strstr_word value (by decide) (by simp), strstr_skip (by decide)]
        exact ih (fun other mem => keyed other (List.mem_cons_of_mem entry mem))
          fun other mem => plain other (List.mem_cons_of_mem entry mem)
  rw [dump, front, back, List.append_assoc, List.append_assoc]
  change strstr _ (cstr "<dictionary>" ++ 32 :: 123 :: 10 :: (entries.flatMap dumpLine ++ [125])) =
    false
  rw [strstr_word (by decide) (by decide) (by simp), strstr_skip (by decide),
    strstr_skip (by decide), strstr_skip (by decide)]
  exact lines

theorem dump_length_perm {shown entries : List (Bytes × Bytes)} (perm : shown.Perm entries) :
    (dump shown).length = (dump entries).length := by
  have lines := (perm.flatMap_right dumpLine).length_eq
  simp [dump, lines]

theorem captured_dump {entries : List (Bytes × Bytes)} (fits : (dump entries).length ≤ 2047) :
    captured (dump entries) 2048 = dump entries := by
  have back : cstr "\x7d" = [125] := by decide
  rw [captured, List.take_of_length_le fits, dump, back]
  exact List.rdropWhile_concat_neg _ _ _ (by decide)

theorem printed_record (h : Host) (order : ∀ d, (h.order d).Perm d)
    (entries : List (Bytes × Bytes)) :
    ∃ shown : List (Bytes × Bytes), shown.Perm entries ∧
      Dict.printed (h.order (record entries)) = dump shown := by
  refine ⟨_, ?_, rfl⟩
  have perm := (order (record entries)).map fun entry => (entry.1, entry.2.printed)
  have same : (record entries).map (fun entry => (entry.1, entry.2.printed)) = entries := by
    rw [record, List.map_map]
    exact List.map_id entries
  rw [same] at perm
  exact perm

namespace Recorded

variable {keys : List Bytes} {entries shown : List (Bytes × Bytes)}

theorem perm (recorded : Recorded keys entries) (perm : shown.Perm entries) :
    Recorded keys shown where
  keyed := recorded.keyed
  distinct := recorded.distinct
  single := ((perm.map Prod.fst).nodup_iff).mpr recorded.single
  known := fun entry mem => recorded.known entry (perm.mem_iff.mp mem)
  tokens := fun entry mem => recorded.tokens entry (perm.mem_iff.mp mem)
  fits := by
    rw [dump_length_perm perm]
    exact recorded.fits

/-- A field of a record is read back. -/
theorem field (recorded : Recorded keys entries) {label value : Bytes}
    (mem : (label, value) ∈ entries) (n : Nat) :
    atParseScutilField (dump entries) label n = value.take (n - 1) := by
  have known : label ∈ keys := recorded.known _ mem
  obtain ⟨named, alnum⟩ := recorded.keyed label known
  apply atParseScutilField_dump_of_mem named alnum _ mem
  · intro entry entryMem same
    have equal := recorded.distinct label known entry.1 (recorded.known entry entryMem) same
    exact (Prod.mk.inj (List.inj_on_of_nodup_map recorded.single entryMem mem equal.symm)).2
  · intro entry entryMem
    have token := recorded.tokens entry entryMem
    exact
      { key := (recorded.keyed entry.1 (recorded.known entry entryMem)).2
        plain := token.plain
        colon := token.colon
        other := token.other label known }

theorem shows (recorded : Recorded keys entries) :
    captured (dump entries) 2048 = dump entries ∧
      strstr (cstr "No such key") (dump entries) = false := by
  constructor
  · exact captured_dump recorded.fits
  · apply strstr_dump
    · exact fun entry mem => (recorded.keyed entry.1 (recorded.known entry mem)).2
    · exact fun entry mem => (recorded.tokens entry mem).plain

end Recorded

/-! ## The output of `route get` -/

/-- The end of the output as a caller sees it. -/
def routeBackShown : Bytes :=
  routeBack.rdropWhile fun c => c = 10 || c = 13 || c = 32

theorem captured_route {front : Bytes} (short : front.length ≤ 1000) :
    captured (front ++ routeBack) 2048 = front ++ routeBackShown := by
  have back : routeBack.length ≤ 1000 ∧
      (routeBack.reverse.dropWhile fun c => c = 10 || c = 13 || c = 32).isEmpty = false := by
    decide +kernel
  obtain ⟨size, ends⟩ := back
  have fits : (front ++ routeBack).length ≤ 2047 := by
    rw [List.length_append]
    omega
  rw [captured, List.take_of_length_le fits, routeBackShown, List.rdropWhile, List.rdropWhile,
    List.reverse_append, List.dropWhile_append, ends]
  simp

section

variable {label : Bytes} {n : Nat}

/-- Whole lines in which the label is not found. -/
def Passes (label text : Bytes) : Prop :=
  ∀ n rest, fieldFrom label n 10 (text ++ rest) = fieldFrom label n 10 rest

theorem Passes.append {front back : Bytes} (first : Passes label front)
    (second : Passes label back) : Passes label (front ++ back) := by
  intro n rest
  rw [List.append_assoc, first, second]

theorem Passes.nil : Passes label [] :=
  fun _ _ => rfl

/-- Fixed lines. -/
theorem Passes.fixed {text : Bytes} (lacks : lacksField label 10 text = true)
    (last : text.getLastD 10 = 10) : Passes label text := by
  intro n rest
  rw [fieldFrom_past lacks, last]

/-- A word between fixed text and the end of its line. -/
theorem Passes.word (named : label.head?.any isAlnum = true) {front : Bytes}
    (lacks : lacksField label 10 front = true) {word : Bytes}
    (inside : ∀ c ∈ word, startsField c = false)
    (differs : ∀ rest, scutilKeyAt label (word ++ 10 :: rest) = false) :
    Passes label (front ++ word ++ [10]) := by
  intro n rest
  rw [List.append_assoc, List.append_assoc, fieldFrom_past lacks]
  exact fieldFrom_word named inside _ (by decide) (differs rest)

/-- The value behind the label, when the label stands behind a blank. -/
theorem fieldFrom_value (label front : Bytes) (lacks : lacksField label 10 front = true)
    (starts : startsField (front.getLastD 10) = true) (named : label ≠ []) {value : Bytes}
    (plain : ∀ c ∈ value, isPlain c = true) (colon : value.head? ≠ some 58)
    (short : value.length < n) (rest : Bytes) :
    fieldFrom label n 10 (front ++ (label ++ 32 :: (value ++ 10 :: rest))) = value := by
  rw [fieldFrom_past lacks, fieldFrom_here named starts (by decide)]
  have read := fieldValue_line (n := n) [32] (by decide) plain colon rest
  rw [List.take_of_length_le (Nat.le_sub_one_of_lt short)] at read
  exact read

/-- A name does not match a label with a colon. -/
theorem not_prefixCi_colon {label : Bytes} (colon : 58 ∈ label) {name : Bytes}
    (alnum : ∀ c ∈ name, isAlnum c = true) : prefixCi label name = false := by
  rw [Bool.eq_false_iff]
  intro matched
  have lower : toLower 58 ∈ (name.take label.length).map toLower := by
    rw [of_decide_eq_true matched]
    exact List.mem_map_of_mem colon
  obtain ⟨c, mem, same⟩ := List.mem_map.mp lower
  have digit := isAlnum_of_toLower_eq (alnum c (List.mem_of_mem_take mem)) same.symm
  exact absurd digit (by decide)

/-- A label that does not match at a word does not match where the line ends. -/
theorem scutilKeyAt_line (lines : ∀ l ∈ label, toLower 10 ≠ toLower l) {word : Bytes}
    (differs : prefixCi label word = false) (rest : Bytes) :
    scutilKeyAt label (word ++ 10 :: rest) = false := by
  have mismatch : prefixCi label (word ++ 10 :: rest) = false := by
    rw [Bool.eq_false_iff, ne_eq, prefixCi_append_iff lines, differs]
    exact fun matched => absurd matched.1 (by decide)
  rw [scutilKeyAt, mismatch, Bool.false_and]

end

theorem gatewayLine_eq (gw : Bytes) :
    gatewayLine gw = cstr "    " ++ (cstr "gateway:" ++ 32 :: (gw ++ 10 :: [])) := by
  have front : cstr "    gateway: " = cstr "    " ++ (cstr "gateway:" ++ [32]) := by decide
  have back : cstr "\n" = [10] := by decide
  simp [gatewayLine, front, back]

theorem interfaceLine_eq (ifname : Bytes) :
    interfaceLine ifname = cstr "  " ++ (cstr "interface:" ++ 32 :: (ifname ++ 10 :: [])) := by
  have front : cstr "  interface: " = cstr "  " ++ (cstr "interface:" ++ [32]) := by decide
  have back : cstr "\n" = [10] := by decide
  simp [interfaceLine, front, back]

/-- The value of the line is found. -/
theorem gatewayLine_value {n : Nat} {gw : Bytes} (plain : ∀ c ∈ gw, isPlain c = true)
    (colon : gw.head? ≠ some 58) (short : gw.length < n) (rest : Bytes) :
    fieldFrom (cstr "gateway:") n 10 (gatewayLine gw ++ rest) = gw := by
  have value := fieldFrom_value (cstr "gateway:") (cstr "    ") (by decide) (by decide)
    (by decide) plain colon short rest
  simpa [gatewayLine_eq] using value

theorem interfaceLine_value {n : Nat} {ifname : Bytes} (valid : IfName ifname) (short : 15 < n)
    (rest : Bytes) : fieldFrom (cstr "interface:") n 10 (interfaceLine ifname ++ rest) = ifname := by
  have token := valid.token
  have value := fieldFrom_value (cstr "interface:") (cstr "  ") (by decide) (by decide)
    (by decide) token.plain token.colon (Nat.lt_of_le_of_lt valid.short short) rest
  simpa [interfaceLine_eq] using value

theorem routeFront_passes_gateway (family : Family) :
    Passes (cstr "gateway:") (routeFront family) := by
  cases family with
  | inet => exact .fixed (by decide +kernel) (by decide +kernel)
  | inet6 => exact .fixed (by decide +kernel) (by decide +kernel)

theorem routeFront_passes_interface (family : Family) :
    Passes (cstr "interface:") (routeFront family) := by
  cases family with
  | inet => exact .fixed (by decide +kernel) (by decide +kernel)
  | inet6 => exact .fixed (by decide +kernel) (by decide +kernel)

theorem routeBack_lacks {label : Bytes} (mem : label ∈ [cstr "gateway:", cstr "interface:"])
    (n : Nat) : fieldFrom label n 10 routeBackShown = [] := by
  have lacks : ∀ label ∈ [cstr "gateway:", cstr "interface:"],
      lacksField label 10 routeBackShown = true := by
    decide +kernel
  have past := fieldFrom_past (n := n) (lacks label mem) []
  rw [List.append_nil] at past
  exact past

theorem gatewayLine_passes {gw : Bytes} (plain : ∀ d ∈ gw, isPlain d = true)
    (differs : prefixCi (cstr "interface:") gw = false) :
    Passes (cstr "interface:") (gatewayLine gw) := by
  have passes : Passes (cstr "interface:") (cstr "    gateway: " ++ gw ++ [10]) := by
    apply Passes.word (by decide) (by decide)
    · exact fun d mem => isPlain_not_startsField (plain d mem)
    · exact scutilKeyAt_line (by decide) differs
  exact passes

theorem interfaceLine_passes {ifname : Bytes} (valid : IfName ifname) :
    Passes (cstr "gateway:") (interfaceLine ifname) := by
  have passes : Passes (cstr "gateway:") (cstr "  interface: " ++ ifname ++ [10]) := by
    apply Passes.word (by decide) (by decide)
    · exact fun d mem => isPlain_not_startsField (valid.token.plain d mem)
    · exact scutilKeyAt_line (by decide) (not_prefixCi_colon (by decide) valid.alnum)
  exact passes

theorem octetStr_digits (b : UInt8) : ∀ c ∈ octetStr b, isDigit c = true := by
  have digits : ∀ n < 10, isDigit (UInt8.ofNat (48 + n)) = true := by decide
  have digit {n : Nat} (small : n < 10) : isDigit (UInt8.ofNat (48 + n)) = true := digits n small
  intro c mem
  simp only [octetStr] at mem
  have bound := b.toNat_lt
  split at mem
  · rw [List.mem_singleton] at mem
    rw [mem]
    exact digit (by omega)
  · split at mem
    · simp only [List.mem_cons, List.not_mem_nil, or_false] at mem
      rcases mem with rfl | rfl
      · exact digit (by omega)
      · exact digit (by omega)
    · simp only [List.mem_cons, List.not_mem_nil, or_false] at mem
      rcases mem with rfl | rfl | rfl
      · exact digit (by omega)
      · exact digit (by omega)
      · exact digit (by omega)

theorem octetStr_length (b : UInt8) : (octetStr b).length ≤ 3 := by
  simp only [octetStr]
  split
  · simp
  · split <;> simp

/-- What the host answers is well formed: the assumptions about the commands. -/
structure Host.Reliable (h : Host) : Prop where
  /-- Every command does its work. -/
  ok : ∀ n, h.ok n = true
  /-- A dictionary is printed in some order. -/
  order : ∀ d, (h.order d).Perm d
  reached : ∀ gw, h.reachedBy gw = [] ∨ IfName (h.reachedBy gw)
  device : ∀ dev, atParseWifiDeviceText (captured h.hardwarePorts 4096) 32 = some dev → IfName dev
  /-- The power of a device can be read. -/
  power : ∀ dev on,
    atParseWifiPowerText (captured (h.powerText dev on) 256) = if on then 1 else 0

/-- What the snapshot records of a default route. -/
def infoOf (h : Host) (family : Family) : Route → RouteInfo
  | .none => ⟨cstr "none", [], []⟩
  | .gateway gw => ⟨family.kind, gw, h.reachedBy gw⟩
  | .interface ifname => ⟨cstr "iface", [], ifname⟩

section

variable {h : Host} {family : Family}

theorem routeFront_length (family : Family) : (routeFront family).length ≤ 100 := by
  cases family <;> decide +kernel

theorem gatewayLine_length (gw : Bytes) : (gatewayLine gw).length = gw.length + 14 := by
  have front : (cstr "    gateway: ").length = 13 := by decide
  have back : (cstr "\n").length = 1 := by decide
  rw [gatewayLine, List.length_append, List.length_append, front, back]
  omega

theorem interfaceLine_length (ifname : Bytes) :
    (interfaceLine ifname).length = ifname.length + 14 := by
  have front : (cstr "  interface: ").length = 13 := by decide
  have back : (cstr "\n").length = 1 := by decide
  rw [interfaceLine, List.length_append, List.length_append, front, back]
  omega

theorem interfaceLines_length {ifname : Bytes} (named : ifname = [] ∨ IfName ifname) :
    (interfaceLines ifname).length ≤ 29 := by
  rcases named with rfl | valid
  · decide
  · rw [interfaceLines, if_neg valid.ne_nil, interfaceLine_length]
    have short := valid.short
    omega

/-- The interface named in the lines behind others without one, if any is named. -/
theorem interface_field {lines : Bytes} (passes : Passes (cstr "interface:") lines)
    {ifname : Bytes} (named : ifname = [] ∨ IfName ifname) :
    atParseScutilField (lines ++ interfaceLines ifname ++ routeBackShown)
      (cstr "interface:") 32 = ifname := by
  rw [atParseScutilField, List.append_assoc, passes]
  rcases named with rfl | valid
  · rw [interfaceLines, if_pos rfl, List.nil_append]
    exact routeBack_lacks (by simp) 32
  · rw [interfaceLines, if_neg valid.ne_nil]
    exact interfaceLine_value valid (by decide) _

/-- The snapshot of a route via a gateway. -/
theorem routeInfoOf_gateway (reliable : h.Reliable) {gw : Bytes} (valid : Gateway family gw) :
    ∃ text, routeText h family (.gateway gw) = some text ∧
      routeInfoOf family (captured text 2048) = infoOf h family (.gateway gw) := by
  obtain ⟨token, mark, short, notLink, notLabel⟩ := valid
  have reached := reliable.reached gw
  have small : (routeFront family ++ gatewayLine gw ++
      interfaceLines (h.reachedBy gw)).length ≤ 1000 := by
    have first := routeFront_length family
    have last := interfaceLines_length reached
    have limit : family.gwLen ≤ 128 := by cases family <;> decide
    rw [List.length_append, List.length_append, gatewayLine_length]
    omega
  have gateway : atParseScutilField (routeFront family ++ gatewayLine gw ++
      interfaceLines (h.reachedBy gw) ++ routeBackShown) (cstr "gateway:") family.gwLen = gw := by
    rw [atParseScutilField, List.append_assoc, List.append_assoc,
      routeFront_passes_gateway family]
    exact gatewayLine_value token.plain token.colon short _
  have passes := (routeFront_passes_interface family).append
    (gatewayLine_passes token.plain notLabel)
  have nonempty : gw ≠ [] := List.ne_nil_of_mem mark
  refine ⟨_, rfl, ?_⟩
  rw [captured_route small, routeInfoOf, gateway, interface_field passes reached]
  simp [notLink, mark, nonempty, infoOf]

/-- The snapshot of a route via an interface. -/
theorem routeInfoOf_interface (h : Host) (family : Family) {ifname : Bytes}
    (valid : IfName ifname) :
    ∃ text, routeText h family (.interface ifname) = some text ∧
      routeInfoOf family (captured text 2048) = infoOf h family (.interface ifname) := by
  have front := routeFront_length family
  have short := valid.short
  have lines : interfaceLines ifname = interfaceLine ifname := if_neg valid.ne_nil
  refine ⟨_, rfl, ?_⟩
  cases linked : h.link ifname with
  | none =>
      have small : (routeFront family ++ interfaceLine ifname).length ≤ 1000 := by
        rw [List.length_append, interfaceLine_length]
        omega
      have gateway : atParseScutilField (routeFront family ++ interfaceLine ifname ++
          routeBackShown) (cstr "gateway:") family.gwLen = [] := by
        have passes := (routeFront_passes_gateway family).append (interfaceLine_passes valid)
        rw [atParseScutilField, passes]
        exact routeBack_lacks (by simp) _
      have interface := interface_field (routeFront_passes_interface family) (.inr valid)
      rw [lines] at interface
      rw [Option.map_none, Option.getD_none, List.append_nil, captured_route small, routeInfoOf,
        gateway, interface]
      simp [infoOf, valid.ne_nil]
  | some b =>
      have plain : ∀ c ∈ cstr "link#" ++ octetStr b, isPlain c = true := by
        intro c mem
        rcases List.mem_append.mp mem with inLink | inNumber
        · exact (by decide : ∀ c ∈ cstr "link#", isPlain c = true) c inLink
        · exact isAlnum_isPlain (by simp [isAlnum, octetStr_digits b c inNumber])
      have head : (cstr "link#" ++ octetStr b).head? = some 108 := rfl
      have notLabel : prefixCi (cstr "interface:") (cstr "link#" ++ octetStr b) = false :=
        not_prefixCi_of_zip _ (by decide)
      have limit : 64 ≤ family.gwLen := by cases family <;> decide
      have number : (cstr "link#" ++ octetStr b).length ≤ 8 := by
        have five : (cstr "link#").length = 5 := by decide
        have three := octetStr_length b
        rw [List.length_append]
        omega
      have small : (routeFront family ++ gatewayLine (cstr "link#" ++ octetStr b) ++
          interfaceLine ifname).length ≤ 1000 := by
        rw [List.length_append, List.length_append, gatewayLine_length, interfaceLine_length]
        omega
      have gateway : atParseScutilField (routeFront family ++
          gatewayLine (cstr "link#" ++ octetStr b) ++ interfaceLine ifname ++ routeBackShown)
            (cstr "gateway:") family.gwLen = cstr "link#" ++ octetStr b := by
        rw [atParseScutilField, List.append_assoc, List.append_assoc,
          routeFront_passes_gateway family]
        exact gatewayLine_value plain (by rw [head]; decide) (by omega) _
      have passes := (routeFront_passes_interface family).append
        (gatewayLine_passes plain notLabel)
      have interface := interface_field passes (.inr valid)
      rw [lines] at interface
      rw [Option.map_some, Option.getD_some, captured_route small, routeInfoOf, gateway, interface]
      have isLink : (cstr "link#").isPrefixOf (cstr "link#" ++ octetStr b) = true :=
        List.isPrefixOf_iff_prefix.mpr (List.prefix_append _ _)
      have nonempty : cstr "link#" ++ octetStr b ≠ [] := by
        intro empty
        rw [empty] at head
        contradiction
      rw [isLink]
      simp [nonempty, infoOf]

end

/-! ## Commands that do their work -/

namespace Host.Reliable

variable {h : Host}

theorem runCmd (reliable : h.Reliable) (s : NetState) (effect : NetState → Option NetState) :
    Net.runCmd h s effect =
      match effect s.ticked with
      | some next => (next, true)
      | none => (s.ticked, false) := by
  exact if_pos (reliable.ok s.tick)

theorem runPlain (reliable : h.Reliable) (s : NetState) :
    Net.runPlain h s = (s.ticked, true) :=
  reliable.runCmd s some

theorem captureCmd (reliable : h.Reliable) (s : NetState) (output : Option Bytes) (n : Nat) :
    Net.captureCmd h s output n = (s.ticked, output.map (captured · n)) := by
  rw [Net.captureCmd, reliable.runPlain]
  rfl

theorem scutilRun (reliable : h.Reliable) (s : NetState) (script : List ScutilCmd) :
    Net.scutilRun h s script =
      ({ s.ticked with store := execScript s.store script }, true) :=
  reliable.runCmd s _

/-- The snapshot of a default route. -/
theorem snapshotRoute (reliable : h.Reliable) {s : NetState} {family : Family} {r : Route}
    (found : s.defaultRoute family = r) (valid : r.Wf family) :
    Net.snapshotRoute h s family = (s.ticked, infoOf h family r) := by
  rw [Net.snapshotRoute, reliable.captureCmd, found]
  cases r with
  | none => rfl
  | gateway gw =>
      obtain ⟨text, printed, read⟩ := routeInfoOf_gateway reliable valid
      rw [printed, ← read]
      rfl
  | interface ifname =>
      obtain ⟨text, printed, read⟩ := routeInfoOf_interface h family valid
      rw [printed, ← read]
      rfl

/-- A record that is shown. -/
theorem scutilShow (reliable : h.Reliable) {s : NetState} {key : StoreKey} {keys : List Bytes}
    {entries : List (Bytes × Bytes)} (stored : s.store key = some (record entries))
    (recorded : Recorded keys entries) :
    ∃ shown, Recorded keys shown ∧ shown.Perm entries ∧
      Net.scutilShow h s key 2048 = (s.ticked, 0, dump shown) := by
  obtain ⟨shown, perm, printed⟩ := printed_record h reliable.order entries
  have valid := recorded.perm perm
  obtain ⟨whole, found⟩ := valid.shows
  refine ⟨shown, valid, perm, ?_⟩
  rw [Net.scutilShow, reliable.captureCmd, showText, stored]
  simp [printed, whole, found]

theorem scutilShow_missing (reliable : h.Reliable) {s : NetState} {key : StoreKey}
    (missing : s.store key = none) :
    Net.scutilShow h s key 2048 =
      (s.ticked, 1, captured (cstr "  No such key") 2048) := by
  have found : strstr (cstr "No such key") (captured (cstr "  No such key") 2048) = true := by
    decide +kernel
  rw [Net.scutilShow, reliable.captureCmd, showText, missing]
  simp only [Option.map_some, found, if_true]

end Host.Reliable

end WiredTethering.Net
