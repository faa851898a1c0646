import WiredTethering.Net.Config
import WiredTethering.Text.Components

/-!
# The Wi-Fi device of a listing

`networksetup -listallhardwareports` prints a stanza for each hardware port.  The loop of
`at_parse_wifi_device_text` carries one flag from line to line; over whole stanzas it chooses
the first stanza that names Wi-Fi and has a device line.
-/

namespace WiredTethering.Net

open WiredTethering.Memory
open WiredTethering.Common

/-! ## The call with its output -/

/-- The loop of `at_parse_wifi_device_text` over the lines: the result and the text in `dev`. -/
def wifiDeviceOut (n : Nat) (want : Bool) : List Bytes → Int × Bytes
  | [] => (-1, [])
  | line :: lines =>
      if isPortLine line then wifiDeviceOut n (namesWifi line) lines
      else if !want || !isDeviceLine line then wifiDeviceOut n want lines
      else (if deviceOf line n ≠ [] then 0 else -1, deviceOf line n)

/-- `at_parse_wifi_device_text` with the text it leaves in `dev`, an array of `n` bytes. -/
def atParseWifiDeviceCall (text : Bytes) (n : Nat) : Int × Bytes :=
  if n = 0 then (-1, [])
  else wifiDeviceOut n false (((strlcpy text 4096).splitOn 10).filter (· ≠ []))

variable {n : Nat}

theorem wifiDeviceFrom_eq (want : Bool) (lines : List Bytes) :
    wifiDeviceFrom n want lines =
      if (wifiDeviceOut n want lines).1 = 0 then some (wifiDeviceOut n want lines).2 else none := by
  induction lines generalizing want with
  | nil => rfl
  | cons line lines ih =>
      rw [wifiDeviceFrom, wifiDeviceOut]
      split
      · exact ih _
      · split
        · exact ih _
        · by_cases empty : deviceOf line n = []
          · simp [empty]
          · simp [empty]

/-- The device of the model is the text of a call that returns 0. -/
theorem atParseWifiDeviceText_eq (text : Bytes) (room : 0 < n) :
    atParseWifiDeviceText text n =
      if (atParseWifiDeviceCall text n).1 = 0 then some (atParseWifiDeviceCall text n).2
      else none := by
  rw [atParseWifiDeviceCall, if_neg room.ne']
  exact wifiDeviceFrom_eq false _

/-! ## Names -/

/-- The text with blanks trimmed: blanks and tabs around it, and carriage returns behind. -/
def trimmed (p : Bytes) : Bytes :=
  (p.dropWhile isBlank).rdropWhile fun c => isBlank c || c = 13

/-- The device name of a device line: what is behind the label, trimmed. -/
def deviceName (line : Bytes) : Bytes :=
  trimmed (line.drop
    (if (cstr "Device:").isPrefixOf line then (cstr "Device:").length else (cstr "장치:").length))

/-- What the port line of Wi-Fi names. -/
def wifiNames : List Bytes :=
  [cstr "Wi-Fi", cstr "WiFi", cstr "AirPort", cstr "와이파이"]

/-- One of the names stands in the line, in letters of either case. -/
def NamesWifi (line : Bytes) : Prop :=
  ∃ name ∈ wifiNames, ∃ found, found <:+: line ∧ eqCi found name = true

theorem prefixCi_iff {label p : Bytes} :
    prefixCi label p = true ↔ ∃ found, found <+: p ∧ eqCi found label = true := by
  simp only [prefixCi, eqCi, decide_eq_true_eq]
  constructor
  · intro same
    exact ⟨p.take label.length, List.take_prefix _ _, same⟩
  · rintro ⟨found, ⟨rest, rfl⟩, same⟩
    have sized : found.length = label.length := by
      simpa only [List.length_map] using congrArg List.length same
    rw [← sized, List.take_left, same]

theorem atStrContainsCi_iff {needle : Bytes} (named : needle ≠ []) (s : Bytes) :
    atStrContainsCi needle s = true ↔ ∃ found, found <:+: s ∧ eqCi found needle = true := by
  induction s with
  | nil =>
      constructor
      · intro contains
        cases contains
      · rintro ⟨found, inside, same⟩
        rw [List.infix_nil.mp inside] at same
        cases needle with
        | nil => exact absurd rfl named
        | cons c needle => simp [eqCi] at same
  | cons c s ih =>
      have filled : (!needle.isEmpty) = true := by simp [named]
      rw [atStrContainsCi, filled, Bool.true_and, Bool.or_eq_true, ih, prefixCi_iff]
      constructor
      · rintro (⟨found, front, same⟩ | ⟨found, inside, same⟩)
        · exact ⟨found, front.isInfix, same⟩
        · exact ⟨found, List.infix_cons inside, same⟩
      · rintro ⟨found, inside, same⟩
        rcases List.infix_cons_iff.mp inside with front | behind
        · exact .inl ⟨found, front, same⟩
        · exact .inr ⟨found, behind, same⟩

theorem namesWifi_iff {line : Bytes} : namesWifi line = true ↔ NamesWifi line := by
  have named : cstr "Wi-Fi" ≠ [] ∧ cstr "WiFi" ≠ [] ∧ cstr "AirPort" ≠ [] ∧
      cstr "와이파이" ≠ [] := by decide
  obtain ⟨dashed, plain, older, korean⟩ := named
  simp only [namesWifi, Bool.or_eq_true, atStrContainsCi_iff dashed, atStrContainsCi_iff plain,
    atStrContainsCi_iff older, atStrContainsCi_iff korean, NamesWifi, wifiNames,
    List.exists_mem_cons_iff, List.not_mem_nil, false_and, exists_false, or_false, or_assoc]

/-- Trimming the end undoes a cut that falls behind what trimming leaves. -/
theorem rdropWhile_take {trims : UInt8 → Bool} {p : Bytes} {k : Nat}
    (fits : (p.rdropWhile trims).length ≤ k) :
    (p.take k).rdropWhile trims = p.rdropWhile trims := by
  have cut : p.take k = p.rdropWhile trims ++
      (p.rtakeWhile trims).take (k - (p.rdropWhile trims).length) := by
    conv_lhs => rw [← List.rdropWhile_append_rtakeWhile (p := trims) (l := p)]
    rw [List.take_append, List.take_of_length_le fits]
  have trailing : ∀ c ∈ ((p.rtakeWhile trims).take
      (k - (p.rdropWhile trims).length)).reverse, trims c = true :=
    fun c mem => List.mem_rtakeWhile_imp (List.mem_of_mem_take (List.mem_reverse.mp mem))
  calc
    (p.take k).rdropWhile trims = (p.rdropWhile trims).rdropWhile trims := by
      rw [cut, List.rdropWhile, List.reverse_append, List.dropWhile_append_of_pos trailing]
      rfl
    _ = p.rdropWhile trims := List.rdropWhile_idempotent _ _

/-- The first colon of a line that begins with a label is the label's. -/
theorem behind_colon {label line : Bytes} (begins : label.isPrefixOf line = true)
    (colon : (label.dropWhile (· ≠ 58)) = [58]) :
    (line.dropWhile (· ≠ 58)).tail = line.drop label.length := by
  obtain ⟨value, rfl⟩ := List.isPrefixOf_iff_prefix.mp begins
  rw [List.dropWhile_append, colon, List.drop_left]
  rfl

/-- The array holds the device name of a device line if it is longer. -/
theorem deviceOf_eq {line : Bytes} (isDevice : isDeviceLine line = true)
    (room : (deviceName line).length < n) : deviceOf line n = deviceName line := by
  have behind : (line.dropWhile (· ≠ 58)).tail = line.drop
      (if (cstr "Device:").isPrefixOf line then (cstr "Device:").length
        else (cstr "장치:").length) := by
    cases english : (cstr "Device:").isPrefixOf line with
    | true => exact behind_colon english (by decide)
    | false =>
        rw [isDeviceLine, english, Bool.false_or] at isDevice
        exact behind_colon isDevice (by decide)
  rw [deviceOf, behind]
  exact rdropWhile_take (Nat.le_sub_one_of_lt room)

/-! ## Stanzas -/

/-- A stanza of the listing: the line that names the port, lines that name none with at most
one device line among them, and the blank lines behind. -/
structure Stanza where
  port : Bytes
  lines : List Bytes
  blank : Nat
  isPort : isPortLine port = true
  others : ∀ line ∈ lines, isPortLine line = false
  oneDevice : lines.countP isDeviceLine ≤ 1
  whole : ∀ line ∈ port :: lines, 10 ∉ line

namespace Stanza

/-- The lines of a stanza as they are printed. -/
def printed (s : Stanza) : List Bytes :=
  s.port :: (s.lines ++ List.replicate s.blank [])

/-- The stanza has a device line with this name. -/
def Has (s : Stanza) (dev : Bytes) : Prop :=
  ∃ line ∈ s.lines, isDeviceLine line = true ∧ deviceName line = dev

/-- The device that decides the search: that of a stanza that names Wi-Fi. -/
def wifiDevice (s : Stanza) : Option Bytes :=
  if namesWifi s.port then (s.lines.find? isDeviceLine).map deviceName else none

end Stanza

/-- Blank lines and then stanzas, separated by newlines. -/
def listing (blank : Nat) (stanzas : List Stanza) : Bytes :=
  [10].intercalate (List.replicate blank [] ++ stanzas.flatMap Stanza.printed)

/-- No stanza has a device name that does not fit an array of `n` bytes. -/
def Fit (n : Nat) (stanzas : List Stanza) : Prop :=
  ∀ s ∈ stanzas, ∀ line ∈ s.lines, isDeviceLine line = true → (deviceName line).length < n

/-- The device line is the first one, since there is no other. -/
theorem find?_of_countP {lines : List Bytes} (single : lines.countP isDeviceLine ≤ 1)
    {line : Bytes} (mem : line ∈ lines) (isDevice : isDeviceLine line = true) :
    lines.find? isDeviceLine = some line := by
  induction lines with
  | nil => exact absurd mem List.not_mem_nil
  | cons first lines ih =>
      rcases List.mem_cons.mp mem with rfl | behind
      · exact List.find?_cons_of_pos isDevice
      · have later : 0 < lines.countP isDeviceLine :=
          List.countP_pos_iff.mpr ⟨line, behind, isDevice⟩
        cases here : isDeviceLine first with
        | true =>
            rw [List.countP_cons_of_pos here] at single
            omega
        | false =>
            rw [List.countP_cons_of_neg (Bool.eq_false_iff.mp here)] at single
            rw [List.find?_cons_of_neg (Bool.eq_false_iff.mp here)]
            exact ih single behind

theorem Stanza.wifiDevice_eq_some_iff {s : Stanza} {dev : Bytes} :
    s.wifiDevice = some dev ↔ NamesWifi s.port ∧ s.Has dev := by
  rw [Stanza.wifiDevice, ← namesWifi_iff]
  cases wifi : namesWifi s.port with
  | false => simp
  | true =>
      simp only [if_true, Option.map_eq_some_iff, true_and]
      constructor
      · rintro ⟨line, found, rfl⟩
        exact ⟨line, List.mem_of_find?_eq_some found, List.find?_some found, rfl⟩
      · rintro ⟨line, mem, isDevice, rfl⟩
        exact ⟨line, find?_of_countP s.oneDevice mem isDevice, rfl⟩

theorem Stanza.wifiDevice_eq_none {s : Stanza}
    (none_ : ∀ dev, NamesWifi s.port → ¬ s.Has dev) : s.wifiDevice = none := by
  rw [Option.eq_none_iff_forall_not_mem]
  intro dev found
  obtain ⟨wifi, has⟩ := Stanza.wifiDevice_eq_some_iff.mp found
  exact none_ dev wifi has

/-! ## The loop over stanzas -/

/-- Lines that name no port, without a wanted port before them. -/
theorem wifiDeviceOut_idle {lines : List Bytes}
    (others : ∀ line ∈ lines, isPortLine line = false) (rest : List Bytes) :
    wifiDeviceOut n false (lines ++ rest) = wifiDeviceOut n false rest := by
  induction lines with
  | nil => rfl
  | cons line lines ih =>
      rw [List.forall_mem_cons] at others
      rw [List.cons_append, wifiDeviceOut, others.1]
      exact ih others.2

/-- Behind a wanted port the first device line decides. -/
theorem wifiDeviceOut_wanted {lines : List Bytes}
    (others : ∀ line ∈ lines, isPortLine line = false) (rest : List Bytes) :
    wifiDeviceOut n true (lines ++ rest) =
      match lines.find? isDeviceLine with
      | some line => (if deviceOf line n ≠ [] then 0 else -1, deviceOf line n)
      | none => wifiDeviceOut n true rest := by
  induction lines with
  | nil => rfl
  | cons line lines ih =>
      rw [List.forall_mem_cons] at others
      rw [List.cons_append, wifiDeviceOut, others.1]
      cases isDevice : isDeviceLine line with
      | true =>
          rw [List.find?_cons_of_pos isDevice]
          rfl
      | false =>
          rw [List.find?_cons_of_neg (Bool.eq_false_iff.mp isDevice)]
          exact ih others.2

theorem blank_others (blank : Nat) :
    ∀ line ∈ List.replicate blank ([] : Bytes), isPortLine line = false := by
  intro line mem
  rw [List.eq_of_mem_replicate mem]
  decide

theorem find?_blank (lines : List Bytes) (blank : Nat) :
    (lines ++ List.replicate blank []).find? isDeviceLine = lines.find? isDeviceLine := by
  have none_ : (List.replicate blank ([] : Bytes)).find? isDeviceLine = none := by
    rw [List.find?_eq_none]
    intro line mem
    rw [List.eq_of_mem_replicate mem]
    decide
  rw [List.find?_append, none_, Option.or_none]

/-- The result and the text of a call that ends at a device line. -/
def answer (dev : Bytes) : Int × Bytes :=
  (if dev ≠ [] then 0 else -1, dev)

/-- A stanza ends the search if it names Wi-Fi and has a device line.  Otherwise the search
goes on behind it, whatever was wanted before. -/
theorem wifiDeviceOut_stanza {s : Stanza}
    (fit : ∀ line ∈ s.lines, isDeviceLine line = true → (deviceName line).length < n)
    (want : Bool) (rest : List Bytes) :
    wifiDeviceOut n want (s.printed ++ rest) =
      match s.wifiDevice with
      | some dev => answer dev
      | none => wifiDeviceOut n (namesWifi s.port) rest := by
  have others : ∀ line ∈ s.lines ++ List.replicate s.blank [], isPortLine line = false := by
    rw [List.forall_mem_append]
    exact ⟨s.others, blank_others s.blank⟩
  rw [Stanza.printed, List.cons_append, wifiDeviceOut, s.isPort, if_pos rfl, Stanza.wifiDevice]
  cases wifi : namesWifi s.port with
  | false => exact wifiDeviceOut_idle others rest
  | true =>
      rw [wifiDeviceOut_wanted others, find?_blank, if_pos rfl]
      cases found : s.lines.find? isDeviceLine with
      | none => rfl
      | some line =>
          have isDevice : isDeviceLine line = true := List.find?_some found
          simp only [deviceOf_eq isDevice (fit line (List.mem_of_find?_eq_some found) isDevice)]
          rfl

/-- Over stanzas, the first that names Wi-Fi and has a device line decides. -/
theorem wifiDeviceOut_stanzas {stanzas : List Stanza} (fit : Fit n stanzas) (want : Bool) :
    wifiDeviceOut n want (stanzas.flatMap Stanza.printed) =
      match stanzas.findSome? Stanza.wifiDevice with
      | some dev => answer dev
      | none => (-1, []) := by
  induction stanzas generalizing want with
  | nil => rfl
  | cons s stanzas ih =>
      rw [Fit, List.forall_mem_cons] at fit
      rw [List.flatMap_cons, wifiDeviceOut_stanza fit.1, List.findSome?_cons]
      cases s.wifiDevice with
      | some dev => rfl
      | none => exact ih fit.2 _

/-- Blank lines make no difference, so skipping them neither. -/
theorem wifiDeviceOut_filter (want : Bool) (lines : List Bytes) :
    wifiDeviceOut n want (lines.filter (· ≠ [])) = wifiDeviceOut n want lines := by
  induction lines generalizing want with
  | nil => rfl
  | cons line lines ih =>
      by_cases blank : line = []
      · subst blank
        rw [List.filter_cons_of_neg (by decide), wifiDeviceOut]
        simp only [show isPortLine [] = false by decide, show isDeviceLine [] = false by decide,
          Bool.not_false, Bool.or_true, if_true, Bool.false_eq_true, if_false]
        exact ih want
      · rw [List.filter_cons_of_pos (by simpa using blank), wifiDeviceOut, wifiDeviceOut, ih, ih]

theorem Stanza.free (s : Stanza) : ∀ line ∈ s.printed, 10 ∉ line := by
  intro line mem
  rcases List.mem_cons.mp mem with rfl | mem
  · exact s.whole s.port List.mem_cons_self
  · rcases List.mem_append.mp mem with mem | blank
    · exact s.whole line (List.mem_cons_of_mem s.port mem)
    · rw [List.eq_of_mem_replicate blank]
      exact List.not_mem_nil

theorem listing_free (blank : Nat) (stanzas : List Stanza) :
    ∀ line ∈ List.replicate blank [] ++ stanzas.flatMap Stanza.printed, 10 ∉ line := by
  intro line mem
  rcases List.mem_append.mp mem with first | mem
  · rw [List.eq_of_mem_replicate first]
    exact List.not_mem_nil
  · obtain ⟨s, _, mem⟩ := List.mem_flatMap.mp mem
    exact s.free line mem

/-- An empty array holds no device name, so there is none. -/
theorem findSome?_of_fit_zero {stanzas : List Stanza} (fit : Fit 0 stanzas) :
    stanzas.findSome? Stanza.wifiDevice = none := by
  rw [List.findSome?_eq_none_iff]
  intro s mem
  apply Stanza.wifiDevice_eq_none
  rintro dev _ ⟨line, inside, isDevice, _⟩
  exact Nat.not_lt_zero _ (fit s mem line inside isDevice)

/-- The call on a listing of stanzas. -/
theorem atParseWifiDeviceCall_listing {blank : Nat} {stanzas : List Stanza}
    (short : (listing blank stanzas).length < 4096) (fit : Fit n stanzas) :
    atParseWifiDeviceCall (listing blank stanzas) n =
      match stanzas.findSome? Stanza.wifiDevice with
      | some dev => answer dev
      | none => (-1, []) := by
  by_cases none_ : n = 0
  · subst none_
    rw [findSome?_of_fit_zero fit]
    rfl
  · have uncut : strlcpy (listing blank stanzas) 4096 = listing blank stanzas :=
      List.take_of_length_le (Nat.le_sub_one_of_lt short)
    calc
      atParseWifiDeviceCall (listing blank stanzas) n =
          wifiDeviceOut n false
            ((List.replicate blank [] ++ stanzas.flatMap Stanza.printed).filter (· ≠ [])) := by
        rw [atParseWifiDeviceCall, if_neg none_, uncut, listing,
          Text.filter_splitOn_intercalate (listing_free blank stanzas)]
      _ = wifiDeviceOut n false (stanzas.flatMap Stanza.printed) := by
        rw [wifiDeviceOut_filter, wifiDeviceOut_idle (blank_others blank)]
      _ = _ := wifiDeviceOut_stanzas fit false

/-- What the search finds, if every earlier stanza that names Wi-Fi has no device line. -/
theorem findSome?_first {before after : List Stanza} {s : Stanza} {dev : Bytes}
    (wifi : NamesWifi s.port) (has : s.Has dev)
    (lacks : ∀ earlier ∈ before, NamesWifi earlier.port → ∀ other, ¬ earlier.Has other) :
    (before ++ s :: after).findSome? Stanza.wifiDevice = some dev := by
  rw [List.findSome?_eq_some_iff]
  refine ⟨before, s, after, rfl, Stanza.wifiDevice_eq_some_iff.mpr ⟨wifi, has⟩, ?_⟩
  intro earlier mem
  exact Stanza.wifiDevice_eq_none fun other wifi => lacks earlier mem wifi other

theorem findSome?_unnamed {stanzas : List Stanza} (unnamed : ∀ s ∈ stanzas, ¬ NamesWifi s.port) :
    stanzas.findSome? Stanza.wifiDevice = none := by
  rw [List.findSome?_eq_none_iff]
  intro s mem
  exact Stanza.wifiDevice_eq_none fun dev wifi => absurd wifi (unnamed s mem)

theorem answer_of_ne {dev : Bytes} (nonempty : dev ≠ []) : answer dev = (0, dev) := by
  rw [answer, if_pos nonempty]

/-- The device of a listing is that of the first stanza that names Wi-Fi and has a device,
unless a stanza before it names Wi-Fi and has an empty device line.  There is none if no stanza
names Wi-Fi, and no other stanza's device is ever the result. -/
theorem wifi_device_of_listing {blank : Nat} {stanzas : List Stanza}
    (short : (listing blank stanzas).length < 4096) (fit : Fit n stanzas) :
    (∀ before s after dev, stanzas = before ++ s :: after →
      NamesWifi s.port → s.Has dev → dev ≠ [] →
      (∀ earlier ∈ before, NamesWifi earlier.port → ∀ other, earlier.Has other → other = []) →
      (∀ earlier ∈ before, NamesWifi earlier.port → ¬ earlier.Has []) →
      atParseWifiDeviceCall (listing blank stanzas) n = (0, dev)) ∧
    ((∀ s ∈ stanzas, ¬ NamesWifi s.port) →
      atParseWifiDeviceCall (listing blank stanzas) n = (-1, [])) ∧
    (atParseWifiDeviceCall (listing blank stanzas) n = (-1, []) ∨
      ∃ s ∈ stanzas, NamesWifi s.port ∧ ∃ dev, s.Has dev ∧ dev ≠ [] ∧
        atParseWifiDeviceCall (listing blank stanzas) n = (0, dev)) := by
  rw [atParseWifiDeviceCall_listing short fit]
  constructor
  · rintro before s after dev rfl wifi has nonempty first filled
    have lacks : ∀ earlier ∈ before, NamesWifi earlier.port → ∀ other, ¬ earlier.Has other := by
      intro earlier mem wifi other has
      rw [first earlier mem wifi other has] at has
      exact filled earlier mem wifi has
    rw [findSome?_first wifi has lacks]
    exact answer_of_ne nonempty
  constructor
  · intro unnamed
    rw [findSome?_unnamed unnamed]
  · cases found : stanzas.findSome? Stanza.wifiDevice with
    | none => exact .inl rfl
    | some dev =>
        by_cases empty : dev = []
        · left
          rw [empty]
          rfl
        · right
          obtain ⟨s, mem, decides⟩ := List.exists_of_findSome?_eq_some found
          obtain ⟨wifi, has⟩ := Stanza.wifiDevice_eq_some_iff.mp decides
          exact ⟨s, mem, wifi, dev, has, empty, answer_of_ne empty⟩

def ethernetStanza : Stanza where
  port := cstr "Hardware Port: Ethernet"
  lines := [cstr "Device: en1", cstr "Ethernet Address: aa:bb"]
  blank := 1
  isPort := by decide
  others := by decide
  oneDevice := by decide
  whole := by decide

def koreanStanza : Stanza where
  port := cstr "하드웨어 포트: 와이파이"
  lines := [cstr "장치: en0 \r"]
  blank := 2
  isPort := by decide
  others := by decide
  oneDevice := by decide
  whole := by decide

theorem wifi_device_of_listing_ports :
    atParseWifiDeviceCall (listing 0 [ethernetStanza, koreanStanza]) 32 = (0, cstr "en0") := by
  have short : (listing 0 [ethernetStanza, koreanStanza]).length < 4096 := by decide
  have fit : Fit 32 [ethernetStanza, koreanStanza] := by
    unfold Fit
    decide
  have unnamed : ∀ earlier ∈ [ethernetStanza], ¬ NamesWifi earlier.port := by
    intro earlier mem
    rw [List.mem_singleton.mp mem, ← namesWifi_iff]
    decide
  have called := (wifi_device_of_listing short fit).1 [ethernetStanza] koreanStanza [] (cstr "en0")
  apply called rfl
  · exact namesWifi_iff.mp (by decide)
  · exact ⟨_, List.mem_cons_self, by decide, by decide⟩
  · decide
  · intro earlier mem wifi
    exact absurd wifi (unnamed earlier mem)
  · intro earlier mem wifi
    exact absurd wifi (unnamed earlier mem)

/-! ## Where the device is looked for -/

theorem atParseWifiDeviceText_listing {blank : Nat} {stanzas : List Stanza}
    (short : (listing blank stanzas).length < 4096) (room : 0 < n) (fit : Fit n stanzas)
    {dev : Bytes} (found : atParseWifiDeviceText (listing blank stanzas) n = some dev) :
    ∃ s ∈ stanzas, NamesWifi s.port ∧ s.Has dev ∧ dev ≠ [] := by
  rw [atParseWifiDeviceText_eq _ room, atParseWifiDeviceCall_listing short fit] at found
  cases chosen : stanzas.findSome? Stanza.wifiDevice with
  | none =>
      rw [chosen] at found
      cases found
  | some other =>
      rw [chosen] at found
      by_cases empty : other = []
      · rw [empty] at found
        cases found
      · simp only [answer_of_ne empty, if_true, Option.some.injEq] at found
        subst found
        obtain ⟨s, mem, decides⟩ := List.exists_of_findSome?_eq_some chosen
        obtain ⟨wifi, has⟩ := Stanza.wifiDevice_eq_some_iff.mp decides
        exact ⟨s, mem, wifi, has, empty⟩

/-- On a host that lists stanzas, what `wifi_find_device` finds is the device of one that
names Wi-Fi. -/
theorem wifiFindDevice_listing {h : Host} {s after : NetState} {blank : Nat}
    {stanzas : List Stanza} (listed : captured h.hardwarePorts 4096 = listing blank stanzas)
    (fit : Fit 32 stanzas) {dev : Bytes} (found : wifiFindDevice h s = (after, some dev)) :
    ∃ port ∈ stanzas, NamesWifi port.port ∧ port.Has dev ∧ dev ≠ [] := by
  have short : (listing blank stanzas).length < 4096 := by
    rw [← listed, captured]
    apply Nat.lt_succ_of_le
    exact (List.rdropWhile_prefix _ _).length_le.trans (List.length_take_le 4095 h.hardwarePorts)
  simp only [wifiFindDevice, captureCmd, Option.map_some] at found
  cases ran : (runPlain h s).2 with
  | false =>
      rw [ran] at found
      cases found
  | true =>
      rw [ran] at found
      have parsed := congrArg Prod.snd found
      simp only [if_true, listed] at parsed
      exact atParseWifiDeviceText_listing short (by decide) fit parsed

end WiredTethering.Net
