import WiredTethering.Status.DeviceList

/-!
# The device table

Without `--json`, `cmd_list` prints a table with columns of a fixed width and the name of
a device at the end of its row.  `parseDevicesFromTable` reads back what the JSON lines
say, but for the vendor, which the table does not have.
-/

namespace WiredTethering.Status

open WiredTethering.Memory
open WiredTethering.Common
open WiredTethering.Text
open WiredTethering.App

/-- `%-*s`: a text filled up with blanks to `width` bytes. -/
def padded (width : Nat) (s : Bytes) : Bytes :=
  s ++ List.replicate (width - s.length) 32

/-- `%0*x`. -/
def hexStr (width n : Nat) : Bytes :=
  utf8 (hexText width n)

/-- The first line of the table. -/
def tableHead : Bytes :=
  padded 8 (cstr "VID:PID") ++ cstr " " ++ padded 9 (cstr "Location") ++ cstr " " ++
    padded 10 (cstr "Kind") ++ cstr " " ++ padded 10 (cstr "Serial") ++ cstr " Name\n"

/-- Any other kind is called a phone. -/
def tableKind (kind : AtDeviceKind) : Bytes :=
  if kind = .rndis then cstr "rndis" else cstr "android"

def tableSerial (serial : Bytes) : Bytes :=
  if serial = [] then cstr "-" else serial

def tableRow (d : AtUsbDeviceInfo) : Bytes :=
  hexStr 4 d.vid.toNat ++ cstr ":" ++ hexStr 4 d.pid.toNat ++ cstr " " ++
    hexStr 8 d.locationId.toNat ++ cstr "   " ++ padded 10 (tableKind d.kind) ++ cstr " " ++
    padded 10 (tableSerial d.serial) ++ cstr " " ++ d.name ++ cstr "\n"

/-- `cmd_list`: what it prints, and what it returns.  `listed` is what
`at_usb_list_devices` finds. -/
def cmdList (listed : Option (List AtUsbDeviceInfo)) (jsonMode : Bool) : Bytes × Int :=
  match listed with
  | none => ([], 1)
  | some devs =>
      if jsonMode then (atStatusDevices devs, 0)
      else if devs = [] then
        (cstr "감지된 안드로이드/RNDIS 장치가 없습니다.\n" ++
          cstr "USB 케이블을 연결하고, 휴대폰에서 USB 테더링을 켜세요.\n", 0)
      else (tableHead ++ devs.flatMap tableRow, 0)

/-! ## Devices that a table can show -/

/-- Every printable character, and all others but the controls, the separators of lines and
the space of zero width. -/
def Printable (c : Char) : Prop :=
  0x20 ≤ c.toNat ∧ ¬ (0x7F ≤ c.toNat ∧ c.toNat ≤ 0x9F) ∧ c.toNat ≠ 0x200B ∧
    c.toNat ≠ 0x2028 ∧ c.toNat ≠ 0x2029

instance (c : Char) : Decidable (Printable c) :=
  inferInstanceAs (Decidable (_ ∧ _))

/-- Words with single spaces between them. -/
def Spaced (text : List Char) : Prop :=
  ∃ words : List (List Char), words ≠ [] ∧ (∀ word ∈ words, IsWord isWhitespace word) ∧
    text = [' '].intercalate words

structure ListedDevice.Tabular (d : ListedDevice) : Prop where
  kind : d.kind ≠ .unknown
  serial : ∀ c ∈ d.serial.toList, isWhitespace c = false
  noDash : d.serial ≠ "-"
  name : Spaced d.name.toList
  namePrintable : ∀ c ∈ d.name.toList, Printable c
  vendorPrintable : ∀ c ∈ d.vendor.toList, Printable c
  serialPrintable : ∀ c ∈ d.serial.toList, Printable c
  nameSpare : Spare (cstr d.name) 256
  vendorSpare : Spare (cstr d.vendor) 256
  serialSpare : Spare (cstr d.serial) 128

/-- A device as the table shows it. -/
def ListedDevice.tabled (d : ListedDevice) : USBDevice :=
  { d.shown with vendor := "" }

/-! ## Rows as text -/

/-- The blanks behind a text that is filled up to `width` bytes. -/
def gap (width : Nat) (text : List Char) : List Char :=
  List.replicate (width - (utf8 text).length) ' '

theorem padded_utf8 (width : Nat) (text : List Char) :
    padded width (utf8 text) = utf8 (text ++ gap width text) := by
  have blanks : ∀ count, List.replicate count (32 : UInt8) = utf8 (List.replicate count ' ') := by
    intro count
    induction count with
    | zero => rfl
    | succ count ih =>
        rw [List.replicate_succ, List.replicate_succ, utf8_cons, ih]
        rfl
  rw [padded, blanks, utf8_append, gap]

theorem gap_isWhitespace (width : Nat) (text : List Char) :
    ∀ c ∈ gap width text, isWhitespace c = true := by
  intro c mem
  rw [List.eq_of_mem_replicate mem]
  decide

namespace ListedDevice

variable (d : ListedDevice)

/-- The first column. -/
def idsText : List Char :=
  hexText 4 d.vid.toNat ++ ':' :: hexText 4 d.pid.toNat

/-- The column of the serial number. -/
def serialText : List Char :=
  if d.serial.toList = [] then ['-'] else d.serial.toList

def kindText : List Char :=
  if d.kind = .rndis then "rndis".toList else "android".toList

/-- A row without its newline. -/
def rowText : List Char :=
  d.idsText ++ ' ' :: (hexText 8 d.locationId.toNat ++ [' ', ' '] ++ ' ' ::
    (d.kindText ++ gap 10 d.kindText ++ ' ' ::
      (d.serialText ++ gap 10 d.serialText ++ ' ' :: d.name.toList)))

theorem tableKind_text : tableKind d.info.kind = utf8 d.kindText := by
  rw [kindText, apply_ite utf8]
  rfl

theorem tableSerial_text : tableSerial d.info.serial = utf8 d.serialText := by
  have same : d.info.serial = utf8 d.serial.toList := rfl
  rw [serialText, tableSerial, same]
  by_cases none_ : d.serial.toList = []
  · rw [if_pos none_, if_pos (utf8_eq_nil_iff.mpr none_)]
    rfl
  · rw [if_neg none_, if_neg (mt utf8_eq_nil_iff.mp none_)]

theorem tableRow_text : tableRow d.info = utf8 (d.rowText ++ ['\n']) := by
  rw [tableRow, tableKind_text, tableSerial_text, padded_utf8, padded_utf8]
  simp only [rowText, idsText, hexStr, info, cstr_eq, ← utf8_append, List.append_assoc,
    List.cons_append, List.nil_append, String.reduceToList]

end ListedDevice

/-! ## What is read of a row -/

theorem isWord_of_isHex {text : List Char} (isHex : IsHex text) (some_ : text ≠ []) :
    IsWord isWhitespace text := by
  refine ⟨some_, ?_⟩
  intro c mem
  have digit := toNat_of_isHex isHex mem
  rw [isWhitespace, decide_eq_false_iff_not]
  omega

theorem hexNumber_hexText {bound n : Nat} (small : n < bound) (width : Nat) :
    hexNumber bound (hexText width n) = some n := by
  have isHex := isHex_hexText width n
  have some_ := hexText_ne_nil width n
  have read := hexDigits_hexText width n
  have plain : unsigned (hexText width n) = (hexText width n, false) := by
    cases text : hexText width n with
    | nil => exact absurd text some_
    | cons c rest =>
        have digit := toNat_of_isHex isHex (c := c) (by rw [text]; exact List.mem_cons_self)
        rw [unsigned]
        · rintro digits sign
          injection sign with sign
          rw [sign] at digit
          exact absurd digit (by decide)
        · rintro digits sign
          injection sign with sign
          rw [sign] at digit
          exact absurd digit (by decide)
  rw [hexNumber, plain]
  dsimp only
  rw [if_neg some_, read, Option.filter_some, if_pos (by simpa using small)]

theorem not_inWhitespaces {c : Char} (letter : isWhitespace c = false) (printable : Printable c) :
    inWhitespaces c = false := by
  rw [isWhitespace, decide_eq_false_iff_not] at letter
  rw [inWhitespaces, decide_eq_false_iff_not]
  have wide := printable.2.2.1
  omega

theorem not_isNewline {c : Char} (printable : Printable c) : isNewline c = false := by
  obtain ⟨low, controls, -, line, paragraph⟩ := printable
  rw [isNewline, decide_eq_false_iff_not]
  omega

theorem not_isNewline_of_letter {c : Char} (letter : isWhitespace c = false) :
    isNewline c = false := by
  rw [isWhitespace, decide_eq_false_iff_not] at letter
  rw [isNewline, decide_eq_false_iff_not]
  omega

namespace ListedDevice

variable {d : ListedDevice}

theorem isHex_colon {c : Char} (mem : c ∈ d.idsText) :
    c = ':' ∨ (48 ≤ c.toNat ∧ c.toNat ≤ 57) ∨ (97 ≤ c.toNat ∧ c.toNat ≤ 102) ∨
      (65 ≤ c.toNat ∧ c.toNat ≤ 70) := by
  rcases List.mem_append.mp mem with mem | mem
  · exact .inr (toNat_of_isHex (isHex_hexText _ _) mem)
  · rcases List.mem_cons.mp mem with rfl | mem
    · exact .inl rfl
    · exact .inr (toNat_of_isHex (isHex_hexText _ _) mem)

theorem isWord_idsText : IsWord isWhitespace d.idsText := by
  constructor
  · intro none_
    exact hexText_ne_nil _ _ (List.append_eq_nil_iff.mp none_).1
  · intro c mem
    rcases isHex_colon mem with rfl | digit
    · decide
    · rw [isWhitespace, decide_eq_false_iff_not]
      omega

theorem isWord_kindText : IsWord isWhitespace d.kindText := by
  rw [kindText]
  split
  · exact ⟨by decide, by decide⟩
  · exact ⟨by decide, by decide⟩

theorem Tabular.isWord_serialText (tabular : d.Tabular) : IsWord isWhitespace d.serialText := by
  rw [serialText]
  split
  · exact ⟨by decide, by decide⟩
  · rename_i some_
    exact ⟨some_, tabular.serial⟩

/-- The two identifiers. -/
theorem splitWords_idsText :
    splitWords (· = ':') d.idsText = [hexText 4 d.vid.toNat, hexText 4 d.pid.toNat] := by
  have isWord : ∀ width n, IsWord (fun c : Char => decide (c = ':')) (hexText width n) := by
    intro width n
    refine ⟨hexText_ne_nil width n, ?_⟩
    intro c mem
    have digit := toNat_of_isHex (isHex_hexText width n) mem
    rw [decide_eq_false_iff_not]
    rintro rfl
    exact absurd digit (by decide)
  rw [idsText, splitWords_word_cons (isWord _ _) (by decide), splitWords_word (isWord _ _)]

/-- The columns of a row, and the words of its name. -/
theorem Tabular.splitWords_rowText (tabular : d.Tabular) {words : List (List Char)}
    (areWords : ∀ word ∈ words, IsWord isWhitespace word)
    (name : d.name.toList = [' '].intercalate words) :
    splitWords isWhitespace d.rowText =
      d.idsText :: hexText 8 d.locationId.toNat :: d.kindText :: d.serialText :: words := by
  have space : isWhitespace ' ' = true := by decide
  have blanks : ∀ c ∈ [' ', ' '], isWhitespace c = true := by decide
  have location := isWord_of_isHex (isHex_hexText 8 d.locationId.toNat) (hexText_ne_nil _ _)
  rw [rowText, splitWords_word_cons isWord_idsText space,
    splitWords_column location blanks space,
    splitWords_column isWord_kindText (gap_isWhitespace _ _) space,
    splitWords_column tabular.isWord_serialText (gap_isWhitespace _ _) space, name,
    splitWords_intercalate areWords space]

/-- A row begins with a digit. -/
theorem rowText_cons :
    ∃ c rest, d.rowText = c :: rest ∧ ((48 ≤ c.toNat ∧ c.toNat ≤ 57) ∨
      (97 ≤ c.toNat ∧ c.toNat ≤ 102) ∨ (65 ≤ c.toNat ∧ c.toNat ≤ 70)) := by
  cases text : hexText 4 d.vid.toNat with
  | nil => exact absurd text (hexText_ne_nil _ _)
  | cons c rest =>
      refine ⟨c, _, by rw [rowText, idsText, text]; rfl, ?_⟩
      exact toNat_of_isHex (isHex_hexText 4 d.vid.toNat) (by rw [text]; exact List.mem_cons_self)

theorem Tabular.trimWhitespaces_rowText (tabular : d.Tabular) :
    trimWhitespaces d.rowText = d.rowText := by
  obtain ⟨words, some_, areWords, name⟩ := tabular.name
  obtain ⟨before, last, split, letter⟩ := exists_last_letter some_ areWords ' '
  have printable : Printable last := by
    apply tabular.namePrintable
    rw [name, split]
    exact List.mem_append_right _ List.mem_cons_self
  obtain ⟨front, row⟩ : ∃ front, d.rowText = front ++ [last] := by
    refine ⟨d.idsText ++ ' ' :: (hexText 8 d.locationId.toNat ++ [' ', ' '] ++ ' ' ::
      (d.kindText ++ gap 10 d.kindText ++ ' ' ::
        (d.serialText ++ gap 10 d.serialText ++ ' ' :: before))), ?_⟩
    rw [rowText, name, split]
    simp only [List.append_assoc, List.cons_append]
  obtain ⟨c, rest, begins, digit⟩ := d.rowText_cons
  have first : ¬ inWhitespaces c = true := by
    rw [inWhitespaces, decide_eq_true_eq]
    omega
  rw [trimWhitespaces]
  nth_rewrite 1 [begins]
  rw [List.dropWhile_cons_of_neg first, ← begins, row,
    List.rdropWhile_concat_neg _ _ _ (by rw [not_inWhitespaces letter printable]; decide)]

theorem not_isSkipped_rowText : isSkipped d.rowText = false := by
  obtain ⟨c, rest, begins, digit⟩ := d.rowText_cons
  have other : ∀ letter : Char, letter.toNat = 86 ∨ letter.toNat = 44048 ∨ letter.toNat = 85 →
      (letter == c) = false := by
    intro letter which
    rw [beq_eq_false_iff_ne]
    rintro rfl
    omega
  have head : (['V', 'I', 'D', ':'].isPrefixOf (c :: rest)) = false ∧
      (['감', '지'].isPrefixOf (c :: rest)) = false ∧
      (['U', 'S', 'B'].isPrefixOf (c :: rest)) = false := by
    rw [List.isPrefixOf_cons_cons, List.isPrefixOf_cons_cons, List.isPrefixOf_cons_cons,
      other 'V' (by decide), other '감' (by decide), other 'U' (by decide)]
    exact ⟨rfl, rfl, rfl⟩
  rw [isSkipped, begins]
  simp only [String.reduceToList, head.1, head.2.1, head.2.2, List.isEmpty_cons, Bool.or_self]

theorem Tabular.ofRaw_kindText (tabular : d.Tabular) :
    (USBKind.ofRaw (String.ofList d.kindText)).getD .unknown = usbKind d.kind := by
  have known := tabular.kind
  rw [kindText]
  cases kind : d.kind with
  | unknown => exact absurd kind known
  | rndis => decide
  | android => decide

theorem Tabular.read_serialText (tabular : d.Tabular) :
    (if d.serialText = ['-'] then "" else String.ofList d.serialText) = d.serial := by
  rw [serialText]
  by_cases none_ : d.serial.toList = []
  · rw [if_pos none_, if_pos rfl, ← String.ofList_toList (s := d.serial), none_]
  · have noDash : d.serial.toList ≠ ['-'] := by
      intro dash
      exact tabular.noDash (String.toList_inj.mp dash)
    rw [if_neg none_, if_neg noDash, String.ofList_toList]

/-- A row is read as the device without its vendor. -/
theorem Tabular.parseRow_rowText (tabular : d.Tabular) : parseRow d.rowText = some d.tabled := by
  obtain ⟨words, some_, areWords, name⟩ := tabular.name
  cases words with
  | nil => exact absurd rfl some_
  | cons first more =>
      rw [parseRow, tabular.trimWhitespaces_rowText]
      rw [not_isSkipped_rowText, if_neg Bool.false_ne_true,
        tabular.splitWords_rowText areWords name]
      dsimp only
      rw [splitWords_idsText]
      dsimp only
      rw [hexNumber_hexText d.vid.toNat_lt, hexNumber_hexText d.pid.toNat_lt,
        hexNumber_hexText d.locationId.toNat_lt, ← name, tabular.ofRaw_kindText,
        tabular.read_serialText]
      simp [tabled, shown]

/-- A row is a line. -/
theorem Tabular.isWord_rowText (tabular : d.Tabular) : IsWord isNewline d.rowText := by
  have blanks : ∀ width text, ∀ c ∈ gap width text, isNewline c = false := by
    intro width text c mem
    rw [List.eq_of_mem_replicate mem]
    decide
  have letters : ∀ {word}, IsWord isWhitespace word → ∀ c ∈ word, isNewline c = false :=
    fun isWord c mem => not_isNewline_of_letter (isWord.inside c mem)
  have location := isWord_of_isHex (isHex_hexText 8 d.locationId.toNat) (hexText_ne_nil _ _)
  have name : ∀ c ∈ d.name.toList, isNewline c = false :=
    fun c mem => not_isNewline (tabular.namePrintable c mem)
  have space : isNewline ' ' = false := by decide
  constructor
  · obtain ⟨c, rest, begins, -⟩ := d.rowText_cons
    rw [begins]
    exact List.cons_ne_nil _ _
  · simp only [rowText, List.forall_mem_append, List.forall_mem_cons, List.not_mem_nil,
      false_implies, implies_true, and_true]
    exact ⟨letters isWord_idsText, space, ⟨letters location, space, space⟩, space,
      ⟨letters isWord_kindText, blanks _ _⟩, space,
      ⟨letters tabular.isWord_serialText, blanks _ _⟩, space, name⟩

theorem Tabular.readBack (tabular : d.Tabular) : d.ReadBack := by
  have clean : ∀ {scalars : List Char}, (∀ c ∈ scalars, Printable c) → Clean scalars := by
    intro scalars printable c mem breaks
    obtain ⟨-, controls, -, line, paragraph⟩ := printable c mem
    rw [Breaks] at breaks
    omega
  exact ⟨clean tabular.namePrintable, clean tabular.vendorPrintable,
    clean tabular.serialPrintable, tabular.nameSpare, tabular.vendorSpare, tabular.serialSpare⟩

end ListedDevice

/-! ## The two lists -/

/-- The first line without its newline. -/
def headText : List Char :=
  "VID:PID  Location  Kind       Serial     Name".toList

theorem tableHead_text : tableHead = utf8 (headText ++ ['\n']) := by
  decide +kernel

/-- What is printed in place of an empty table. -/
def noneText : List (List Char) :=
  ["감지된 안드로이드/RNDIS 장치가 없습니다.".toList,
    "USB 케이블을 연결하고, 휴대폰에서 USB 테더링을 켜세요.".toList]

/-- The lines of the table. -/
def tableLines (devs : List ListedDevice) : List (List Char) :=
  if devs = [] then noneText else headText :: devs.map ListedDevice.rowText

theorem cmdList_text (devs : List ListedDevice) :
    (cmdList (some (devs.map ListedDevice.info)) false).1 =
      utf8 ((tableLines devs).flatMap (· ++ ['\n'])) := by
  have rows : (devs.map ListedDevice.info).flatMap tableRow =
      utf8 ((devs.map ListedDevice.rowText).flatMap (· ++ ['\n'])) := by
    induction devs with
    | nil => rfl
    | cons d devs ih =>
        rw [List.map_cons, List.map_cons, List.flatMap_cons, List.flatMap_cons, utf8_append, ih,
          d.tableRow_text]
  cases devs with
  | nil => decide +kernel
  | cons d devs =>
      have some_ : (d :: devs).map ListedDevice.info ≠ [] := by simp
      rw [cmdList, tableLines, if_neg (List.cons_ne_nil _ _)]
      rw [if_neg Bool.false_ne_true, if_neg some_, rows, tableHead_text, ← utf8_append,
        List.flatMap_cons]

theorem parseRow_headText : parseRow headText = none := by
  rfl

theorem parseRow_noneText : noneText.filterMap parseRow = [] := by
  rfl

/-- What the app reads of the table. -/
theorem parseDevicesFromTable_cmdList {devs : List ListedDevice}
    (tabular : ∀ d ∈ devs, d.Tabular) :
    parseDevicesFromTable
        (runUserText (cmdList (some (devs.map ListedDevice.info)) false).1) =
      devs.map ListedDevice.tabled := by
  have head : IsWord isNewline headText := ⟨by decide, by decide⟩
  have none_ : ∀ line ∈ noneText, IsWord isNewline line := by
    intro line mem
    rcases List.mem_cons.mp mem with rfl | mem
    · exact ⟨by decide, by decide⟩
    · rw [List.mem_singleton.mp mem]
      exact ⟨by decide, by decide⟩
  have lines : ∀ line ∈ tableLines devs, IsWord isNewline line := by
    rw [tableLines]
    split
    · exact none_
    · rw [List.forall_mem_cons, List.forall_mem_map]
      exact ⟨head, fun d mem => (tabular d mem).isWord_rowText⟩
  have cut : ∀ text, splitLines text = splitWords isNewline text := by
    intro text
    apply List.filter_congr
    intro piece _
    cases piece <;> rfl
  rw [parseDevicesFromTable, runUserText, cmdList_text, textOf_utf8, Option.getD_some,
    String.toList_ofList, cut, splitWords_flatMap lines (by decide)]
  have rows : (devs.map ListedDevice.rowText).filterMap parseRow =
      devs.map ListedDevice.tabled := by
    clear cut lines
    induction devs with
    | nil => rfl
    | cons d devs ih =>
        rw [List.forall_mem_cons] at tabular
        rw [List.map_cons, List.filterMap_cons_some tabular.1.parseRow_rowText, ih tabular.2,
          List.map_cons]
  cases devs with
  | nil => exact parseRow_noneText
  | cons d devs =>
      rw [tableLines, if_neg (List.cons_ne_nil _ _), List.filterMap_cons_none parseRow_headText,
        rows]

/-- What the app reads of lines that are read back. -/
theorem parseDevices_atStatusDevices (bridge : RealBridge) {devs : List ListedDevice}
    (small : devs.length < 2 ^ 31) (back : ∀ d ∈ devs, d.ReadBack) :
    parseDevices bridge (runUserText (atStatusDevices (devs.map ListedDevice.info))) =
      devs.map ListedDevice.shown := by
  obtain ⟨ps, rfl⟩ := exists_printed_list fun d mem => (back d mem).printed
  exact (parseDevices_printed_iff bridge small).mpr back

/-- A phone without a serial number, whose name is like a head, a dash and a quotation. -/
def numberless : ListedDevice where
  vid := 0x18d1
  pid := 0x4eeb
  locationId := 0x14100000
  name := "USB - \"7\""
  vendor := "Google"
  serial := ""
  kind := .android
  controlIfc := 0
  dataIfc := 1

/-- The table is read as the JSON lines are, but for the vendor.  The count of a list is
an `int`. -/
theorem device_table_agrees (bridge : RealBridge) {devs : List ListedDevice}
    (small : devs.length < 2 ^ 31) (tabular : ∀ d ∈ devs, d.Tabular) :
    parseDevicesFromTable
        (runUserText (cmdList (some (devs.map ListedDevice.info)) false).1) =
      (parseDevices bridge (runUserText (atStatusDevices (devs.map ListedDevice.info)))).map
        fun shown => { shown with vendor := "" } := by
  rw [parseDevicesFromTable_cmdList tabular,
    parseDevices_atStatusDevices bridge small fun d mem => (tabular d mem).readBack,
    List.map_map]
  rfl

theorem device_table_agrees_plain :
    parseDevicesFromTable
        (runUserText (cmdList (some ([numberless].map ListedDevice.info)) false).1) =
      (parseDevices noReals
        (runUserText (atStatusDevices ([numberless].map ListedDevice.info)))).map
        fun shown => { shown with vendor := "" } := by
  apply device_table_agrees noReals (by decide)
  intro d mem
  rw [List.mem_singleton.mp mem]
  refine ⟨by decide, by decide, by decide, ⟨["USB".toList, "-".toList, "\"7\"".toList], ?_⟩,
    by decide, by decide, by decide, by decide, by decide, by decide⟩
  refine ⟨by decide, ?_, by decide⟩
  intro word mem
  have all : word ≠ [] ∧ ∀ c ∈ word, isWhitespace c = false := by
    revert word
    decide
  exact ⟨all.1, all.2⟩

end WiredTethering.Status
