import WiredTethering.Status.BrokenLine

/-!
# The device list and what the app reads

`at_status_devices` writes a line for each device.  A printed device is one whose texts
were cut between scalars: its line is an object, so it yields the device with those
texts, unless it is broken.  Where a text was cut inside a scalar the app decodes
nothing at all.
-/

namespace WiredTethering.Status

open WiredTethering.Memory
open WiredTethering.Common
open WiredTethering.Json
open WiredTethering.Text
open WiredTethering.App

/-- A device whose texts are strings. -/
structure ListedDevice where
  vid : UInt16
  pid : UInt16
  locationId : UInt32
  name : String
  vendor : String
  serial : String
  kind : AtDeviceKind
  controlIfc : UInt8
  dataIfc : UInt8
deriving DecidableEq, Repr

def ListedDevice.info (d : ListedDevice) : AtUsbDeviceInfo where
  vid := d.vid
  pid := d.pid
  locationId := d.locationId
  name := cstr d.name
  vendor := cstr d.vendor
  serial := cstr d.serial
  kind := d.kind
  controlIfc := d.controlIfc
  dataIfc := d.dataIfc

def usbKind : AtDeviceKind → USBKind
  | .unknown => .unknown
  | .rndis => .rndis
  | .android => .android

/-- What the app is meant to show. -/
def ListedDevice.shown (d : ListedDevice) : USBDevice where
  vid := d.vid
  pid := d.pid
  location := d.locationId
  name := d.name
  vendor := d.vendor
  serial := d.serial
  kind := usbKind d.kind

/-- What is read back: no text breaks its line, and each escaped form leaves a byte to
spare in its array. -/
structure ListedDevice.ReadBack (d : ListedDevice) : Prop where
  name : Clean d.name.toList
  vendor : Clean d.vendor.toList
  serial : Clean d.serial.toList
  nameSpare : Spare (cstr d.name) 256
  vendorSpare : Spare (cstr d.vendor) 256
  serialSpare : Spare (cstr d.serial) 128

/-! ## Printed devices -/

/-- A text of which `scalars` are written into an array of `size` bytes. -/
structure Cut (text : String) (size : Nat) where
  scalars : List Char
  written : escapeInto (cstr text) size = utf8 (escapedScalars scalars)
  fits : (utf8 (escapedScalars scalars)).length < size
  whole : scalars = text.toList ↔ Spare (cstr text) size

theorem spare_whole {text : String} {size : Nat} (spare : Spare (cstr text) size) :
    text.toList = text.toList ↔ Spare (cstr text) size :=
  iff_of_true rfl spare

/-- With a byte to spare nothing is cut. -/
def Cut.ofSpare {text : String} {size : Nat} (spare : Spare (cstr text) size) :
    Cut text size where
  scalars := text.toList
  written := spare_written spare
  fits := spare_fits spare
  whole := spare_whole spare

/-- What is written as a text was cut between scalars. -/
theorem exists_cut {text : String} {size : Nat} (room : 2 ≤ size) {found : List Char}
    (valid : utf8 found = escapeInto (cstr text) size) : Nonempty (Cut text size) := by
  by_cases spare : Spare (cstr text) size
  · exact ⟨.ofSpare spare⟩
  · have short : size < ([] : Bytes).length + (escaped (cstr text)).length + 2 := by
      rw [Spare] at spare
      rw [List.length_nil]
      omega
    obtain ⟨n, below, written, fits⟩ := @escapeLoop_short size [] (cstr text) (by
      rw [List.length_nil]
      omega) short
    have output : escapeInto (cstr text) size = escaped ((cstr text).take n) := by
      rw [escapeInto, atJsonEscape, if_neg (by omega), written]
      rfl
    rw [output, cstr_eq] at valid
    obtain ⟨k, rfl, cut⟩ := escaped_take_text valid
    refine ⟨⟨text.toList.take k, ?_, ?_, ?_⟩⟩
    · rw [output, cstr_eq, cut, escaped_utf8]
    · rw [cstr_eq, cut, escaped_utf8, List.length_nil] at fits
      omega
    · constructor
      · intro same
        rw [same] at cut
        have size := congrArg List.length cut
        rw [List.length_take, ← cstr_eq] at size
        omega
      · exact fun whole => absurd whole spare

structure PrintedDevice where
  device : ListedDevice
  name : Cut device.name 256
  vendor : Cut device.vendor 256
  serial : Cut device.serial 128

namespace PrintedDevice

/-- What the app shows of a printed device. -/
def shown (p : PrintedDevice) : USBDevice :=
  { p.device.shown with
    name := String.ofList p.name.scalars
    vendor := String.ofList p.vendor.scalars
    serial := String.ofList p.serial.scalars }

/-- The line is not broken. -/
def Whole (p : PrintedDevice) : Prop :=
  Clean p.name.scalars ∧ Clean p.vendor.scalars ∧ Clean p.serial.scalars

instance (p : PrintedDevice) : Decidable p.Whole :=
  inferInstanceAs (Decidable (_ ∧ _))

/-- The members in front of the texts. -/
def front (p : PrintedDevice) : List Field :=
  [wordField "type" "device".toList typeKey_plain (by decide),
    natField "vid" p.device.vid.toNat (by decide),
    natField "pid" p.device.pid.toNat pidKey_plain,
    natField "location" p.device.locationId.toNat (by decide)]

def nameField (p : PrintedDevice) : Field :=
  stringField "name" p.name.scalars (by decide)

def vendorField (p : PrintedDevice) : Field :=
  stringField "vendor" p.vendor.scalars (by decide)

def serialField (p : PrintedDevice) : Field :=
  stringField "serial" p.serial.scalars (by decide)

theorem kindName_plain (kind : AtDeviceKind) : ∀ c ∈ (kindName kind).toList, IsPlain c := by
  cases kind <;> decide

def fields (p : PrintedDevice) : List Field :=
  p.front ++ [p.nameField, p.vendorField, p.serialField,
    wordField "kind" (kindName p.device.kind).toList (by decide) (kindName_plain _),
    natField "control" p.device.controlIfc.toNat (by decide)]

def last (p : PrintedDevice) : Field :=
  natField "data" p.device.dataIfc.toNat (by decide)

def text (p : PrintedDevice) : List Char :=
  objectText p.fields p.last

set_option maxRecDepth 4096 in
theorem deviceText_text (p : PrintedDevice) :
    deviceText p.device.info (utf8 (escapedScalars p.name.scalars))
        (utf8 (escapedScalars p.vendor.scalars)) (utf8 (escapedScalars p.serial.scalars)) =
      utf8 p.text := by
  unfold deviceText
  simp only [ListedDevice.info, unsignedStr, cstr_eq, ← utf8_append]
  apply congrArg utf8
  simp only [text, objectText, fields, front, nameField, vendorField, serialField, last,
    printFront, Field.print, stringField, wordField, natField, memberText, List.flatMap_cons,
    List.flatMap_nil, List.append_assoc, List.cons_append, List.nil_append,
    String.reduceToList]

/-- The fixed parts of a device line and its numbers take at most 145 bytes. -/
theorem length_deviceText (d : AtUsbDeviceInfo) (name vendor serial : Bytes) :
    (deviceText d name vendor serial).length ≤
      145 + name.length + vendor.length + serial.length := by
  have vid := @length_unsignedStr d.vid.toNat 5 (by decide)
    (Nat.lt_trans d.vid.toNat_lt (by decide))
  have pid := @length_unsignedStr d.pid.toNat 5 (by decide)
    (Nat.lt_trans d.pid.toNat_lt (by decide))
  have location := @length_unsignedStr d.locationId.toNat 10 (by decide)
    (Nat.lt_trans d.locationId.toNat_lt (by decide))
  have control := @length_unsignedStr d.controlIfc.toNat 3 (by decide)
    (Nat.lt_trans d.controlIfc.toNat_lt (by decide))
  have data := @length_unsignedStr d.dataIfc.toNat 3 (by decide)
    (Nat.lt_trans d.dataIfc.toNat_lt (by decide))
  have kind : (cstr (kindName d.kind)).length ≤ 7 := by cases d.kind <;> decide
  unfold deviceText
  simp only [List.length_append]
  simp [cstr, Char.utf8Size] at kind ⊢
  omega

theorem printed_text (p : PrintedDevice) : Printed p.text := by
  apply printed_objectText _ (printed_natField _ _)
  simp only [fields, front, List.forall_mem_append, List.forall_mem_cons, List.not_mem_nil,
    false_implies, implies_true, and_true]
  exact ⟨⟨printed_wordField _ _, printed_natField _ _, printed_natField _ _,
    printed_natField _ _⟩, printed_stringField _ _, printed_stringField _ _,
    printed_stringField _ _, printed_wordField _ _, printed_natField _ _⟩

/-- The line of a device is written whole. -/
theorem deviceLine_text (p : PrintedDevice) :
    deviceLine p.device.info = utf8 (p.text ++ ['\n']) := by
  have length := length_deviceText p.device.info (utf8 (escapedScalars p.name.scalars))
    (utf8 (escapedScalars p.vendor.scalars)) (utf8 (escapedScalars p.serial.scalars))
  have name := p.name.fits
  have vendor := p.vendor.fits
  have serial := p.serial.fits
  rw [deviceText_text] at length
  have written : deviceLine p.device.info = atStatusEmit (utf8 p.text) := by
    rw [deviceLine, ← deviceText_text]
    simp only [ListedDevice.info, p.name.written, p.vendor.written, p.serial.written]
  rw [written, atStatusEmit_line p.printed_text (by rw [lineRoom]; omega), utf8_append]
  rfl

/-! ## What is read -/

theorem kindName_clean (kind : AtDeviceKind) : Clean (kindName kind).toList := by
  cases kind <;> decide

theorem clean_front (p : PrintedDevice) : ∀ field ∈ p.front, Clean field.print := by
  simp only [front, List.forall_mem_cons, List.not_mem_nil, false_implies, implies_true, and_true]
  exact ⟨clean_wordField _ _ (by decide) (by decide), clean_natField _ _ (by decide),
    clean_natField _ _ (by decide), clean_natField _ _ (by decide)⟩

theorem clean_text {p : PrintedDevice} (whole : p.Whole) : Clean p.text := by
  apply clean_objectText _ (clean_natField _ _ (by decide))
  simp only [fields, List.forall_mem_append, List.forall_mem_cons, List.not_mem_nil,
    false_implies, implies_true, and_true]
  exact ⟨p.clean_front, clean_stringField _ (by decide) whole.1,
    clean_stringField _ (by decide) whole.2.1, clean_stringField _ (by decide) whole.2.2,
    clean_wordField _ _ (by decide) (kindName_clean _), clean_natField _ _ (by decide)⟩

theorem ofRaw_kindName (kind : AtDeviceKind) :
    USBKind.ofRaw (kindName kind) = some (usbKind kind) := by
  cases kind <;> rfl

theorem ofInt_toNat16 (n : UInt16) : UInt16.ofInt n.toNat = n := by
  apply UInt16.toNat.inj
  have small := n.toNat_lt
  simp [UInt16.ofInt]
  omega

theorem ofInt_toNat32 (n : UInt32) : UInt32.ofInt n.toNat = n := by
  apply UInt32.toNat.inj
  have small := n.toNat_lt
  simp [UInt32.ofInt]
  omega

/-- The object of a device is read as the device. -/
theorem parseDevice_text (bridge : RealBridge) (p : PrintedDevice) :
    parseDevice bridge p.text = some p.shown := by
  have parsed := @jsonObject_objectText p.fields p.last [] rfl
  rw [List.append_nil] at parsed
  rw [parseDevice, text, parsed]
  have type : asString (member (p.fields.map Field.entry ++ [p.last.entry]) "type") =
      some "device" := rfl
  dsimp only
  rw [if_pos type]
  simp [fields, front, nameField, vendorField, serialField, last, Field.entry, stringField,
    wordField, natField, member, List.lookup_cons, asString, nsNumber, nsNumber32, ofInt_toNat16,
    ofInt_toNat32, ofRaw_kindName, shown, ListedDevice.shown]

/-! ### Broken lines -/

/-- What follows the serial number and the first letter of the next key. -/
def afterSerial (p : PrintedDevice) : List Char :=
  "ind\":\"".toList ++ (kindName p.device.kind).toList ++ "\",\"control\":".toList ++
    Nat.toDigits 10 p.device.controlIfc.toNat ++ ",\"data\":".toList ++
    Nat.toDigits 10 p.device.dataIfc.toNat ++ ['\x7d']

def afterVendor (p : PrintedDevice) : List Char :=
  "erial\":\"".toList ++
    (escapedScalars p.serial.scalars ++ (nextKey 'k' ++ p.afterSerial))

def afterName (p : PrintedDevice) : List Char :=
  "endor\":\"".toList ++
    (escapedScalars p.vendor.scalars ++ (nextKey 's' ++ p.afterVendor))

variable (bridge : RealBridge)

theorem afterSerial_mute (p : PrintedDevice) : Mute bridge p.afterSerial := by
  apply mute_unbroken
  have ind : ∀ c ∈ "ind\":\"".toList, isNewline c = false := by decide
  have control : ∀ c ∈ "\",\"control\":".toList, isNewline c = false := by decide
  have data : ∀ c ∈ ",\"data\":".toList, isNewline c = false := by decide
  have close : ∀ c ∈ ['\x7d'], isNewline c = false := by decide
  have digits : ∀ n, Unbroken (Nat.toDigits 10 n) := fun n =>
    unbroken_of_clean (printed_toDigits n) (clean_toDigits n)
  have kind : Unbroken (kindName p.device.kind).toList :=
    unbroken_of_clean (printed_of_plain (kindName_plain _)) (kindName_clean _)
  unfold afterSerial
  simp only [unbroken_append_iff]
  exact ⟨⟨⟨⟨⟨⟨ind, kind⟩, control⟩, digits _⟩, data⟩, digits _⟩, close⟩

theorem afterVendor_mute (p : PrintedDevice) : Mute bridge p.afterVendor := by
  have start : IsKeyStart 'k' := by decide
  have unbroken : ∀ c ∈ "erial\":\"".toList, isNewline c = false := by decide
  exact mute_string bridge start unbroken (p.afterSerial_mute bridge) _

theorem afterName_mute (p : PrintedDevice) : Mute bridge p.afterName := by
  have start : IsKeyStart 's' := by decide
  have unbroken : ∀ c ∈ "endor\":\"".toList, isNewline c = false := by decide
  exact mute_string bridge start unbroken (p.afterVendor_mute bridge) _

theorem text_at_name (p : PrintedDevice) :
    p.text = '\x7b' :: (printFront p.front ++ memberText "name".toList ['"'] ++
      (escapedScalars p.name.scalars ++ (nextKey 'v' ++ p.afterName))) := by
  unfold afterName afterVendor afterSerial
  simp only [text, objectText, fields, front, printFront, Field.print, nameField, vendorField,
    serialField, last, stringField, wordField, natField, memberText, nextKey,
    List.flatMap_cons, List.flatMap_nil, List.append_assoc, List.cons_append, List.nil_append,
    String.reduceToList]

theorem text_at_vendor (p : PrintedDevice) :
    p.text = '\x7b' :: (printFront (p.front ++ [p.nameField]) ++
      memberText "vendor".toList ['"'] ++
        (escapedScalars p.vendor.scalars ++ (nextKey 's' ++ p.afterVendor))) := by
  unfold afterVendor afterSerial
  simp only [text, objectText, fields, front, printFront, Field.print, nameField, vendorField,
    serialField, last, stringField, wordField, natField, memberText, nextKey,
    List.flatMap_cons, List.flatMap_nil, List.append_assoc, List.cons_append, List.nil_append,
    String.reduceToList]

theorem text_at_serial (p : PrintedDevice) :
    p.text = '\x7b' :: (printFront (p.front ++ [p.nameField, p.vendorField]) ++
      memberText "serial".toList ['"'] ++
        (escapedScalars p.serial.scalars ++ (nextKey 'k' ++ p.afterSerial))) := by
  unfold afterSerial
  simp only [text, objectText, fields, front, printFront, Field.print, nameField, vendorField,
    serialField, last, stringField, wordField, natField, memberText, nextKey,
    List.flatMap_cons, List.flatMap_nil, List.append_assoc, List.cons_append, List.nil_append,
    String.reduceToList]

theorem printed_front (p : PrintedDevice) : ∀ field ∈ p.front, Printed field.print := by
  simp only [front, List.forall_mem_cons, List.not_mem_nil, false_implies, implies_true, and_true]
  exact ⟨printed_wordField _ _, printed_natField _ _, printed_natField _ _,
    printed_natField _ _⟩

/-- A broken line yields no device. -/
theorem lineDevices_broken {p : PrintedDevice} (broken : ¬ p.Whole) :
    lineDevices bridge p.text = [] := by
  have plain : ∀ key ∈ ["name", "vendor", "serial"],
      (∀ c ∈ key.toList, IsPlain c) ∧ Clean key.toList := by decide
  have namePlain := plain "name" (by decide)
  have vendorPlain := plain "vendor" (by decide)
  have serialPlain := plain "serial" (by decide)
  by_cases name : Clean p.name.scalars
  · have nameClean : Clean p.nameField.print := clean_stringField _ namePlain.2 name
    have namePrinted : Printed p.nameField.print := printed_stringField _ _
    by_cases vendor : Clean p.vendor.scalars
    · have vendorClean : Clean p.vendorField.print := clean_stringField _ vendorPlain.2 vendor
      have vendorPrinted : Printed p.vendorField.print := printed_stringField _ _
      have serial : ¬ Clean p.serial.scalars := fun serial => broken ⟨name, vendor, serial⟩
      rw [text_at_serial]
      apply broken_string bridge (by decide) serialPlain.1 _ (p.afterSerial_mute bridge) serial
      apply unbroken_opening serialPlain.1 serialPlain.2
      · simpa only [List.forall_mem_append, List.forall_mem_cons, List.not_mem_nil, false_implies,
          implies_true, and_true] using ⟨p.printed_front, namePrinted, vendorPrinted⟩
      · simpa only [List.forall_mem_append, List.forall_mem_cons, List.not_mem_nil, false_implies,
          implies_true, and_true] using ⟨p.clean_front, nameClean, vendorClean⟩
    · rw [text_at_vendor]
      apply broken_string bridge (by decide) vendorPlain.1 _ (p.afterVendor_mute bridge) vendor
      apply unbroken_opening vendorPlain.1 vendorPlain.2
      · simpa only [List.forall_mem_append, List.forall_mem_singleton] using
          ⟨p.printed_front, namePrinted⟩
      · simpa only [List.forall_mem_append, List.forall_mem_singleton] using
          ⟨p.clean_front, nameClean⟩
  · rw [text_at_name]
    apply broken_string bridge (by decide) namePlain.1 _ (p.afterName_mute bridge) name
    exact unbroken_opening namePlain.1 namePlain.2 p.printed_front p.clean_front

theorem lineDevices_text (p : PrintedDevice) :
    lineDevices bridge p.text = if p.Whole then [p.shown] else [] := by
  split
  · rename_i whole
    rw [lineDevices_unbroken bridge (unbroken_of_clean p.printed_text (clean_text whole)),
      parseDevice_text]
    rfl
  · rename_i broken
    exact lineDevices_broken bridge broken

end PrintedDevice

/-! ## The whole list -/

def beginText (count : Nat) : List Char :=
  objectText [wordField "type" "devices_begin".toList typeKey_plain (by decide)]
    (natField "count" count (by decide))

def endText : List Char :=
  objectText [] (wordField "type" "devices_end".toList typeKey_plain (by decide))

def listLines (ps : List PrintedDevice) : List (List Char) :=
  beginText ps.length :: (ps.map PrintedDevice.text ++ [endText])

variable (bridge : RealBridge)

theorem begin_line {count : Nat} (small : count < 2 ^ 31) :
    atStatusEmit (cstr "\x7b\"type\":\"devices_begin\",\"count\":" ++ signedStr count ++
      cstr "\x7d") = utf8 (beginText count ++ ['\n']) := by
  have text : cstr "\x7b\"type\":\"devices_begin\",\"count\":" ++ signedStr count ++
      cstr "\x7d" = utf8 (beginText count) := by
    rw [signedStr_nat]
    simp only [cstr_eq, ← utf8_append]
    apply congrArg utf8
    simp only [beginText, objectText, printFront, Field.print, wordField, natField, memberText,
      List.flatMap_cons, List.flatMap_nil, List.append_assoc, List.cons_append, List.nil_append,
      String.reduceToList]
  have digits : (signedStr count).length ≤ 10 := by
    rw [signedStr_nat]
    exact length_unsignedStr (by decide) (Nat.lt_trans small (by decide))
  have printed : Printed (beginText count) := by
    apply printed_objectText _ (printed_natField _ _)
    simp only [List.forall_mem_singleton]
    exact printed_wordField _ _
  have length := congrArg List.length text
  rw [List.length_append, List.length_append,
    show (cstr "\x7b\"type\":\"devices_begin\",\"count\":").length = 32 by decide,
    show (cstr "\x7d").length = 1 by decide] at length
  rw [text, atStatusEmit_line printed (by rw [lineRoom]; omega), utf8_append]
  rfl

theorem end_line :
    atStatusEmit (cstr "\x7b\"type\":\"devices_end\"\x7d") = utf8 (endText ++ ['\n']) := by
  decide +kernel

theorem parseDevice_other {front : List Field} {last : Field}
    (other : asString (member (front.map Field.entry ++ [last.entry]) "type") ≠ some "device") :
    parseDevice bridge (objectText front last) = none := by
  have parsed := @jsonObject_objectText front last [] rfl
  rw [List.append_nil] at parsed
  rw [parseDevice, parsed]
  exact if_neg other

theorem lineDevices_begin (count : Nat) : lineDevices bridge (beginText count) = [] := by
  have other : Printed (beginText count) := by
    apply printed_objectText _ (printed_natField _ _)
    simp only [List.forall_mem_singleton]
    exact printed_wordField _ _
  have clean : Clean (beginText count) := by
    apply clean_objectText _ (clean_natField _ _ (by decide))
    simp only [List.forall_mem_singleton]
    exact clean_wordField _ _ (by decide) (by decide)
  rw [lineDevices_unbroken bridge (unbroken_of_clean other clean), beginText,
    parseDevice_other bridge]
  · rfl
  · exact fun same => absurd (Option.some.inj same) (by decide)

theorem lineDevices_end : lineDevices bridge endText = [] := by
  have unbroken : ∀ c ∈ endText, isNewline c = false := by decide
  rw [lineDevices_unbroken bridge unbroken, endText, parseDevice_other bridge]
  · rfl
  · exact fun same => absurd (Option.some.inj same) (by decide)

theorem atStatusDevices_printed {ps : List PrintedDevice} (small : ps.length < 2 ^ 31) :
    atStatusDevices (ps.map fun p => p.device.info) =
      utf8 ((listLines ps).flatMap fun line => line ++ ['\n']) := by
  have lines : (ps.map fun p => p.device.info).flatMap deviceLine =
      utf8 ((ps.map PrintedDevice.text).flatMap fun line => line ++ ['\n']) := by
    clear small
    induction ps with
    | nil => rfl
    | cons p ps ih =>
        rw [List.map_cons, List.map_cons, List.flatMap_cons, List.flatMap_cons, utf8_append, ih,
          p.deviceLine_text]
  rw [atStatusDevices, lines, List.length_map, begin_line small, end_line, ← utf8_append,
    ← utf8_append, listLines, List.flatMap_cons, List.flatMap_append, List.flatMap_singleton,
    List.append_assoc]

/-- What the app reads of printed devices. -/
theorem parseDevices_printed {ps : List PrintedDevice} (small : ps.length < 2 ^ 31) :
    parseDevices bridge (runUserText (atStatusDevices (ps.map fun p => p.device.info))) =
      ps.flatMap fun p => if p.Whole then [p.shown] else [] := by
  have read := lineDevices_lines bridge (listLines ps)
  rw [lineDevices] at read
  rw [runUserText, atStatusDevices_printed small, textOf_utf8, Option.getD_some, parseDevices,
    String.toList_ofList, read, listLines, List.flatMap_cons, List.flatMap_append,
    List.flatMap_singleton, lineDevices_begin, lineDevices_end, List.nil_append,
    List.append_nil, List.flatMap_map]
  exact List.flatMap_congr fun p _ => p.lineDevices_text bridge

/-! ## Texts cut inside a scalar -/

theorem length_escapeInto {src : Bytes} {size : Nat} (room : 2 ≤ size) :
    (escapeInto src size).length < size := by
  by_cases spare : Spare src size
  · rw [escapeInto_spare spare]
    rw [Spare] at spare
    omega
  · rw [Spare] at spare
    obtain ⟨n, -, written, fits⟩ := @escapeLoop_short size [] src (by
      rw [List.length_nil]
      omega) (by
      rw [List.length_nil]
      omega)
    rw [escapeInto, atJsonEscape, if_neg (by omega), written, List.nil_append]
    rw [List.length_nil] at fits
    omega

/-- What stands between two quotes of a text is a text, and so is what follows. -/
theorem text_between {scalars : List Char} {front field back : Bytes}
    (text : utf8 scalars = front ++ 0x22 :: (field ++ 0x22 :: back)) :
    (∃ found, utf8 found = field) ∧ ∃ rest, utf8 rest = back := by
  obtain ⟨_, _, after, -, -, later⟩ := split_at_ascii (by decide) text
  obtain ⟨found, _, rest, -, found_, rest_⟩ := split_at_ascii (by decide) later
  exact ⟨⟨found, found_⟩, rest, rest_⟩

/-- The bytes of a device in front of its texts. -/
def deviceHead (d : AtUsbDeviceInfo) : Bytes :=
  cstr "\x7b\"type\":\"device\",\"vid\":" ++ unsignedStr d.vid.toNat ++
    cstr ",\"pid\":" ++ unsignedStr d.pid.toNat ++
    cstr ",\"location\":" ++ unsignedStr d.locationId.toNat ++ cstr ",\"name\":"

/-- The bytes behind its texts. -/
def deviceTail (d : AtUsbDeviceInfo) : Bytes :=
  cstr ",\"kind\":\"" ++ cstr (kindName d.kind) ++
    cstr "\",\"control\":" ++ unsignedStr d.controlIfc.toNat ++
    cstr ",\"data\":" ++ unsignedStr d.dataIfc.toNat ++ cstr "\x7d"

theorem deviceText_quoted (d : AtUsbDeviceInfo) (name vendor serial : Bytes) :
    deviceText d name vendor serial =
      deviceHead d ++ 0x22 :: (name ++ 0x22 :: (cstr ",\"vendor\":" ++
        0x22 :: (vendor ++ 0x22 :: (cstr ",\"serial\":" ++
          0x22 :: (serial ++ 0x22 :: deviceTail d))))) := by
  have openName : cstr ",\"name\":\"" = cstr ",\"name\":" ++ [0x22] := by decide
  have openVendor : cstr "\",\"vendor\":\"" = 0x22 :: (cstr ",\"vendor\":" ++ [0x22]) := by
    decide
  have openSerial : cstr "\",\"serial\":\"" = 0x22 :: (cstr ",\"serial\":" ++ [0x22]) := by
    decide
  have openKind : cstr "\",\"kind\":\"" = 0x22 :: cstr ",\"kind\":\"" := by decide
  unfold deviceText deviceHead deviceTail
  rw [openName, openVendor, openSerial, openKind]
  simp only [List.append_assoc, List.cons_append, List.nil_append]

/-- The line of a device begins with its whole text. -/
theorem deviceLine_begins (d : AtUsbDeviceInfo) :
    ∃ back, deviceLine d = deviceText d (escapeInto d.name 256) (escapeInto d.vendor 256)
      (escapeInto d.serial 128) ++ back := by
  have length := PrintedDevice.length_deviceText d (escapeInto d.name 256)
    (escapeInto d.vendor 256) (escapeInto d.serial 128)
  have name := @length_escapeInto d.name 256 (by decide)
  have vendor := @length_escapeInto d.vendor 256 (by decide)
  have serial := @length_escapeInto d.serial 128 (by decide)
  rw [deviceLine, atStatusEmit, List.take_of_length_le (by rw [lineRoom]; omega)]
  split
  · exact ⟨[], (List.append_nil _).symm⟩
  · exact ⟨_, rfl⟩

/-- Where the output decodes, every device is printed. -/
theorem exists_printed {devs : List ListedDevice} {raw : List Char}
    (decoded : decodeUtf8 (atStatusDevices (devs.map ListedDevice.info)) = some raw)
    {d : ListedDevice} (mem : d ∈ devs) : ∃ p : PrintedDevice, p.device = d := by
  have output := utf8_of_decodeUtf8 decoded
  obtain ⟨front, back, rfl⟩ := List.append_of_mem mem
  obtain ⟨more, line⟩ := deviceLine_begins d.info
  rw [atStatusDevices, List.map_append, List.map_cons, List.flatMap_append, List.flatMap_cons,
    line, deviceText_quoted] at output
  simp only [List.append_assoc, List.cons_append] at output
  simp only [← List.append_assoc _ _ ((0x22 : UInt8) :: _)] at output
  obtain ⟨⟨name, nameText⟩, _, rest⟩ := text_between output
  obtain ⟨⟨vendor, vendorText⟩, _, rest⟩ := text_between rest
  obtain ⟨⟨serial, serialText⟩, -⟩ := text_between rest
  obtain ⟨nameCut⟩ := exists_cut (by decide) nameText
  obtain ⟨vendorCut⟩ := exists_cut (by decide) vendorText
  obtain ⟨serialCut⟩ := exists_cut (by decide) serialText
  exact ⟨⟨d, nameCut, vendorCut, serialCut⟩, rfl⟩

theorem exists_printed_list {devs : List ListedDevice}
    (printed : ∀ d ∈ devs, ∃ p : PrintedDevice, p.device = d) :
    ∃ ps : List PrintedDevice, devs = ps.map PrintedDevice.device := by
  induction devs with
  | nil => exact ⟨[], rfl⟩
  | cons d devs ih =>
      rw [List.forall_mem_cons] at printed
      obtain ⟨p, rfl⟩ := printed.1
      obtain ⟨ps, rfl⟩ := ih printed.2
      exact ⟨p :: ps, rfl⟩

theorem length_flatMap_le {α β : Type} {pieces : α → List β}
    (short : ∀ a, (pieces a).length ≤ 1) (list : List α) :
    (list.flatMap pieces).length ≤ list.length := by
  induction list with
  | nil => exact Nat.le_refl _
  | cons a list ih =>
      have here := short a
      rw [List.flatMap_cons, List.length_append, List.length_cons]
      omega

/-- Pieces of at most one element are a list element by element. -/
theorem flatMap_eq_map_iff {α β : Type} {pieces : α → List β} {value : α → β}
    (short : ∀ a, (pieces a).length ≤ 1) (list : List α) :
    list.flatMap pieces = list.map value ↔ ∀ a ∈ list, pieces a = [value a] := by
  induction list with
  | nil => exact ⟨fun _ _ mem => absurd mem List.not_mem_nil, fun _ => rfl⟩
  | cons a list ih =>
      rw [List.flatMap_cons, List.map_cons, List.forall_mem_cons, ← ih]
      constructor
      · intro same
        have few := length_flatMap_le short list
        have length := congrArg List.length same
        rw [List.length_append, List.length_cons, List.length_map] at length
        match found : pieces a, short a with
        | [], _ =>
            rw [found, List.length_nil] at length
            omega
        | [b], _ =>
            rw [found, List.singleton_append, List.cons.injEq] at same
            rw [same.1]
            exact ⟨rfl, same.2⟩
      · rintro ⟨here, rest⟩
        rw [here, rest]
        rfl

/-! ## The round trip -/

/-- A printed device is read back as itself if its line is whole and nothing was cut. -/
theorem PrintedDevice.readBack_iff (p : PrintedDevice) :
    (if p.Whole then [p.shown] else []) = [p.device.shown] ↔ p.device.ReadBack := by
  constructor
  · intro read
    split at read
    · rename_i whole
      have same := List.singleton_inj.mp read
      have name := congrArg (fun d => d.name.toList) same
      have vendor := congrArg (fun d => d.vendor.toList) same
      have serial := congrArg (fun d => d.serial.toList) same
      simp only [PrintedDevice.shown, ListedDevice.shown, String.toList_ofList] at name vendor serial
      obtain ⟨nameClean, vendorClean, serialClean⟩ := whole
      rw [name] at nameClean
      rw [vendor] at vendorClean
      rw [serial] at serialClean
      exact ⟨nameClean, vendorClean, serialClean, p.name.whole.mp name,
        p.vendor.whole.mp vendor, p.serial.whole.mp serial⟩
    · cases read
  · intro back
    have name := p.name.whole.mpr back.nameSpare
    have vendor := p.vendor.whole.mpr back.vendorSpare
    have serial := p.serial.whole.mpr back.serialSpare
    have whole : p.Whole := by
      rw [PrintedDevice.Whole, name, vendor, serial]
      exact ⟨back.name, back.vendor, back.serial⟩
    rw [if_pos whole, PrintedDevice.shown, name, vendor, serial, String.ofList_toList,
      String.ofList_toList, String.ofList_toList]
    rfl

theorem ListedDevice.ReadBack.printed {d : ListedDevice} (back : d.ReadBack) :
    ∃ p : PrintedDevice, p.device = d :=
  ⟨⟨d, .ofSpare back.nameSpare, .ofSpare back.vendorSpare, .ofSpare back.serialSpare⟩, rfl⟩

/-- A list of printed devices is read back if each of them is. -/
theorem parseDevices_printed_iff {ps : List PrintedDevice}
    (small : (ps.map PrintedDevice.device).length < 2 ^ 31) :
    parseDevices bridge
        (runUserText (atStatusDevices ((ps.map PrintedDevice.device).map ListedDevice.info))) =
        (ps.map PrintedDevice.device).map ListedDevice.shown ↔
      ∀ d ∈ ps.map PrintedDevice.device, d.ReadBack := by
  have atMostOne : ∀ p : PrintedDevice, (if p.Whole then [p.shown] else []).length ≤ 1 := by
    intro p
    split
    · exact Nat.le_refl _
    · exact Nat.zero_le _
  rw [List.length_map] at small
  have read := parseDevices_printed bridge small
  rw [List.map_map, List.map_map, show ListedDevice.info ∘ PrintedDevice.device =
    fun p => p.device.info from rfl, read, flatMap_eq_map_iff atMostOne, List.forall_mem_map]
  exact forall₂_congr fun p _ => p.readBack_iff

/-- The app shows exactly the devices of the list, in order, if and only if no text of
them breaks its line and every escaped form leaves a byte to spare in its array. -/
theorem device_list_read_back {devs : List ListedDevice} (small : devs.length < 2 ^ 31) :
    parseDevices bridge (runUserText (atStatusDevices (devs.map ListedDevice.info))) =
        devs.map ListedDevice.shown ↔
      ∀ d ∈ devs, d.ReadBack := by
  by_cases printed : ∀ d ∈ devs, ∃ p : PrintedDevice, p.device = d
  · obtain ⟨ps, rfl⟩ := exists_printed_list printed
    exact parseDevices_printed_iff bridge small
  · constructor
    · intro read
      exfalso
      cases decoded : decodeUtf8 (atStatusDevices (devs.map ListedDevice.info)) with
      | some raw => exact printed fun d mem => exists_printed decoded mem
      | none =>
          -- nothing is decoded, so no device is read
          have empty : devs = [] := by
            rw [runUserText, textOf, decoded] at read
            exact List.map_eq_nil_iff.mp read.symm
          rw [empty] at printed
          exact printed fun d mem => absurd mem List.not_mem_nil
    · intro back
      exact absurd (fun d mem => (back d mem).printed) printed

/-- A phone with a line separator in its name. -/
def separatedPhone : ListedDevice where
  vid := 0x18d1
  pid := 0x4eeb
  locationId := 0x14100000
  name := "Pixel\u20287"
  vendor := "Google"
  serial := "8B1X"
  kind := .rndis
  controlIfc := 0
  dataIfc := 1

def plainPhone : ListedDevice :=
  { separatedPhone with name := "Pixel \"7\"" }

theorem device_list_read_back_plain :
    parseDevices noReals (runUserText (atStatusDevices ([plainPhone].map ListedDevice.info))) =
      [plainPhone].map ListedDevice.shown := by
  apply (device_list_read_back noReals (by decide)).mpr
  intro d mem
  rw [List.mem_singleton.mp mem]
  exact ⟨by decide, by decide, by decide, by decide, by decide, by decide⟩

/-- The device is lost, though its name fits. -/
theorem separated_phone_lost :
    (escaped (cstr separatedPhone.name)).length + 2 ≤ 256 ∧
      parseDevices noReals
        (runUserText (atStatusDevices ([separatedPhone].map ListedDevice.info))) = [] := by
  have spare : Spare (cstr separatedPhone.name) 256 ∧ Spare (cstr separatedPhone.vendor) 256 ∧
      Spare (cstr separatedPhone.serial) 128 := by decide
  have printed := @parseDevices_printed noReals
    [⟨separatedPhone, .ofSpare spare.1, .ofSpare spare.2.1, .ofSpare spare.2.2⟩]
    (show 1 < 2 ^ 31 by decide)
  refine ⟨spare.1, printed.trans ?_⟩
  rw [List.flatMap_singleton, if_neg]
  rintro ⟨clean, -⟩
  have mem : '\u2028' ∈ separatedPhone.name.toList := by decide
  exact clean '\u2028' mem (by decide)

end WiredTethering.Status
