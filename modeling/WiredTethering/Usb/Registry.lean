import Mathlib.Data.List.Pairwise
import WiredTethering.Net.Parse
import WiredTethering.Status.DeviceTable

/-!
# Finding the phone

`at_usb_list_devices` walks the USB devices of the registry and tells from the interfaces
below each of them what it is.  `pick_device` chooses one of the list, and `find_service`
finds the chosen one in the registry again when it is opened.
-/

namespace WiredTethering.Usb

open WiredTethering.Memory
open WiredTethering.Common
open WiredTethering.Net
open WiredTethering.Status

/-! ## The registry -/

/-- A property: the 32 bits that `CFNumberGetValue` stores, or the bytes of a string. -/
inductive CFProperty
  | number (value : UInt32)
  | string (text : Bytes)
  | other
deriving DecidableEq, Repr

/-- A service below a device; its class is missing where `IOObjectGetClass` fails. -/
structure RegistryEntry where
  className : Option String
  property : String → Option CFProperty

/-- A USB device, and the services that the recursive iterator gives below it. -/
structure UsbService where
  property : String → Option CFProperty
  below : Option (List RegistryEntry)

/-- `prop_u32`. -/
def propU32 (property : String → Option CFProperty) (key : String) : UInt32 :=
  match property key with
  | some (.number value) => value
  | _ => 0

/-- `prop_str`: the string, empty when it does not fit into `n` bytes. -/
def propStr (property : String → Option CFProperty) (key : String) (n : Nat) : Bytes :=
  match property key with
  | some (.string text) => if text.length < n then text.takeWhile (· ≠ 0) else []
  | _ => []

/-! ## What a device is -/

/-- `is_rndis_control`. -/
def isRndisControl (cls sub proto : UInt8) : Bool :=
  (cls = 0xE0 ∧ sub = 0x01 ∧ proto = 0x03) ∨ (cls = 0x02 ∧ sub = 0x02 ∧ proto = 0xFF) ∨
    (cls = 0xEF ∧ sub = 0x04 ∧ proto = 0x01)

/-- `is_cdc_data`. -/
def isCdcData (cls : UInt8) : Bool :=
  cls = 0x0A

/-- `looks_android`. -/
def looksAndroid (cls sub proto : UInt8) : Bool :=
  (cls = 0xFF ∧ proto = 0x42) ∨ cls = 0x06 ∨ (cls = 0xFF ∧ sub = 0x42) ∨
    isRndisControl cls sub proto = true ∨ isCdcData cls = true

/-- The fields of an interface. -/
structure InterfaceInfo where
  cls : UInt8
  sub : UInt8
  proto : UInt8
  num : UInt8
deriving DecidableEq, Repr

def InterfaceInfo.control (i : InterfaceInfo) : Bool :=
  isRndisControl i.cls i.sub i.proto

def InterfaceInfo.data (i : InterfaceInfo) : Bool :=
  isCdcData i.cls

def InterfaceInfo.android (i : InterfaceInfo) : Bool :=
  looksAndroid i.cls i.sub i.proto

/-- The interface that a service stands for. -/
def RegistryEntry.interface? (entry : RegistryEntry) : Option InterfaceInfo :=
  if entry.className = some "IOUSBHostInterface" ∨ entry.className = some "IOUSBInterface" then
    some
      { cls := (propU32 entry.property "bInterfaceClass").toUInt8
        sub := (propU32 entry.property "bInterfaceSubClass").toUInt8
        proto := (propU32 entry.property "bInterfaceProtocol").toUInt8
        num := (propU32 entry.property "bInterfaceNumber").toUInt8 }
  else none

/-- One round of the loop in `inspect_interfaces`, with `saw_android`. -/
def inspectOne (state : AtUsbDeviceInfo × Bool) (i : InterfaceInfo) : AtUsbDeviceInfo × Bool :=
  let (info, sawAndroid) := state
  let sawAndroid := sawAndroid || i.android
  let info :=
    if i.control ∧ info.kind ≠ .rndis then { info with kind := .rndis, controlIfc := i.num }
    else info
  let info := if i.data then { info with dataIfc := i.num } else info
  (info, sawAndroid)

/-- `inspect_interfaces`. -/
def inspectInterfaces (device : UsbService) (info : AtUsbDeviceInfo) : AtUsbDeviceInfo :=
  match device.below with
  | none => info
  | some entries =>
      let (info, sawAndroid) :=
        (entries.filterMap RegistryEntry.interface?).foldl inspectOne (info, false)
      if info.kind ≠ .rndis ∧ sawAndroid then { info with kind := .android } else info

def phoneKeys : List String :=
  ["samsung", "galaxy", "google", "pixel", "xiaomi", "redmi", "poco",
    "oneplus", "oppo", "vivo", "huawei", "honor", "sony", "xperia",
    "motorola", "nokia", "nothing", "asus", "rog phone", "lg ",
    "android", "phone"]

/-- `looks_phone_name`, with its buffer of `AT_MAX_NAME` bytes. -/
def looksPhoneName (s : Bytes) : Bool :=
  let lower := (s.take 127).map toLower
  s ≠ [] ∧ phoneKeys.any fun key => strstr (cstr key) lower

/-- A string property, or else the one under a second key. -/
def propStrOr (property : String → Option CFProperty) (key other : String) (n : Nat) : Bytes :=
  let first := propStr property key n
  if first = [] then propStr property other n else first

/-- What `fill_device_info` reads of the device itself. -/
def describeDevice (device : UsbService) : AtUsbDeviceInfo :=
  let vid := (propU32 device.property "idVendor").toUInt16
  let pid := (propU32 device.property "idProduct").toUInt16
  let name := propStrOr device.property "USB Product Name" "kUSBProductString" 128
  { vid := vid
    pid := pid
    locationId := propU32 device.property "locationID"
    name :=
      if name = [] then cstr "USB " ++ hexStr 4 vid.toNat ++ cstr ":" ++ hexStr 4 pid.toNat
      else name
    vendor := propStrOr device.property "USB Vendor Name" "kUSBVendorString" 128
    serial := propStrOr device.property "USB Serial Number" "kUSBSerialNumberString" 64
    kind := .unknown
    controlIfc := 0
    dataIfc := 0 }

/-- `fill_device_info`. -/
def fillDeviceInfo (device : UsbService) : AtUsbDeviceInfo :=
  let info := inspectInterfaces device (describeDevice device)
  if info.kind = .unknown ∧ (looksPhoneName info.name ∨ looksPhoneName info.vendor) then
    { info with kind := .android }
  else info

/-! ## Listing, picking and finding -/

/-- `AT_MAX_DEVICES`. -/
def maxDevices : Nat := 32

/-- The loop of `at_usb_list_devices` behind `out`. -/
def listDevices (maxOut : Nat) : List AtUsbDeviceInfo → List UsbService → List AtUsbDeviceInfo
  | out, [] => out
  | out, device :: rest =>
      if maxOut ≤ out.length then out
      else
        let info := fillDeviceInfo device
        if info.vid = 0 ∧ info.pid = 0 then listDevices maxOut out rest
        else if info.kind = .unknown then listDevices maxOut out rest
        else listDevices maxOut (out ++ [info]) rest

/-- `at_usb_list_devices`, of the devices that the iterator gives. -/
def atUsbListDevices (registry : List UsbService) : List AtUsbDeviceInfo :=
  listDevices maxDevices [] registry

/-- The filter of `pick_device`: a field that is zero or empty asks for nothing. -/
def fits (want device : AtUsbDeviceInfo) : Bool :=
  (want.locationId = 0 ∨ device.locationId = want.locationId) ∧
    (want.vid = 0 ∨ device.vid = want.vid) ∧ (want.pid = 0 ∨ device.pid = want.pid) ∧
    (want.serial = [] ∨ want.serial = device.serial)

/-- The loop of `pick_device`. -/
def pickFrom (want : AtUsbDeviceInfo) (haveFilter : Bool) :
    Option AtUsbDeviceInfo → List AtUsbDeviceInfo → Option AtUsbDeviceInfo
  | chosen, [] => chosen
  | chosen, device :: rest =>
      if haveFilter ∧ ¬ fits want device then pickFrom want haveFilter chosen rest
      else if device.kind = .rndis then some device
      else pickFrom want haveFilter (chosen.or (some device)) rest

/-- `pick_device`. -/
def pickDevice (want : AtUsbDeviceInfo) (haveFilter : Bool) (devices : List AtUsbDeviceInfo) :
    Option AtUsbDeviceInfo :=
  pickFrom want haveFilter none devices

/-- The condition of `find_service`. -/
def namesDevice (want info : AtUsbDeviceInfo) : Bool :=
  if want.locationId ≠ 0 ∧ info.locationId = want.locationId then true
  else
    want.locationId = 0 ∧ info.vid = want.vid ∧ info.pid = want.pid ∧
      (want.serial = [] ∨ want.serial = info.serial)

/-- `find_service`. -/
def findService (registry : List UsbService) (want : AtUsbDeviceInfo) : Option UsbService :=
  registry.find? fun device => namesDevice want (fillDeviceInfo device)

/-! ## What the interfaces say -/

/-- The interfaces below a device, none where the iterator cannot be made. -/
def UsbService.interfaces (device : UsbService) : List InterfaceInfo :=
  (device.below.getD []).filterMap RegistryEntry.interface?

theorem foldl_inspectOne (interfaces : List InterfaceInfo) (info : AtUsbDeviceInfo)
    (sawAndroid : Bool) :
    interfaces.foldl inspectOne (info, sawAndroid) =
      ({ info with
          kind := if interfaces.any (·.control) then .rndis else info.kind
          controlIfc :=
            if info.kind = .rndis then info.controlIfc
            else ((interfaces.find? (·.control)).map (·.num)).getD info.controlIfc
          dataIfc := ((interfaces.reverse.find? (·.data)).map (·.num)).getD info.dataIfc },
        sawAndroid || interfaces.any (·.android)) := by
  induction interfaces generalizing info sawAndroid with
  | nil => simp
  | cons i rest ih =>
      rw [List.foldl_cons, inspectOne, ih, List.any_cons, List.any_cons, List.find?_cons,
        List.reverse_cons, List.find?_append, List.find?_singleton]
      cases control : i.control
      · cases data : i.data <;> cases later : rest.reverse.find? (·.data) <;> simp [Bool.or_assoc]
      · by_cases rndis : info.kind = .rndis
        · cases data : i.data <;> cases later : rest.reverse.find? (·.data) <;>
            simp [rndis, Bool.or_assoc]
        · cases data : i.data <;> cases later : rest.reverse.find? (·.data) <;>
            simp [rndis, Bool.or_assoc]

/-- What is known of a device once its interfaces are inspected. -/
def inspected (interfaces : List InterfaceInfo) (info : AtUsbDeviceInfo) (phone : Bool) :
    AtUsbDeviceInfo :=
  { info with
    kind :=
      if interfaces.any (·.control) then .rndis
      else if interfaces.any (·.android) || phone then .android else .unknown
    controlIfc := ((interfaces.find? (·.control)).map (·.num)).getD 0
    dataIfc := ((interfaces.reverse.find? (·.data)).map (·.num)).getD 0 }

theorem inspectInterfaces_eq (device : UsbService) :
    inspectInterfaces device (describeDevice device) =
      inspected device.interfaces (describeDevice device) false := by
  rw [inspectInterfaces, UsbService.interfaces]
  cases device.below with
  | none => rfl
  | some entries =>
      simp only [Option.getD_some, foldl_inspectOne]
      generalize entries.filterMap RegistryEntry.interface? = interfaces
      cases control : interfaces.any (·.control) <;> cases android : interfaces.any (·.android) <;>
        simp [inspected, describeDevice, control, android]

theorem fillDeviceInfo_eq (device : UsbService) :
    fillDeviceInfo device =
      inspected device.interfaces (describeDevice device)
        (looksPhoneName (describeDevice device).name ||
          looksPhoneName (describeDevice device).vendor) := by
  rw [fillDeviceInfo, inspectInterfaces_eq]
  generalize describeDevice device = info
  cases control : device.interfaces.any (·.control) <;>
    cases android : device.interfaces.any (·.android) <;>
    cases name : looksPhoneName info.name <;> cases vendor : looksPhoneName info.vendor <;>
    simp [inspected, control, android, name, vendor]

/-- What the kind and the two interface numbers of a device say of its interfaces. -/
structure Inspected (interfaces : List InterfaceInfo) (info : AtUsbDeviceInfo) : Prop where
  rndis : info.kind = .rndis ↔ ∃ i ∈ interfaces, i.control
  android : info.kind = .android ↔
    (∀ i ∈ interfaces, ¬ i.control) ∧
      ((∃ i ∈ interfaces, i.android) ∨ looksPhoneName info.name ∨ looksPhoneName info.vendor)
  firstControl : ∀ earlier i later, interfaces = earlier ++ i :: later → i.control →
    (∀ j ∈ earlier, ¬ j.control) → info.controlIfc = i.num
  lastData : ∀ earlier i later, interfaces = earlier ++ i :: later → i.data →
    (∀ j ∈ later, ¬ j.data) → info.dataIfc = i.num
  noControl : (∀ i ∈ interfaces, ¬ i.control) → info.controlIfc = 0
  noData : (∀ i ∈ interfaces, ¬ i.data) → info.dataIfc = 0

theorem inspected_spec (interfaces : List InterfaceInfo) (info : AtUsbDeviceInfo) :
    Inspected interfaces
      (inspected interfaces info (looksPhoneName info.name || looksPhoneName info.vendor)) where
  rndis := by
    cases control : interfaces.any (·.control) with
    | true => exact ⟨fun _ => List.any_eq_true.mp control, fun _ => by simp [inspected, control]⟩
    | false =>
        have none_ : ¬ ∃ i ∈ interfaces, i.control := by simpa using control
        refine ⟨fun rndis => ?_, fun some_ => absurd some_ none_⟩
        simp only [inspected, control, Bool.false_eq_true, if_false] at rndis
        split at rndis <;> cases rndis
  android := by
    cases control : interfaces.any (·.control) with
    | true =>
        obtain ⟨i, member, isControl⟩ := List.any_eq_true.mp control
        refine ⟨fun android => ?_, fun android => absurd isControl (android.1 i member)⟩
        simp [inspected, control] at android
    | false =>
        have none_ : ∀ i ∈ interfaces, ¬ i.control := by simpa using control
        simp only [inspected, control, Bool.false_eq_true, if_false]
        rw [iff_true_intro none_, true_and, ← List.any_eq_true]
        cases interfaces.any (·.android) <;> cases looksPhoneName info.name <;>
          cases looksPhoneName info.vendor <;> simp
  firstControl := by
    rintro earlier i later rfl control none_
    have skipped : earlier.find? (·.control) = none := by simpa using none_
    simp [inspected, List.find?_append, skipped, control]
  lastData := by
    rintro earlier i later rfl data none_
    have skipped : later.reverse.find? (·.data) = none := by simpa using none_
    simp [inspected, List.find?_append, skipped, data]
  noControl none_ := by
    have skipped : interfaces.find? (·.control) = none := by simpa using none_
    simp [inspected, skipped]
  noData none_ := by
    have skipped : interfaces.reverse.find? (·.data) = none := by simpa using none_
    simp [inspected, skipped]

/-! ## The list -/

/-- A device that the list keeps. -/
def shown (info : AtUsbDeviceInfo) : Bool :=
  (info.vid ≠ 0 ∨ info.pid ≠ 0) ∧ info.kind ≠ .unknown

theorem listDevices_eq (maxOut : Nat) (devices : List UsbService) (out : List AtUsbDeviceInfo) :
    listDevices maxOut out devices =
      out ++ ((devices.map fillDeviceInfo).filter shown).take (maxOut - out.length) := by
  induction devices generalizing out with
  | nil => simp [listDevices]
  | cons device rest ih =>
      rw [listDevices, List.map_cons]
      by_cases full : maxOut ≤ out.length
      · rw [if_pos full, Nat.sub_eq_zero_of_le full, List.take_zero, List.append_nil]
      · rw [if_neg full]
        by_cases noId : (fillDeviceInfo device).vid = 0 ∧ (fillDeviceInfo device).pid = 0
        · rw [if_pos noId, ih, List.filter_cons_of_neg (by simp [shown, noId.1, noId.2])]
        · rw [if_neg noId]
          by_cases unknown : (fillDeviceInfo device).kind = .unknown
          · rw [if_pos unknown, ih, List.filter_cons_of_neg (by simp [shown, unknown])]
          · have kept : shown (fillDeviceInfo device) = true := by
              simp only [shown, decide_eq_true_eq]
              exact ⟨by tauto, unknown⟩
            obtain ⟨room, isRoom⟩ : ∃ room, maxOut - out.length = room + 1 :=
              ⟨maxOut - out.length - 1, by omega⟩
            rw [if_neg unknown, ih, List.filter_cons_of_pos kept, isRoom, List.take_succ_cons,
              List.append_assoc, List.length_append, List.length_singleton,
              show maxOut - (out.length + 1) = room by omega, List.singleton_append]

/-- The devices of the list are the first 32 that are shown, in the order of the registry, and
each of them is told from its own interfaces. -/
theorem atUsbListDevices_lists (registry : List UsbService) :
    (atUsbListDevices registry = ((registry.map fillDeviceInfo).filter shown).take 32) ∧
      ∀ device ∈ registry, Inspected device.interfaces (fillDeviceInfo device) := by
  constructor
  · rw [atUsbListDevices, listDevices_eq]
    rfl
  · intro device _
    rw [fillDeviceInfo_eq]
    exact inspected_spec _ _

theorem of_mem_atUsbListDevices {registry : List UsbService} {row : AtUsbDeviceInfo}
    (listed : row ∈ atUsbListDevices registry) : ∃ device ∈ registry, fillDeviceInfo device = row := by
  rw [atUsbListDevices, listDevices_eq, List.nil_append] at listed
  exact List.mem_map.mp (List.mem_of_mem_filter (List.mem_of_mem_take listed))

/-! ## From the list back to the registry -/

/-- A device that `pick_device` does not pass over. -/
def candidate (want : AtUsbDeviceInfo) (haveFilter : Bool) (device : AtUsbDeviceInfo) : Bool :=
  !haveFilter || fits want device

theorem pickFrom_eq (want : AtUsbDeviceInfo) (haveFilter : Bool) (devices : List AtUsbDeviceInfo)
    (chosen : Option AtUsbDeviceInfo) :
    pickFrom want haveFilter chosen devices =
      (devices.find? fun device => candidate want haveFilter device && device.kind = .rndis).or
        (chosen.or (devices.find? (candidate want haveFilter))) := by
  induction devices generalizing chosen with
  | nil => simp [pickFrom]
  | cons device rest ih =>
      rw [pickFrom]
      by_cases passed : haveFilter ∧ ¬ fits want device
      · have noCandidate : candidate want haveFilter device = false := by
          simp [candidate, passed.1, passed.2]
        rw [if_pos passed, ih, List.find?_cons_of_neg (by simp [noCandidate]),
          List.find?_cons_of_neg (by simp [noCandidate])]
      · have isCandidate : candidate want haveFilter device = true := by
          cases haveFilter <;> simp_all [candidate]
        rw [if_neg passed, List.find?_cons_of_pos (p := candidate want haveFilter) isCandidate]
        by_cases rndis : device.kind = .rndis
        · rw [if_pos rndis, List.find?_cons_of_pos (by simp [isCandidate, rndis]), Option.some_or]
        · rw [if_neg rndis, ih, List.find?_cons_of_neg (by simp [rndis]), Option.or_assoc,
            Option.some_or]

/-- The device is the first RNDIS device that was asked for, or the first one asked for where
none of them is an RNDIS device. -/
structure Chosen (want : AtUsbDeviceInfo) (haveFilter : Bool) (devices : List AtUsbDeviceInfo)
    (chosen : AtUsbDeviceInfo) : Prop where
  asked : haveFilter → fits want chosen
  first : ∃ earlier later, devices = earlier ++ chosen :: later ∧
    ∀ device ∈ earlier, (haveFilter → fits want device) →
      chosen.kind = .rndis ∧ device.kind ≠ .rndis
  rndis : chosen.kind = .rndis ∨
    ∀ device ∈ devices, (haveFilter → fits want device) → device.kind ≠ .rndis

theorem candidate_iff {want : AtUsbDeviceInfo} {haveFilter : Bool} {device : AtUsbDeviceInfo} :
    candidate want haveFilter device = true ↔ (haveFilter → fits want device) := by
  cases haveFilter <;> simp [candidate]

theorem pickDevice_chosen {want chosen : AtUsbDeviceInfo} {haveFilter : Bool}
    {devices : List AtUsbDeviceInfo} (picked : pickDevice want haveFilter devices = some chosen) :
    Chosen want haveFilter devices chosen := by
  rw [pickDevice, pickFrom_eq, Option.none_or, Option.or_eq_some_iff] at picked
  rcases picked with found | ⟨noRndis, found⟩
  · obtain ⟨isRndis, earlier, later, split_, passed⟩ := List.find?_eq_some_iff_append.mp found
    rw [Bool.and_eq_true, decide_eq_true_eq, candidate_iff] at isRndis
    refine ⟨isRndis.1, ⟨earlier, later, split_, ?_⟩, .inl isRndis.2⟩
    intro device member asked
    have other := passed device member
    rw [candidate_iff.mpr asked, Bool.true_and, Bool.not_eq_true', decide_eq_false_iff_not] at other
    exact ⟨isRndis.2, other⟩
  · obtain ⟨asked, earlier, later, split_, passed⟩ := List.find?_eq_some_iff_append.mp found
    refine ⟨candidate_iff.mp asked, ⟨earlier, later, split_, ?_⟩, .inr ?_⟩
    · intro device member asks
      have other := passed device member
      rw [candidate_iff.mpr asks] at other
      cases other
    · intro device member asks rndis
      have none_ := List.find?_eq_none.mp noRndis device member
      rw [candidate_iff.mpr asks, rndis] at none_
      exact none_ rfl

theorem pickDevice_none {want : AtUsbDeviceInfo} {haveFilter : Bool}
    {devices : List AtUsbDeviceInfo} :
    pickDevice want haveFilter devices = none ↔
      ∀ device ∈ devices, ¬ (haveFilter → fits want device) := by
  rw [pickDevice, pickFrom_eq, Option.none_or, Option.or_eq_none_iff, List.find?_eq_none,
    List.find?_eq_none]
  constructor
  · rintro ⟨-, none_⟩ device member asks
    exact none_ device member (candidate_iff.mpr asks)
  · intro none_
    have noCandidate : ∀ device ∈ devices, ¬ candidate want haveFilter device = true :=
      fun device member asks => none_ device member (candidate_iff.mp asks)
    exact ⟨fun device member => by simp [noCandidate device member], noCandidate⟩

/-- Two devices are not at one location; a missing location reads as zero. -/
def Apart (first second : UsbService) : Prop :=
  (fillDeviceInfo first).locationId = (fillDeviceInfo second).locationId →
    (fillDeviceInfo first).locationId = 0

instance : Std.Symm Apart :=
  ⟨fun _ _ apart same => same.trans (apart same.symm)⟩

instance : DecidableRel Apart := fun first second =>
  inferInstanceAs (Decidable ((fillDeviceInfo first).locationId =
    (fillDeviceInfo second).locationId → (fillDeviceInfo first).locationId = 0))

def LocationsDistinct (registry : List UsbService) : Prop :=
  registry.Pairwise Apart

instance : DecidablePred LocationsDistinct := fun registry =>
  inferInstanceAs (Decidable (registry.Pairwise Apart))

theorem LocationsDistinct.eq_of_location {registry : List UsbService} {first second : UsbService}
    (distinct : LocationsDistinct registry) (isFirst : first ∈ registry)
    (isSecond : second ∈ registry)
    (same : (fillDeviceInfo first).locationId = (fillDeviceInfo second).locationId)
    (located : (fillDeviceInfo first).locationId ≠ 0) : first = second := by
  by_contra differ
  exact located (List.Pairwise.forall distinct isFirst isSecond differ same)

theorem findService_located {registry : List UsbService} {device : UsbService}
    (distinct : LocationsDistinct registry) (member : device ∈ registry)
    (located : (fillDeviceInfo device).locationId ≠ 0) :
    findService registry (fillDeviceInfo device) = some device := by
  rw [findService]
  induction registry with
  | nil => cases member
  | cons first rest ih =>
      rw [LocationsDistinct, List.pairwise_cons] at distinct
      by_cases same : (fillDeviceInfo first).locationId = (fillDeviceInfo device).locationId
      · have isFirst : device = first := by
          rcases List.mem_cons.mp member with isFirst | later
          · exact isFirst
          · exact absurd (same ▸ distinct.1 device later same) located
        cases isFirst
        exact List.find?_cons_of_pos (by simp [namesDevice, located])
      · have later : device ∈ rest := by
          rcases List.mem_cons.mp member with rfl | later
          · exact absurd rfl same
          · exact later
        rw [List.find?_cons_of_neg (by simp [namesDevice, located, same])]
        exact ih distinct.2 later

/-- The condition of `find_service` for a device without a location. -/
def Alike (want info : AtUsbDeviceInfo) : Prop :=
  info.vid = want.vid ∧ info.pid = want.pid ∧ (want.serial = [] ∨ want.serial = info.serial)

theorem namesDevice_unlocated {want info : AtUsbDeviceInfo} (unlocated : want.locationId = 0) :
    namesDevice want info = true ↔ Alike want info := by
  simp [namesDevice, Alike, unlocated]

/-- Without a location the first device that looks alike is found. -/
theorem findService_unlocated {registry : List UsbService} {device : UsbService}
    (member : device ∈ registry) (unlocated : (fillDeviceInfo device).locationId = 0) :
    ∃ earlier found later, registry = earlier ++ found :: later ∧
      findService registry (fillDeviceInfo device) = some found ∧
      Alike (fillDeviceInfo device) (fillDeviceInfo found) ∧
      ∀ other ∈ earlier, ¬ Alike (fillDeviceInfo device) (fillDeviceInfo other) := by
  have itself : namesDevice (fillDeviceInfo device) (fillDeviceInfo device) = true :=
    (namesDevice_unlocated unlocated).mpr ⟨rfl, rfl, .inr rfl⟩
  cases search : findService registry (fillDeviceInfo device) with
  | none => exact absurd itself (List.find?_eq_none.mp search device member)
  | some found =>
      obtain ⟨named, earlier, later, split_, passed⟩ := List.find?_eq_some_iff_append.mp search
      refine ⟨earlier, found, later, split_, rfl, (namesDevice_unlocated unlocated).mp named, ?_⟩
      intro other before alike
      have notNamed := passed other before
      rw [(namesDevice_unlocated unlocated).mpr alike] at notNamed
      cases notNamed

/-- A listed device is chosen when its location is asked for. -/
theorem pickDevice_located {registry : List UsbService} {want row : AtUsbDeviceInfo}
    (distinct : LocationsDistinct registry) (listed : row ∈ atUsbListDevices registry)
    (located : row.locationId ≠ 0) (location : want.locationId = row.locationId)
    (asks : fits want row = true) :
    pickDevice want true (atUsbListDevices registry) = some row := by
  cases picked : pickDevice want true (atUsbListDevices registry) with
  | none => exact absurd (fun _ => asks) (pickDevice_none.mp picked row listed)
  | some chosen =>
      have isChosen := pickDevice_chosen picked
      obtain ⟨earlier, later, split_, -⟩ := isChosen.first
      obtain ⟨other, isOther, rfl⟩ := of_mem_atUsbListDevices (split_ ▸ List.mem_append_cons_self)
      obtain ⟨device, member, rfl⟩ := of_mem_atUsbListDevices listed
      have same : (fillDeviceInfo other).locationId = want.locationId := by
        have fit := isChosen.asked rfl
        simp only [fits, decide_eq_true_eq] at fit
        exact fit.1.resolve_left (location ▸ located)
      rw [distinct.eq_of_location isOther member (same.trans location)
        (same.trans location ▸ located)]

/-- What `pick_device` chooses of the list is what `find_service` then finds, where it has a
location, and otherwise the first device that looks alike.  A listed device is chosen when its
location is asked for. -/
theorem picked_device_is_found (registry : List UsbService) (want : AtUsbDeviceInfo)
    (haveFilter : Bool) (distinct : LocationsDistinct registry) :
    (pickDevice want haveFilter (atUsbListDevices registry) = none ↔
        ∀ device ∈ atUsbListDevices registry, haveFilter ∧ ¬ fits want device) ∧
      (∀ chosen, pickDevice want haveFilter (atUsbListDevices registry) = some chosen →
        Chosen want haveFilter (atUsbListDevices registry) chosen ∧
        (chosen.locationId ≠ 0 → ∃ device ∈ registry,
          findService registry chosen = some device ∧ fillDeviceInfo device = chosen) ∧
        (chosen.locationId = 0 → ∃ earlier found later, registry = earlier ++ found :: later ∧
          findService registry chosen = some found ∧ Alike chosen (fillDeviceInfo found) ∧
          ∀ other ∈ earlier, ¬ Alike chosen (fillDeviceInfo other))) ∧
      ∀ row ∈ atUsbListDevices registry, row.locationId ≠ 0 →
        want.locationId = row.locationId → fits want row →
          pickDevice want true (atUsbListDevices registry) = some row := by
  refine ⟨?_, ?_, ?_⟩
  · rw [pickDevice_none]
    simp only [Classical.not_imp]
  · intro chosen picked
    have isChosen := pickDevice_chosen picked
    obtain ⟨earlier, later, split_, -⟩ := isChosen.first
    obtain ⟨device, member, rfl⟩ := of_mem_atUsbListDevices (split_ ▸ List.mem_append_cons_self)
    refine ⟨isChosen, fun located => ?_, fun unlocated => ?_⟩
    · exact ⟨device, member, findService_located distinct member located, rfl⟩
    · exact findService_unlocated member unlocated
  · intro row listed located location asks
    exact pickDevice_located distinct listed located location asks

/-- A phone at a location, with an RNDIS function while tethering is on. -/
def pixel (location : UInt32) (tethering : Bool) : UsbService where
  property
    | "idVendor" => some (.number 0x18D1)
    | "idProduct" => some (.number 0x4EE7)
    | "locationID" => some (.number location)
    | "USB Product Name" => some (.string (cstr "Pixel 8"))
    | _ => none
  below := some
    [{ className := some "IOUSBHostInterface"
       property
        | "bInterfaceClass" => some (.number (if tethering then 0xE0 else 0xFF))
        | "bInterfaceSubClass" => some (.number (if tethering then 0x01 else 0x42))
        | "bInterfaceProtocol" => some (.number (if tethering then 0x03 else 0x01))
        | _ => none },
     { className := some "IOUSBHostDevice"
       property := fun _ => none }]

theorem picked_device_is_found_tethered :
    pickDevice { describeDevice ⟨fun _ => none, none⟩ with locationId := 2, serial := [] } true
      (atUsbListDevices [⟨fun _ => none, none⟩, pixel 1 false, pixel 2 true]) =
        some (fillDeviceInfo (pixel 2 true)) := by
  apply (picked_device_is_found _ _ true (by decide +kernel)).2.2 (fillDeviceInfo (pixel 2 true))
  all_goals decide +kernel

end WiredTethering.Usb
