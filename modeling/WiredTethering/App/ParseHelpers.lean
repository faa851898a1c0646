import Mathlib.Data.List.DropRight
import WiredTethering.App.Status
import WiredTethering.Json.Parser
import WiredTethering.Text.Hex
import WiredTethering.Text.Utf8
import WiredTethering.Text.Words

/-!
# The app's parsers

`ParseHelpers.swift`: `parseEngineLine`, `parseDevices` and `parseDevicesFromTable`.  An
integer of the JSON text is bridged exactly.  What a literal with a fraction or an
exponent is bridged to is a parameter, since it goes through a double.  A conversion that
traps gives none.
-/

namespace WiredTethering.App

open WiredTethering.Json
open WiredTethering.Memory
open WiredTethering.Text

/-- How a number that is no integer literal is converted. -/
structure RealBridge where
  uint64 : List Char → Option UInt64
  uint16 : List Char → UInt16
  uint32 : List Char → UInt32

/-- `as? String`. -/
def asString : Option Value → Option String
  | some (.string scalars) => some (String.ofList scalars)
  | _ => none

/-- `ParseHelpers.uint64`. -/
def uint64 (bridge : RealBridge) : Option Value → Option UInt64
  | some (.integer n) => if 0 ≤ n ∧ n < 2 ^ 64 then some (UInt64.ofNat n.toNat) else none
  | some (.bool b) => some (if b then 1 else 0)
  | some (.real text) => bridge.uint64 text
  | _ => some 0

/-- `ParseHelpers.nsNumber`. -/
def nsNumber (bridge : RealBridge) : Option Value → UInt16
  | some (.integer n) => UInt16.ofInt n
  | some (.bool b) => if b then 1 else 0
  | some (.real text) => bridge.uint16 text
  | _ => 0

/-- `ParseHelpers.nsNumber32`. -/
def nsNumber32 (bridge : RealBridge) : Option Value → UInt32
  | some (.integer n) => UInt32.ofInt n
  | some (.bool b) => if b then 1 else 0
  | some (.real text) => bridge.uint32 text
  | _ => 0

/-! ## Engine lines -/

/-- `ConnectionState(rawValue:)`. -/
def ConnectionState.ofRaw (raw : String) : Option ConnectionState :=
  if raw = "idle" then some .idle
  else if raw = "connecting" then some .connecting
  else if raw = "connected" then some .connected
  else if raw = "stopping" then some .stopping
  else if raw = "error" then some .error
  else none

inductive EngineLine
  | log (level message : String)
  | status (s : EngineStatus)
deriving DecidableEq, Repr

/-- The object of a status line; the integers are truncated to their fields. -/
def parseStatus (bridge : RealBridge) (obj : List (List Char × Value)) : Option EngineStatus := do
  let rxBytes ← uint64 bridge (member obj "rx_bytes")
  let txBytes ← uint64 bridge (member obj "tx_bytes")
  let rxErrors ← uint64 bridge (member obj "rx_errors")
  let txErrors ← uint64 bridge (member obj "tx_errors")
  let pid ← uint64 bridge (member obj "pid")
  let linkMbps ← uint64 bridge (member obj "link_mbps")
  let mtu ← uint64 bridge (member obj "mtu")
  pure
    { state := (ConnectionState.ofRaw ((asString (member obj "state")).getD "idle")).getD .idle
      iface := (asString (member obj "iface")).getD ""
      ip := (asString (member obj "ip")).getD ""
      gateway := (asString (member obj "gateway")).getD ""
      dns := (asString (member obj "dns")).getD ""
      error := (asString (member obj "error")).getD ""
      rxBytes := rxBytes
      txBytes := txBytes
      rxErrors := rxErrors
      txErrors := txErrors
      pid := Int.bmod pid.toNat (2 ^ 32)
      linkMbps := linkMbps.toUInt32
      mtu := Int.bmod mtu.toNat (2 ^ 64) }

/-- `ParseHelpers.parseEngineLine`; the outer none is a trap. -/
def parseEngineLine (bridge : RealBridge) (line : String) : Option (Option EngineLine) :=
  match jsonObject line.toList with
  | some (.object obj) =>
      match asString (member obj "type") with
      | none => some none
      | some type =>
          if type = "log" then
            some (some (.log ((asString (member obj "level")).getD "info")
              ((asString (member obj "message")).getD "")))
          else if type = "status" then
            (parseStatus bridge obj).map fun s => some (.status s)
          else some none
  | _ => some none

/-! ## The device list -/

/-- `USBKind(rawValue:)`. -/
def USBKind.ofRaw (raw : String) : Option USBKind :=
  if raw = "rndis" then some .rndis
  else if raw = "android" then some .android
  else if raw = "unknown" then some .unknown
  else none

/-- `Character.isNewline`.  Each of these scalars is a character of its own, but for a
line feed behind a carriage return. -/
def isNewline (c : Char) : Bool :=
  (0x0A ≤ c.toNat ∧ c.toNat ≤ 0x0D) ∨ c.toNat = 0x85 ∨ c.toNat = 0x2028 ∨ c.toNat = 0x2029

/-- `split(whereSeparator: \.isNewline)`; empty pieces are left out, so it makes no
difference that a carriage return and its line feed are one separator. -/
def splitLines (raw : List Char) : List (List Char) :=
  (raw.splitOnP isNewline).filter fun piece => piece ≠ []

/-- The device of one line. -/
def parseDevice (bridge : RealBridge) (line : List Char) : Option USBDevice :=
  match jsonObject line with
  | some (.object obj) =>
      if asString (member obj "type") = some "device" then
        some
          { vid := nsNumber bridge (member obj "vid")
            pid := nsNumber bridge (member obj "pid")
            location := nsNumber32 bridge (member obj "location")
            name := (asString (member obj "name")).getD "Android"
            vendor := (asString (member obj "vendor")).getD ""
            serial := (asString (member obj "serial")).getD ""
            kind := (USBKind.ofRaw ((asString (member obj "kind")).getD "unknown")).getD .unknown }
      else none
  | _ => none

/-- `ParseHelpers.parseDevices`. -/
def parseDevices (bridge : RealBridge) (raw : String) : List USBDevice :=
  (splitLines raw.toList).filterMap (parseDevice bridge)

/-! ## The device table

A character is a scalar: the texts have none that combines with the one before it. -/

/-- `Character.isWhitespace`. -/
def isWhitespace (c : Char) : Bool :=
  (0x09 ≤ c.toNat ∧ c.toNat ≤ 0x0D) ∨ c.toNat = 0x20 ∨ c.toNat = 0x85 ∨ c.toNat = 0xA0 ∨
    c.toNat = 0x1680 ∨ (0x2000 ≤ c.toNat ∧ c.toNat ≤ 0x200A) ∨ c.toNat = 0x2028 ∨
    c.toNat = 0x2029 ∨ c.toNat = 0x202F ∨ c.toNat = 0x205F ∨ c.toNat = 0x3000

/-- `CharacterSet.whitespaces`, which has the space of zero width as well. -/
def inWhitespaces (c : Char) : Bool :=
  c.toNat = 0x09 ∨ c.toNat = 0x20 ∨ c.toNat = 0xA0 ∨ c.toNat = 0x1680 ∨
    (0x2000 ≤ c.toNat ∧ c.toNat ≤ 0x200B) ∨ c.toNat = 0x202F ∨ c.toNat = 0x205F ∨
    c.toNat = 0x3000

/-- `trimmingCharacters(in: .whitespaces)`. -/
def trimWhitespaces (line : List Char) : List Char :=
  (line.dropWhile inWhitespaces).rdropWhile inWhitespaces

/-- The magnitude of a number, and whether it has a minus sign. -/
def unsigned : List Char → List Char × Bool
  | '+' :: digits => (digits, false)
  | '-' :: digits => (digits, true)
  | digits => (digits, false)

/-- `UInt16(_:radix: 16)` and `UInt32(_:radix: 16)`, of an integer type with `bound`
values. -/
def hexNumber (bound : Nat) (text : List Char) : Option Nat :=
  let (digits, negative) := unsigned text
  if digits = [] then none
  else (hexDigits 0 digits).filter fun value => if negative then value = 0 else value < bound

/-- A line that is no row: nothing, the head of the table, or one of the two lines that
are printed in its place. -/
def isSkipped (s : List Char) : Bool :=
  s.isEmpty || "VID:".toList.isPrefixOf s || "감지".toList.isPrefixOf s || "USB".toList.isPrefixOf s

/-- The device of one line of the table. -/
def parseRow (line : List Char) : Option USBDevice :=
  let s := trimWhitespaces line
  if isSkipped s then none
  else
    match splitWords isWhitespace s with
    | ids :: location :: kind :: serial :: first :: more =>
        match splitWords (· = ':') ids with
        | [vid, pid] => do
            let vid ← hexNumber (2 ^ 16) vid
            let pid ← hexNumber (2 ^ 16) pid
            let location ← hexNumber (2 ^ 32) location
            pure
              { vid := UInt16.ofNat vid
                pid := UInt16.ofNat pid
                location := UInt32.ofNat location
                name := String.ofList ([' '].intercalate (first :: more))
                vendor := ""
                serial := if serial = ['-'] then "" else String.ofList serial
                kind := (USBKind.ofRaw (String.ofList kind)).getD .unknown }
        | _ => none
    | _ => none

/-- `ParseHelpers.parseDevicesFromTable`. -/
def parseDevicesFromTable (raw : String) : List USBDevice :=
  (splitLines raw.toList).filterMap parseRow

/-- `String(data:encoding: .utf8)`. -/
def textOf (data : Bytes) : Option String :=
  (decodeUtf8 data).map String.ofList

/-- What `runUser` returns of a program's output. -/
def runUserText (output : Bytes) : String :=
  (textOf output).getD ""

end WiredTethering.App
