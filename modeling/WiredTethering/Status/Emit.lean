import WiredTethering.Common.Ethernet
import WiredTethering.Dhcp.Lease
import WiredTethering.Engine.Threads
import WiredTethering.Status.Escape

/-!
# The engine's lines

`json_status.c`: what `at_status_log`, `at_status_engine` and `at_status_devices` hand
to `write_all`.  Every text is escaped into a local array first, and the whole line is
cut to `at_status_emit`'s buffer.
-/

namespace WiredTethering.Status

open WiredTethering.Memory
open WiredTethering.Common
open WiredTethering.Dhcp
open WiredTethering.Engine
open WiredTethering.Text

/-- `%u` and `%llu`. -/
def unsignedStr (n : Nat) : Bytes :=
  utf8 (Nat.toDigits 10 n)

/-- `%d`. -/
def signedStr (n : Int) : Bytes :=
  if n < 0 then cstr "-" ++ unsignedStr n.natAbs else unsignedStr n.natAbs

/-- `%02x` of a byte. -/
def hex2 (b : UInt8) : Bytes :=
  [hexDigit (b.toNat / 16), hexDigit (b.toNat % 16)]

/-- `at_mac_format`. -/
def atMacFormat (mac : Mac) : Bytes :=
  hex2 (octet mac 0) ++ cstr ":" ++ hex2 (octet mac 1) ++ cstr ":" ++ hex2 (octet mac 2) ++
    cstr ":" ++ hex2 (octet mac 3) ++ cstr ":" ++ hex2 (octet mac 4) ++ cstr ":" ++
    hex2 (octet mac 5)

/-- The room for a line and its terminator in `at_status_emit`. -/
def lineRoom : Nat := 2048 - 2

/-- `at_status_emit`: the bytes of the formatted text that are written. -/
def atStatusEmit (text : Bytes) : Bytes :=
  let line := text.take (lineRoom - 1)
  if line.getLast? = some 0x0a then line else line ++ [0x0a]

/-- A text escaped into a local array. -/
def escapeInto (src : Bytes) (size : Nat) : Bytes :=
  (atJsonEscape src size).1

/-! ## Log lines -/

/-- `at_log_level_t`. -/
inductive AtLogLevel
  | debug
  | info
  | warn
  | error
deriving DecidableEq, Repr

def AtLogLevel.name : AtLogLevel → String
  | .debug => "debug"
  | .info => "info"
  | .warn => "warn"
  | .error => "error"

def logText (level : AtLogLevel) (esc : Bytes) : Bytes :=
  cstr "\x7b\"type\":\"log\",\"level\":\"" ++ cstr level.name ++ cstr "\",\"message\":\"" ++ esc ++
    cstr "\"\x7d"

/-- `at_status_log`. -/
def atStatusLog (level : AtLogLevel) (message : Bytes) : Bytes :=
  atStatusEmit (logText level (escapeInto message 1024))

/-! ## Status lines -/

/-- `at_stats_t`. -/
structure AtStats where
  rxBytes : UInt64
  txBytes : UInt64
  rxFrames : UInt64
  txFrames : UInt64
  rxErrors : UInt64
  txErrors : UInt64
deriving DecidableEq, Repr

/-- What the accessors of an engine return. -/
structure EngineView where
  state : AtState
  stats : AtStats
  net : AtNetInfo
  mac : Mac
  iface : Bytes
  error : Bytes
  linkMbps : UInt32
deriving DecidableEq, Repr

def stateName : AtState → String
  | .idle => "idle"
  | .connecting => "connecting"
  | .connected => "connected"
  | .stopping => "stopping"
  | .error => "error"

/-- `AT_UTUN_MTU`. -/
def utunMtu : Nat := 1500

def statusText (e : EngineView) (pid : Int32) (iface ip gw dns err : Bytes) : Bytes :=
  cstr "\x7b\"type\":\"status\",\"state\":\"" ++ cstr (stateName e.state) ++
    cstr "\",\"iface\":\"" ++ iface ++ cstr "\",\"ip\":\"" ++ ip ++
    cstr "\",\"gateway\":\"" ++ gw ++ cstr "\",\"dns\":\"" ++ dns ++
    cstr "\",\"mac\":\"" ++ atMacFormat e.mac ++ cstr "\",\"error\":\"" ++ err ++
    cstr "\",\"rx_bytes\":" ++ unsignedStr e.stats.rxBytes.toNat ++
    cstr ",\"tx_bytes\":" ++ unsignedStr e.stats.txBytes.toNat ++
    cstr ",\"rx_frames\":" ++ unsignedStr e.stats.rxFrames.toNat ++
    cstr ",\"tx_frames\":" ++ unsignedStr e.stats.txFrames.toNat ++
    cstr ",\"rx_errors\":" ++ unsignedStr e.stats.rxErrors.toNat ++
    cstr ",\"tx_errors\":" ++ unsignedStr e.stats.txErrors.toNat ++
    cstr ",\"pid\":" ++ signedStr pid.toInt ++
    cstr ",\"link_mbps\":" ++ unsignedStr e.linkMbps.toNat ++
    cstr ",\"mtu\":" ++ signedStr utunMtu ++ cstr "\x7d"

/-- `at_status_engine`. -/
def atStatusEngine (e : EngineView) (pid : Int32) : Bytes :=
  let ip := escapeInto e.net.ip 64
  let gw := escapeInto e.net.gateway 64
  let dns := escapeInto e.net.dns 160
  let iface := escapeInto e.iface 32
  let err := escapeInto e.error 512
  atStatusEmit (statusText e pid iface ip gw dns err)

/-! ## Device lines -/

/-- `at_device_kind_t`. -/
inductive AtDeviceKind
  | unknown
  | rndis
  | android
deriving DecidableEq, Repr

/-- `at_usb_device_info_t`. -/
structure AtUsbDeviceInfo where
  vid : UInt16
  pid : UInt16
  locationId : UInt32
  name : Bytes
  vendor : Bytes
  serial : Bytes
  kind : AtDeviceKind
  controlIfc : UInt8
  dataIfc : UInt8
deriving DecidableEq, Repr

def kindName : AtDeviceKind → String
  | .unknown => "unknown"
  | .rndis => "rndis"
  | .android => "android"

def deviceText (d : AtUsbDeviceInfo) (name vendor serial : Bytes) : Bytes :=
  cstr "\x7b\"type\":\"device\",\"vid\":" ++ unsignedStr d.vid.toNat ++
    cstr ",\"pid\":" ++ unsignedStr d.pid.toNat ++
    cstr ",\"location\":" ++ unsignedStr d.locationId.toNat ++
    cstr ",\"name\":\"" ++ name ++ cstr "\",\"vendor\":\"" ++ vendor ++
    cstr "\",\"serial\":\"" ++ serial ++ cstr "\",\"kind\":\"" ++ cstr (kindName d.kind) ++
    cstr "\",\"control\":" ++ unsignedStr d.controlIfc.toNat ++
    cstr ",\"data\":" ++ unsignedStr d.dataIfc.toNat ++ cstr "\x7d"

def deviceLine (d : AtUsbDeviceInfo) : Bytes :=
  atStatusEmit
    (deviceText d (escapeInto d.name 256) (escapeInto d.vendor 256) (escapeInto d.serial 128))

/-- `at_status_devices`, with the length of the array as its count. -/
def atStatusDevices (devs : List AtUsbDeviceInfo) : Bytes :=
  atStatusEmit (cstr "\x7b\"type\":\"devices_begin\",\"count\":" ++ signedStr devs.length ++
      cstr "\x7d") ++
    devs.flatMap deviceLine ++ atStatusEmit (cstr "\x7b\"type\":\"devices_end\"\x7d")

end WiredTethering.Status
