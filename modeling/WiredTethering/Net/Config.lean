import WiredTethering.Net.Host

/-!
# The network configuration

`net_config.c`.  A function takes the state and returns the state behind it, with
its result where a caller looks at it.  What is only logged is left out; waiting is
left out too.
-/

namespace WiredTethering.Net

open WiredTethering.Memory
open WiredTethering.Common
open WiredTethering.Dhcp

def serviceId : Bytes := cstr "MacOSWiredTetheringUSB"

/-- A string value of a script. -/
def addStr (key : String) (value : Bytes) : ScutilCmd :=
  .dAdd (cstr key) (.str value)

def boolText (b : Bool) : Bytes :=
  if b then cstr "true" else cstr "false"

/-! ## `scutil` -/

/-- `scutil_show` into an array of `n` bytes: the result and the text. -/
def scutilShow (h : Host) (s : NetState) (key : StoreKey) (n : Nat) : NetState × Int × Bytes :=
  match captureCmd h s (some (showText h s.store key)) n with
  | (s, none) => (s, -1, [])
  | (s, some out) => (s, if strstr (cstr "No such key") out then 1 else 0, out)

def scutilKeyExists (h : Host) (s : NetState) (key : StoreKey) : NetState × Bool :=
  let (s, rc, _) := scutilShow h s key 2048
  (s, rc = 0)

def scutilCopyKey (h : Host) (s : NetState) (source target : StoreKey) : NetState × Bool :=
  scutilRun h s [.get source, .set target]

def scutilRemoveKey (h : Host) (s : NetState) (key : StoreKey) : NetState :=
  (scutilRun h s [.remove key]).1

/-! ## Wi-Fi -/

/-- A device name that a command can be given. -/
def namesDevice (dev : Bytes) : Bool :=
  dev ≠ [] && dev ≠ cstr "none"

def wifiFindDevice (h : Host) (s : NetState) : NetState × Option Bytes :=
  match captureCmd h s (some h.hardwarePorts) 4096 with
  | (s, none) => (s, none)
  | (s, some out) => (s, atParseWifiDeviceText out 32)

def wifiPowerOn (h : Host) (s : NetState) (dev : Bytes) : NetState × Int :=
  if !namesDevice dev then (s, -1)
  else
    match captureCmd h s (some (h.powerText dev (s.wifiPower dev))) 256 with
    | (s, none) => (s, -1)
    | (s, some out) => (s, atParseWifiPowerText out)

def wifiSetPower (h : Host) (s : NetState) (dev : Bytes) (on : Bool) : NetState × Bool :=
  if !namesDevice dev then (s, false)
  else runCmd h s fun s => some { s with wifiPower := Function.update s.wifiPower dev on }

/-- The loop of `wifi_set_power_verify` with `attempts` left, and the last look at
the power behind it. -/
def wifiVerifyFrom (h : Host) (dev : Bytes) (on : Bool) : Nat → NetState → NetState × Bool
  | 0, s =>
      let (s, st) := wifiPowerOn h s dev
      (s, st = if on then 1 else 0)
  | attempts + 1, s =>
      let (s, _) := wifiSetPower h s dev on
      let s := if on then (runPlain h s).1 else s
      let (s, st) := wifiPowerOn h s dev
      if st = if on then 1 else 0 then (s, true) else wifiVerifyFrom h dev on attempts s

def wifiSetPowerVerify (h : Host) (s : NetState) (dev : Bytes) (on : Bool) : NetState × Bool :=
  if !namesDevice dev then (s, false) else wifiVerifyFrom h dev on 4 s

def persistWifiBackup (h : Host) (s : NetState) (dev : Bytes) (wasOn turnedOff : Bool) : NetState :=
  let d := if dev ≠ [] then dev else cstr "none"
  (scutilRun h s [.dInit, addStr "Device" d, addStr "WasOn" (boolText wasOn),
    addStr "TurnedOff" (boolText turnedOff), .set .backupWifi]).1

/-- `snapshot_wifi`: the device and whether it was on. -/
def snapshotWifi (h : Host) (s : NetState) : NetState × Bytes × Bool :=
  match wifiFindDevice h s with
  | (s, none) => (persistWifiBackup h s (cstr "none") false false, [], false)
  | (s, some dev) =>
      let (s, on) := wifiPowerOn h s dev
      let s := { s with wifiDev := strlcpy dev 32 }
      (persistWifiBackup h s dev (on = 1) false, dev, on = 1)

/-- `restore_wifi_device` behind a power cycle that worked. -/
def wifiRestored (s : NetState) : NetState :=
  { s with wifiWeTurnedOff := false, wifiMarker := false }

/-- The end of `restore_wifi_device`, with the device that it uses. -/
def restoreWifiUse (h : Host) (s : NetState) (use : Bytes) : NetState × Int :=
  match wifiSetPowerVerify h s use true with
  | (s, true) => (wifiRestored s, 0)
  | (s, false) =>
      match wifiFindDevice h s with
      | (s, none) => (s, -1)
      | (s, some found) =>
          if found = use then (s, -1)
          else
            match wifiSetPowerVerify h s found true with
            | (s, true) => (wifiRestored s, 0)
            | (s, false) => (s, -1)

/-- `restore_wifi_device`; `dev` is empty for a null pointer. -/
def restoreWifiDevice (h : Host) (s : NetState) (dev : Bytes) : NetState × Int :=
  if namesDevice dev then restoreWifiUse h s dev
  else if s.wifiDev ≠ [] then restoreWifiUse h s s.wifiDev
  else
    match wifiFindDevice h s with
    | (s, some found) => restoreWifiUse h s found
    | (s, none) => (s, -1)

def restoreWifiFromBackup (h : Host) (s : NetState) : NetState :=
  let (s, rc, text) := scutilShow h s .backupWifi 2048
  let field (label : String) (n : Nat) : Bytes :=
    if rc = 0 then atParseScutilField text (cstr label) n else []
  let dev := field "Device" 32
  let was := field "WasOn" 16
  let off := field "TurnedOff" 16
  let dev := if dev = [] then strlcpy s.wifiDev 32 else dev
  if s.wifiWeTurnedOff || atParseWifiTruthy off || atParseWifiTruthy was then
    (restoreWifiDevice h s dev).1
  else s

/-- `restore_wifi_device(g_wifi_dev)` where this process has turned Wi-Fi off. -/
def restoreWifiIfOurs (h : Host) (s : NetState) : NetState :=
  if s.wifiWeTurnedOff then (restoreWifiDevice h s s.wifiDev).1 else s

def atNetDisableWifiDuringTether (h : Host) (s : NetState) : NetState × Int :=
  match wifiFindDevice h s with
  | (s, none) => (s, 0)
  | (s, some dev) =>
      let (s, on) := wifiPowerOn h s dev
      if on = 0 then (persistWifiBackup h s dev false false, 0)
      else
        match wifiSetPowerVerify h s dev false with
        | (s, false) => (s, -1)
        | (s, true) =>
            let s := { s with wifiDev := strlcpy dev 32, wifiWeTurnedOff := true }
            let s := persistWifiBackup h s dev true true
            ({ s with wifiMarker := s.wifiMarker || h.home }, 0)

def atNetRestoreWifi (h : Host) (s : NetState) : NetState × Int :=
  let s := restoreWifiFromBackup h s
  if s.wifiWeTurnedOff || s.wifiMarker then restoreWifiDevice h s s.wifiDev else (s, 0)

/-! ## Default routes -/

/-- A default route as the snapshot describes it. -/
structure RouteInfo where
  kind : Bytes
  gw : Bytes
  iface : Bytes
deriving DecidableEq, Repr

/-- The kind of a route via a gateway. -/
def Family.kind : Family → Bytes
  | .inet => cstr "ipv4"
  | .inet6 => cstr "ipv6"

/-- The character that tells an address of the family. -/
def Family.mark : Family → UInt8
  | .inet => 46
  | .inet6 => 58

/-- The size of the array for a gateway. -/
def Family.gwLen : Family → Nat
  | .inet => 64
  | .inet6 => 128

/-- What the snapshot makes of the output of `route get`. -/
def routeInfoOf (family : Family) (out : Bytes) : RouteInfo :=
  let gw := atParseScutilField out (cstr "gateway:") family.gwLen
  let iface := atParseScutilField out (cstr "interface:") 32
  if gw ≠ [] && (cstr "link#").isPrefixOf gw then ⟨cstr "iface", [], iface⟩
  else if gw ≠ [] && gw.contains family.mark then ⟨family.kind, gw, iface⟩
  else if iface ≠ [] then ⟨cstr "iface", gw, iface⟩
  else ⟨cstr "none", gw, iface⟩

/-- `snapshot_default_route` and `snapshot_default_route6`. -/
def snapshotRoute (h : Host) (s : NetState) (family : Family) : NetState × RouteInfo :=
  match captureCmd h s (routeText h family (s.defaultRoute family)) 2048 with
  | (s, none) => (s, ⟨cstr "none", [], []⟩)
  | (s, some out) => (s, routeInfoOf family out)

def snapshotDefaultRoute (h : Host) (s : NetState) : NetState × RouteInfo :=
  snapshotRoute h s .inet

def snapshotDefaultRoute6 (h : Host) (s : NetState) : NetState × RouteInfo :=
  snapshotRoute h s .inet6

/-- Adding a default route, with the result of the restore function. -/
def restoreAdd (h : Host) (s : NetState) (r : Route) (family : Family) : NetState × Int :=
  match routeAdd h s r family with
  | (s, true) => (s, 0)
  | (s, false) => (s, -1)

def restoreDefaultRoute (h : Host) (s : NetState) (info : RouteInfo) : NetState × Int :=
  let (s, _) := routeDelete h s .inet
  if info.kind = cstr "none" then (s, 0)
  else if info.kind = cstr "ipv4" && info.gw ≠ [] then restoreAdd h s (.gateway info.gw) .inet
  else if info.iface ≠ [] then restoreAdd h s (.interface info.iface) .inet
  else (s, 0)

/-- `route delete -inet6 default`, at most `n` times, until it fails. -/
def deleteRoute6 (h : Host) : Nat → NetState → NetState
  | 0, s => s
  | n + 1, s =>
      match routeDelete h s .inet6 with
      | (s, true) => deleteRoute6 h n s
      | (s, false) => s

/-- Other than `restore_default_route` it deletes up to four routes, and takes the
interface `none` for no interface. -/
def restoreDefaultRoute6 (h : Host) (s : NetState) (info : RouteInfo) : NetState × Int :=
  let s := deleteRoute6 h 4 s
  if info.kind = cstr "none" then (s, 0)
  else if info.kind = cstr "ipv6" && info.gw ≠ [] then restoreAdd h s (.gateway info.gw) .inet6
  else if info.iface ≠ [] && info.iface ≠ cstr "none" then
    restoreAdd h s (.interface info.iface) .inet6
  else (s, 0)

/-! ## The session -/

def removeBackupKeys (h : Host) (s : NetState) : NetState :=
  [StoreKey.backupIPv4, .backupDNS, .backupRoute, .backupWifi, .backupValid, .backup,
    .backupRoot].foldl (scutilRemoveKey h) s

/-- One of the two Global keys in `restore_from_backup`. -/
def restoreGlobal (h : Host) (s : NetState) (has : Bytes) (source target : StoreKey) : NetState :=
  if has = cstr "true" then (scutilCopyKey h s source target).1 else scutilRemoveKey h s target

/-- The two routes in `restore_from_backup`. -/
def restoreRoutes (h : Host) (s : NetState) : NetState :=
  let (s, rc, route) := scutilShow h s .backupRoute 2048
  if rc = 0 then
    let field (label : String) (n : Nat) : Bytes := atParseScutilField route (cstr label) n
    let orNone (kind : Bytes) : Bytes := if kind ≠ [] then kind else cstr "none"
    let (s, _) := restoreDefaultRoute h s
      ⟨orNone (field "Kind" 32), field "Gateway" 64, field "Interface" 32⟩
    (restoreDefaultRoute6 h s
      ⟨orNone (field "Kind6" 32), field "Gateway6" 128, field "Interface6" 32⟩).1
  else (restoreDefaultRoute h s ⟨cstr "none", [], []⟩).1

/-- `restore_from_backup(1)`; the function is called with no other argument. -/
def restoreFromBackup (h : Host) (s : NetState) : NetState :=
  let s := restoreWifiFromBackup h s
  let s := restoreWifiIfOurs h s
  let (s, rc, valid) := scutilShow h s .backupValid 2048
  if rc ≠ 0 then removeBackupKeys h s
  else
    let s := restoreGlobal h s (atParseScutilField valid (cstr "HasIPv4") 32) .backupIPv4 .globalIPv4
    let s := restoreGlobal h s (atParseScutilField valid (cstr "HasDNS") 32) .backupDNS .globalDNS
    removeBackupKeys h (restoreRoutes h s)

/-- The script at the end of `take_snapshot_to_backup`. -/
def snapshotScript (v4 v6 : RouteInfo) (wdev : Bytes) (wifiOn hasV4 hasDns : Bool) :
    List ScutilCmd :=
  let orNone (text : Bytes) : Bytes := if text ≠ [] then text else cstr "none"
  [.dInit, addStr "Kind" v4.kind, addStr "Gateway" v4.gw, addStr "Interface" (orNone v4.iface),
    addStr "Kind6" v6.kind, addStr "Gateway6" v6.gw, addStr "Interface6" (orNone v6.iface),
    addStr "WifiDev" (orNone wdev), addStr "WifiWasOn" (boolText wifiOn), .set .backupRoute,
    .dInit, addStr "HasIPv4" (boolText hasV4), addStr "HasDNS" (boolText hasDns),
    addStr "Ready" (cstr "true"), .set .backupValid]

def takeSnapshotToBackup (h : Host) (s : NetState) : NetState × Int :=
  let (s, hasV4) := scutilKeyExists h s .globalIPv4
  let (s, hasDns) := scutilKeyExists h s .globalDNS
  let s := if hasV4 then (scutilCopyKey h s .globalIPv4 .backupIPv4).1 else s
  let s := if hasDns then (scutilCopyKey h s .globalDNS .backupDNS).1 else s
  let (s, v4) := snapshotDefaultRoute h s
  let (s, v6) := snapshotDefaultRoute6 h s
  let (s, wdev, wifiOn) := snapshotWifi h s
  let (s, stored) := scutilRun h s (snapshotScript v4 v6 wdev wifiOn hasV4 hasDns)
  (s, if stored then 0 else -1)

def ifaceIsVirtualTether (iface : Bytes) : Bool :=
  (cstr "utun").isPrefixOf iface || (cstr "feth").isPrefixOf iface

/-- `destroy_stale_feth`: one command for each feth interface. -/
def destroyStaleFeth (h : Host) (s : NetState) : NetState :=
  match captureCmd h s (some h.interfaces) 8192 with
  | (s, none) => s
  | (s, some out) =>
      let names := (out.splitOnP fun c => isBlank c || c = 10).filter ((cstr "feth").isPrefixOf ·)
      names.foldl (fun s _ => (runPlain h s).1) s

/-- The subkeys of the service that the store and `networksetup` know. -/
def setupParts : List ScutilCmd :=
  [.remove (.setupService .ipv4), .remove (.setupService .interface),
    .remove (.setupService .whole)]

def atNetUnpublishPath (h : Host) (s : NetState) : NetState :=
  (scutilRun h s ([.remove (.stateService .ipv4), .remove (.stateService .dns),
    .remove (.stateService .interface), .remove (.stateService .whole)] ++ setupParts)).1

def atNetRemoveService (h : Host) (s : NetState) : NetState :=
  let (s, _) := runPlain h s
  (scutilRun h s setupParts).1

def serviceName : Bytes := cstr "macOS wired tethering"

def registerViaScutil (h : Host) (s : NetState) (ifname : Bytes) : NetState × Int :=
  match scutilRun h s [.dInit, addStr "UserDefinedName" serviceName, .set (.setupService .whole),
      .dInit, addStr "Type" (cstr "IPSec"), addStr "Hardware" (cstr "Hardware"),
      addStr "DeviceName" ifname, addStr "UserDefinedName" serviceName,
      .set (.setupService .interface),
      .dInit, addStr "ConfigMethod" (cstr "Manual"), .set (.setupService .ipv4)] with
  | (s, true) => (s, 0)
  | (s, false) => (s, -1)

def atNetRegisterService (h : Host) (s : NetState) (ifname : Bytes) : NetState :=
  let (s, _) := runPlain h s
  let (s, created) := runPlain h s
  let s := if created then s else (registerViaScutil h s ifname).1
  (runPlain h s).1

/-- `live_ok` in `at_net_begin_session`. -/
def liveOk (live : RouteInfo) : Bool :=
  live.kind ≠ cstr "none" && !ifaceIsVirtualTether live.iface

def atNetBeginSession (h : Host) (s : NetState) : NetState × Int :=
  if s.sessionOpen then (s, 0)
  else
    let s := destroyStaleFeth h s
    let (s, live) := snapshotDefaultRoute h s
    let (s, leftover) := scutilKeyExists h s .backupValid
    let s :=
      if !leftover then s
      else if liveOk live then removeBackupKeys h s
      else atNetRemoveService h (atNetUnpublishPath h (restoreFromBackup h s))
    let (s, rc) := takeSnapshotToBackup h s
    if rc ≠ 0 then (s, -1) else ({ s with sessionOpen := true }, 0)

/-- The condition `had` of `at_net_end_session`; a later operand is not evaluated
behind one that holds. -/
def hadSession (h : Host) (s : NetState) : NetState × Bool :=
  if s.sessionOpen || s.wifiWeTurnedOff then (s, true)
  else
    match scutilKeyExists h s .backupValid with
    | (s, true) => (s, true)
    | (s, false) => scutilKeyExists h s .backupWifi

def atNetEndSession (h : Host) (s : NetState) : NetState :=
  match hadSession h s with
  | (s, false) =>
      let s := if s.wifiMarker then (restoreWifiDevice h s []).1 else s
      atNetRemoveService h (atNetUnpublishPath h s)
  | (s, true) =>
      let s := restoreFromBackup h s
      let s := restoreWifiIfOurs h s
      let s := atNetRemoveService h (atNetUnpublishPath h s)
      { s with sessionOpen := false }

/-! ## The tunnel -/

/-- The script of `at_net_publish_path`. -/
def publishScript (ifname : Bytes) (lease : AtNetInfo) (gw : Bytes) (dns : List Bytes)
    (asPrimary : Bool) : List ScutilCmd :=
  [.dInit, .dAdd (cstr "Addresses") (.array [lease.ip]),
    .dAdd (cstr "Destinations") (.array [gw]), addStr "InterfaceName" ifname,
    addStr "Router" gw, .set (.stateService .ipv4),
    .dInit, addStr "DeviceName" ifname, addStr "Type" (cstr "IPSec"),
    .set (.stateService .interface),
    .dInit, .dAdd (cstr "ServerAddresses") (.array dns), .set (.stateService .dns)] ++
  if asPrimary then
    [.dInit, addStr "PrimaryInterface" ifname, addStr "PrimaryService" serviceId,
      addStr "Router" gw, .set .globalIPv4,
      .dInit, .dAdd (cstr "ServerAddresses") (.array dns), .set .globalDNS]
  else []

def atNetPublishPath (h : Host) (s : NetState) (ifname : Bytes) (lease : AtNetInfo)
    (asPrimary : Bool) : NetState × Int :=
  if !atIfnameOk ifname || !atLeaseAddrsOk lease then (s, -1)
  else
    let asPrimary := asPrimary && s.sessionOpen
    let gw := if lease.gateway ≠ [] then lease.gateway else lease.ip
    let (dns1, dns2) := if lease.dns ≠ [] then scanDns lease.dns else ([], [])
    let dns1 := if dns1 = [] then strlcpy gw 64 else dns1
    let dns := if dns2 ≠ [] then [dns1, dns2] else [dns1]
    let (s, stored) := scutilRun h s (publishScript ifname lease gw dns asPrimary)
    (s, if stored then 0 else -1)

def atNetApplyLease (h : Host) (s : NetState) (ifname : Bytes) (lease : AtNetInfo)
    (asPrimary : Bool) : NetState × Int :=
  if lease.ip = [] then (s, -1)
  else if !atIfnameOk ifname || !atLeaseAddrsOk lease then (s, -1)
  else
    let (s, p2p) := runPlain h s
    let (s, applied) := if p2p then (s, true) else runPlain h s
    if !applied then (s, -1)
    else
      let (s, _) := runPlain h s
      ((atNetPublishPath h s ifname lease asPrimary).1, 0)

def atNetDropIpv6Default (h : Host) (s : NetState) : NetState × Int :=
  match routeDelete h s .inet6 with
  | (s, true) => (s, 0)
  | (s, false) => (s, 1)

def atNetPreferDefaultRoute (h : Host) (s : NetState) (ifname gateway : Bytes) :
    NetState × Int :=
  if gateway = [] then (s, -1)
  else if !atIfnameOk ifname || !atIpv4DottedOk gateway then (s, -1)
  else if !s.sessionOpen then (s, -1)
  else
    let (s, _) := routeDelete h s .inet
    let (s, viaIf) := routeAdd h s (.interface ifname) .inet
    let (s, added) := if viaIf then (s, true) else routeAdd h s (.gateway gateway) .inet
    if !added then (s, -1) else ((atNetDropIpv6Default h s).1, 0)

def atNetClearDhcp (h : Host) (s : NetState) : NetState :=
  let s := atNetEndSession h s
  let (s, _) := runPlain h s
  let (s, _) := runPlain h s
  atNetRemoveService h (atNetUnpublishPath h s)

end WiredTethering.Net
