import WiredTethering.Net.Snapshot

/-!
# A session gives the network back

`Opened` is what holds between `at_net_begin_session` and `at_net_end_session`: the
backup describes the state before the session, and Wi-Fi is as it was or was turned
off by this process.  Every operation of a session keeps it, and the end of the
session restores from it.
-/

namespace WiredTethering.Net

open WiredTethering.Memory
open WiredTethering.Common
open WiredTethering.Dhcp
open WiredTethering.Transition

/-! ## Records of the backup -/

def wifiRecord (dev : Bytes) (wasOn turnedOff : Bool) : List (Bytes × Bytes) :=
  [(cstr "Device", dev), (cstr "WasOn", boolText wasOn), (cstr "TurnedOff", boolText turnedOff)]

def validRecord (hasV4 hasDns : Bool) : List (Bytes × Bytes) :=
  [(cstr "HasIPv4", boolText hasV4), (cstr "HasDNS", boolText hasDns),
    (cstr "Ready", cstr "true")]

def orNone (text : Bytes) : Bytes :=
  if text ≠ [] then text else cstr "none"

def routeRecord (v4 v6 : RouteInfo) (wdev : Bytes) (wifiOn : Bool) : List (Bytes × Bytes) :=
  [(cstr "Kind", v4.kind), (cstr "Gateway", v4.gw), (cstr "Interface", orNone v4.iface),
    (cstr "Kind6", v6.kind), (cstr "Gateway6", v6.gw), (cstr "Interface6", orNone v6.iface),
    (cstr "WifiDev", orNone wdev), (cstr "WifiWasOn", boolText wifiOn)]

theorem execScript_wifi (store : Store) (dev : Bytes) (wasOn turnedOff : Bool) :
    execScript store [.dInit, addStr "Device" dev, addStr "WasOn" (boolText wasOn),
        addStr "TurnedOff" (boolText turnedOff), .set .backupWifi] =
      Function.update store .backupWifi (some (record (wifiRecord dev wasOn turnedOff))) := by
  rfl

theorem execScript_snapshot (store : Store) (v4 v6 : RouteInfo) (wdev : Bytes)
    (wifiOn hasV4 hasDns : Bool) :
    execScript store (snapshotScript v4 v6 wdev wifiOn hasV4 hasDns) =
      Function.update
        (Function.update store .backupRoute (some (record (routeRecord v4 v6 wdev wifiOn))))
        .backupValid (some (record (validRecord hasV4 hasDns))) := by
  rfl

/-- The keys of the record of what was backed up. -/
def validKeys : List Bytes :=
  [cstr "HasIPv4", cstr "HasDNS", cstr "Ready"]

theorem dumpLine_length (entry : Bytes × Bytes) :
    (dumpLine entry).length = entry.1.length + entry.2.length + 6 := by
  have line := congrArg List.length (dumpLine_append entry [])
  simp only [List.append_nil, List.length_cons, List.length_append, List.length_nil] at line
  omega

/-- A dump of few short entries is short. -/
theorem dump_length_le {entries : List (Bytes × Bytes)} {n : Nat}
    (short : ∀ entry ∈ entries, entry.1.length + entry.2.length ≤ n) :
    (dump entries).length ≤ 16 + entries.length * (n + 6) := by
  have front : (cstr "<dictionary> \x7b\n").length = 15 := by decide
  have back : (cstr "\x7d").length = 1 := by decide
  have lines : (entries.flatMap dumpLine).length ≤ entries.length * (n + 6) := by
    induction entries with
    | nil => simp
    | cons entry entries ih =>
        have first := short entry List.mem_cons_self
        have rest := ih fun other mem => short other (List.mem_cons_of_mem entry mem)
        rw [List.flatMap_cons, List.length_append, dumpLine_length, List.length_cons, Nat.add_mul]
        omega
  rw [dump, List.length_append, List.length_append, front, back]
  omega

theorem boolText_length (b : Bool) : (boolText b).length ≤ 5 := by
  cases b <;> decide

theorem wifiRecord_recorded {dev : Bytes} (device : dev = cstr "none" ∨ IfName dev)
    (wasOn turnedOff : Bool) : Recorded wifiKeys (wifiRecord dev wasOn turnedOff) := by
  have token : Token wifiKeys dev := by
    rcases device with rfl | valid
    · decide
    · exact valid.wifiToken
  have short : dev.length ≤ 15 := by
    rcases device with rfl | valid
    · decide
    · exact valid.short
  have texts : ∀ b, Token wifiKeys (boolText b) := by decide
  have size (b : Bool) : (boolText b).length ≤ 15 := (boolText_length b).trans (by decide)
  constructor
  · decide
  · decide
  · change [cstr "Device", cstr "WasOn", cstr "TurnedOff"].Nodup
    decide
  · simp [wifiRecord, wifiKeys]
  · simp only [wifiRecord, List.forall_mem_cons]
    exact ⟨token, texts wasOn, texts turnedOff, nofun⟩
  · refine (dump_length_le (n := 24) ?_).trans (by decide : 16 + 3 * 30 ≤ 2047)
    simp only [wifiRecord, List.forall_mem_cons]
    exact ⟨Nat.add_le_add (by decide : _ ≤ 9) short, Nat.add_le_add (by decide : _ ≤ 9) (size _),
      Nat.add_le_add (by decide : _ ≤ 9) (size _), nofun⟩

theorem validRecord_recorded (hasV4 hasDns : Bool) :
    Recorded validKeys (validRecord hasV4 hasDns) := by
  cases hasV4 <;> cases hasDns <;>
    exact ⟨by decide, by decide, by decide, by decide, by
      simp only [validRecord, List.forall_mem_cons]
      exact ⟨by decide, by decide, by decide, nofun⟩,
      by decide⟩

/-- What the snapshot of a route consists of can be read back from the record. -/
structure RouteInfo.Recordable (family : Family) (info : RouteInfo) : Prop where
  kind : Token routeKeys info.kind
  named : info.kind ≠ []
  gw : Token routeKeys info.gw
  iface : Token routeKeys (orNone info.iface)
  short : info.kind.length ≤ 5 ∧ info.gw.length < family.gwLen ∧
    (orNone info.iface).length ≤ 15

theorem orNone_name {name : Bytes} (named : name = [] ∨ IfName name) :
    Token routeKeys (orNone name) ∧ (orNone name).length ≤ 15 := by
  rcases named with rfl | valid
  · exact ⟨by decide, by decide⟩
  · rw [orNone, if_pos valid.ne_nil]
    exact ⟨valid.token, valid.short⟩

theorem infoOf_recordable {h : Host} (reliable : h.Reliable) {family : Family} {r : Route}
    (valid : r.Wf family) : (infoOf h family r).Recordable family := by
  have room : 0 < family.gwLen := by cases family <;> decide
  cases r with
  | none =>
      have kind : Token routeKeys (cstr "none") ∧ cstr "none" ≠ [] ∧ (cstr "none").length ≤ 5 := by
        decide
      obtain ⟨absent, fits⟩ := orNone_name (.inl rfl)
      exact ⟨kind.1, kind.2.1, .nil (by decide), absent, kind.2.2, room, fits⟩
  | gateway gw =>
      obtain ⟨token, -, short, -, -⟩ := valid
      obtain ⟨named, fits⟩ := orNone_name (reliable.reached gw)
      have kind : Token routeKeys family.kind ∧ family.kind ≠ [] ∧ family.kind.length ≤ 5 := by
        cases family <;> decide
      exact ⟨kind.1, kind.2.1, token, named, kind.2.2, short, fits⟩
  | interface ifname =>
      have kind : Token routeKeys (cstr "iface") ∧ cstr "iface" ≠ [] ∧
          (cstr "iface").length ≤ 5 := by
        decide
      obtain ⟨named, fits⟩ := orNone_name (.inr valid)
      exact ⟨kind.1, kind.2.1, .nil (by decide), named, kind.2.2, room, fits⟩

theorem routeRecord_recorded {v4 v6 : RouteInfo} (first : v4.Recordable .inet)
    (second : v6.Recordable .inet6) {wdev : Bytes} (device : wdev = [] ∨ IfName wdev)
    (wifiOn : Bool) : Recorded routeKeys (routeRecord v4 v6 wdev wifiOn) := by
  obtain ⟨named, fits⟩ := orNone_name device
  have text : Token routeKeys (boolText wifiOn) := by cases wifiOn <;> decide
  have size : (boolText wifiOn).length ≤ 127 := (boolText_length wifiOn).trans (by decide)
  constructor
  · decide
  · decide
  · change routeKeys.Nodup
    decide
  · simp [routeRecord, routeKeys]
  · simp only [routeRecord, List.forall_mem_cons]
    exact ⟨first.kind, first.gw, first.iface, second.kind, second.gw, second.iface, named, text,
      nofun⟩
  · refine (dump_length_le (n := 137) ?_).trans (by decide : 16 + 8 * 143 ≤ 2047)
    have entry {key value : Bytes} (known : key.length ≤ 10) (short : value.length ≤ 127) :
        key.length + value.length ≤ 137 := Nat.add_le_add known short
    have small {value : Bytes} {n : Nat} (short : value.length ≤ n) (bound : n ≤ 127) :
        value.length ≤ 127 := short.trans bound
    obtain ⟨kind4, gw4, iface4⟩ := first.short
    obtain ⟨kind6, gw6, iface6⟩ := second.short
    simp only [routeRecord, List.forall_mem_cons]
    exact ⟨entry (by decide) (small kind4 (by decide)),
      entry (by decide) (small (Nat.le_of_lt gw4) (by decide)),
      entry (by decide) (small iface4 (by decide)), entry (by decide) (small kind6 (by decide)),
      entry (by decide) (Nat.le_of_lt_succ gw6), entry (by decide) (small iface6 (by decide)),
      entry (by decide) (small fits (by decide)), entry (by decide) size, nofun⟩

/-! ## Wi-Fi -/

/-- The Wi-Fi device of the host. -/
def Host.wifiDevice (h : Host) : Option Bytes :=
  atParseWifiDeviceText (captured h.hardwarePorts 4096) 32

theorem IfName.namesDevice {dev : Bytes} (valid : IfName dev) : namesDevice dev = true := by
  simp [Net.namesDevice, valid.ne_nil, valid.ne_none]

namespace Host.Reliable

variable {h : Host}

theorem wifiFindDevice (reliable : h.Reliable) (s : NetState) :
    Net.wifiFindDevice h s = (s.ticked, h.wifiDevice) := by
  rw [Net.wifiFindDevice, reliable.captureCmd]
  rfl

theorem wifiPowerOn (reliable : h.Reliable) (s : NetState) {dev : Bytes} (valid : IfName dev) :
    Net.wifiPowerOn h s dev = (s.ticked, if s.wifiPower dev then 1 else 0) := by
  rw [Net.wifiPowerOn, valid.namesDevice, reliable.captureCmd]
  simp [reliable.power]

theorem wifiSetPowerVerify (reliable : h.Reliable) (s : NetState) {dev : Bytes}
    (valid : IfName dev) (on : Bool) :
    ∃ n, Net.wifiSetPowerVerify h s dev on =
      ({ s with wifiPower := Function.update s.wifiPower dev on, tick := n }, true) := by
  refine ⟨s.tick + if on then 3 else 2, ?_⟩
  cases on with
  | false =>
      simp [Net.wifiSetPowerVerify, wifiVerifyFrom, wifiSetPower, valid.namesDevice,
        reliable.runCmd, reliable.wifiPowerOn _ valid, NetState.ticked]
  | true =>
      simp [Net.wifiSetPowerVerify, wifiVerifyFrom, wifiSetPower, valid.namesDevice,
        reliable.runCmd, reliable.runPlain, reliable.wifiPowerOn _ valid, NetState.ticked]

theorem persistWifiBackup (reliable : h.Reliable) (s : NetState) {dev : Bytes} (named : dev ≠ [])
    (wasOn turnedOff : Bool) :
    Net.persistWifiBackup h s dev wasOn turnedOff =
      { s.ticked with
        store := Function.update s.store .backupWifi
          (some (record (wifiRecord dev wasOn turnedOff))) } := by
  rw [Net.persistWifiBackup, if_pos named, reliable.scutilRun, execScript_wifi]

end Host.Reliable

/-! ## The open session -/

/-- The network that a session has to give back. -/
structure Network where
  globalIPv4 : Option Dict
  globalDNS : Option Dict
  route : Route
  route6 : Route
  wifiPower : Bytes → Bool

def NetState.network (s : NetState) : Network where
  globalIPv4 := s.store .globalIPv4
  globalDNS := s.store .globalDNS
  route := s.route
  route6 := s.route6
  wifiPower := s.wifiPower

/-- Wi-Fi during a session: its power, what this process knows of it, and the record
in the backup. -/
inductive WifiHeld (h : Host) (power : Bytes → Bool) (s : NetState) : Prop where
  | absent (device : h.wifiDevice = none) (same : s.wifiPower = power)
      (ours : s.wifiWeTurnedOff = false)
      (stored : s.store .backupWifi = some (record (wifiRecord (cstr "none") false false)))
  | off {dev : Bytes} (device : h.wifiDevice = some dev) (was : power dev = false)
      (same : s.wifiPower = power) (ours : s.wifiWeTurnedOff = false)
      (stored : s.store .backupWifi = some (record (wifiRecord dev false false)))
  | on {dev : Bytes} (device : h.wifiDevice = some dev) (was : power dev = true)
      (same : s.wifiPower = power) (ours : s.wifiWeTurnedOff = false)
      (stored : s.store .backupWifi = some (record (wifiRecord dev true false)))
  | turnedOff {dev : Bytes} (device : h.wifiDevice = some dev) (was : power dev = true)
      (same : s.wifiPower = Function.update power dev false)
      (ours : s.wifiWeTurnedOff = true)
      (stored : ∃ wasOn turnedOff,
        s.store .backupWifi = some (record (wifiRecord dev wasOn turnedOff)))

/-- The store has a backup that describes the network `before`. -/
structure Backup (h : Host) (before : Network) (store : Store) : Prop where
  valid : store .backupValid = some (record
    (validRecord before.globalIPv4.isSome before.globalDNS.isSome))
  routes : ∃ wdev wifiOn, (wdev = [] ∨ IfName wdev) ∧
    store .backupRoute = some (record (routeRecord (infoOf h .inet before.route)
      (infoOf h .inet6 before.route6) wdev wifiOn))
  ipv4 : ∀ d, before.globalIPv4 = some d → store .backupIPv4 = some d
  dns : ∀ d, before.globalDNS = some d → store .backupDNS = some d

/-- The state during a session that began in the network `before`. -/
structure Opened (h : Host) (before : Network) (s : NetState) : Prop where
  sessionOpen : s.sessionOpen = true
  backup : Backup h before s.store
  wifi : WifiHeld h before.wifiPower s

/-- A network that the snapshot can describe: routes that the host prints as they
are, and Global keys that `show` shows. -/
structure Network.Shown (h : Host) (n : Network) : Prop where
  route : n.route.Wf .inet
  route6 : n.route6.Wf .inet6
  keys : ∀ d, n.globalIPv4 = some d ∨ n.globalDNS = some d →
    strstr (cstr "No such key") (captured (Dict.printed (h.order d)) 2048) = false

/-- What is found before a session: no session of this process and no leftover
backup. -/
structure Startable (h : Host) (s : NetState) : Prop where
  closed : s.sessionOpen = false
  ours : s.wifiWeTurnedOff = false
  fresh : s.store .backupValid = none
  shown : s.network.Shown h

section

variable {h : Host} {s : NetState}

theorem scutilKeyExists_global (reliable : h.Reliable) (s : NetState) (key : StoreKey)
    (shown : ∀ d, s.store key = some d →
      strstr (cstr "No such key") (captured (Dict.printed (h.order d)) 2048) = false) :
    scutilKeyExists h s key = (s.ticked, (s.store key).isSome) := by
  cases stored : s.store key with
  | none =>
      rw [scutilKeyExists, reliable.scutilShow_missing stored]
      rfl
  | some d =>
      rw [scutilKeyExists, scutilShow, reliable.captureCmd, showText, stored]
      simp [shown d stored]

theorem destroyStaleFeth_ticks (reliable : h.Reliable) :
    ∃ n, destroyStaleFeth h s = { s with tick := n } := by
  rw [destroyStaleFeth, reliable.captureCmd]
  dsimp only [Option.map_some]
  generalize ((captured h.interfaces 8192).splitOnP fun c => isBlank c || c = 10).filter
    ((cstr "feth").isPrefixOf ·) = names
  have ticks (m : Nat) : ∃ n,
      names.foldl (fun s _ => (runPlain h s).1) { s with tick := m } = { s with tick := n } := by
    induction names generalizing m with
    | nil => exact ⟨m, rfl⟩
    | cons name names ih =>
        rw [List.foldl_cons, reliable.runPlain]
        exact ih (m + 1)
  exact ticks (s.tick + 1)

/-- The snapshot of the Wi-Fi power. -/
theorem snapshotWifi_holds (reliable : h.Reliable) :
    ∃ wdev wifiOn dev n stored, (wdev = [] ∨ IfName wdev) ∧
      snapshotWifi h s =
        ({ s with
            wifiDev := dev
            tick := n
            store := Function.update s.store .backupWifi (some stored) }, wdev, wifiOn) ∧
      ∀ after : NetState, after.wifiPower = s.wifiPower → after.wifiWeTurnedOff = false →
        after.store .backupWifi = some stored → WifiHeld h s.wifiPower after := by
  rw [snapshotWifi, reliable.wifiFindDevice]
  cases device : h.wifiDevice with
  | none =>
      dsimp only
      rw [reliable.persistWifiBackup _ (by decide)]
      exact ⟨[], false, s.wifiDev, _, _, .inl rfl, rfl,
        fun after same ours stored => .absent device same ours stored⟩
  | some dev =>
      have valid := reliable.device dev device
      dsimp only
      rw [reliable.wifiPowerOn _ valid]
      dsimp only
      rw [reliable.persistWifiBackup _ valid.ne_nil]
      refine ⟨dev, _, strlcpy dev 32, _, _, .inr valid, rfl, fun after same ours stored => ?_⟩
      have held : s.ticked.wifiPower dev = s.wifiPower dev := rfl
      cases was : s.wifiPower dev with
      | false =>
          rw [held, was] at stored
          exact .off device was same ours stored
      | true =>
          rw [held, was] at stored
          exact .on device was same ours stored

/-- The copy of a Global key, where there is one. -/
theorem backupGlobal (reliable : h.Reliable) (source target : StoreKey) {has : Bool}
    (found : (s.store source).isSome = has) :
    ∃ stored n, (if has then (scutilCopyKey h s source target).1 else s) =
        { s with store := Function.update s.store target stored, tick := n } ∧
      ∀ d, s.store source = some d → stored = some d := by
  subst has
  cases stored : s.store source with
  | none =>
      refine ⟨s.store target, s.tick, ?_, nofun⟩
      simp
  | some d =>
      refine ⟨some d, s.tick + 1, ?_, fun other same => same⟩
      rw [Option.isSome_some, if_pos rfl, scutilCopyKey, reliable.scutilRun]
      simp [execScript, ScutilCmd.exec, stored, NetState.ticked]

end

/-- The snapshot, one command behind the other. -/
theorem takeSnapshotToBackup_eq {h : Host} {s s₁ s₂ s₃ s₄ s₅ s₆ s₇ s₈ : NetState}
    {hasV4 hasDns wifiOn : Bool} {v4 v6 : RouteInfo} {wdev : Bytes}
    (existsV4 : scutilKeyExists h s .globalIPv4 = (s₁, hasV4))
    (existsDns : scutilKeyExists h s₁ .globalDNS = (s₂, hasDns))
    (copiedV4 : (if hasV4 then (scutilCopyKey h s₂ .globalIPv4 .backupIPv4).1 else s₂) = s₃)
    (copiedDns : (if hasDns then (scutilCopyKey h s₃ .globalDNS .backupDNS).1 else s₃) = s₄)
    (route : snapshotDefaultRoute h s₄ = (s₅, v4))
    (route6 : snapshotDefaultRoute6 h s₅ = (s₆, v6))
    (wifi : snapshotWifi h s₆ = (s₇, wdev, wifiOn))
    (stored : scutilRun h s₇ (snapshotScript v4 v6 wdev wifiOn hasV4 hasDns) = (s₈, true)) :
    takeSnapshotToBackup h s = (s₈, 0) := by
  rw [takeSnapshotToBackup, existsV4]
  dsimp only
  rw [existsDns]
  dsimp only
  rw [copiedV4, copiedDns, route]
  dsimp only
  rw [route6]
  dsimp only
  rw [wifi]
  dsimp only
  rw [stored]
  rfl

/-- The snapshot describes the network it finds, and leaves it as it is. -/
theorem takeSnapshotToBackup_opened {h : Host} (reliable : h.Reliable) {s : NetState}
    (shown : s.network.Shown h) (ours : s.wifiWeTurnedOff = false) :
    ∃ after, takeSnapshotToBackup h s = (after, 0) ∧ after.network = s.network ∧
      Opened h s.network { after with sessionOpen := true } := by
  have existsV4 := scutilKeyExists_global reliable s .globalIPv4 fun d stored =>
    shown.keys d (.inl stored)
  have existsDns := scutilKeyExists_global reliable s.ticked .globalDNS fun d stored =>
    shown.keys d (.inr stored)
  obtain ⟨ipv4, n, copiedV4, keptV4⟩ := backupGlobal (s := s.ticked.ticked) reliable
    .globalIPv4 .backupIPv4 rfl
  obtain ⟨dns, m, copiedDns, keptDns⟩ := backupGlobal (h := h)
    (s := { s with store := Function.update s.store .backupIPv4 ipv4, tick := n }) reliable
    .globalDNS .backupDNS rfl
  obtain ⟨wdev, wifiOn, dev, k, stored, named, wifi, holds⟩ := snapshotWifi_holds (h := h)
    (s := { s with
      store := Function.update (Function.update s.store .backupIPv4 ipv4) .backupDNS dns
      tick := m + 2 }) reliable
  have snapped := takeSnapshotToBackup_eq existsV4 existsDns copiedV4 copiedDns
    (reliable.snapshotRoute rfl shown.route) (reliable.snapshotRoute rfl shown.route6) wifi
    (reliable.scutilRun _ _)
  refine ⟨_, snapped, ?_, ?_⟩
  · rw [execScript_snapshot]
    rfl
  · rw [execScript_snapshot]
    exact
      { sessionOpen := rfl
        backup :=
          { valid := rfl
            routes := ⟨wdev, wifiOn, named, rfl⟩
            ipv4 := keptV4
            dns := keptDns }
        wifi := holds _ rfl ours rfl }

/-- A session begins by describing the network it finds. -/
theorem atNetBeginSession_opened {h : Host} (reliable : h.Reliable) {s : NetState}
    (startable : Startable h s) :
    ∃ after, atNetBeginSession h s = (after, 0) ∧ after.network = s.network ∧
      Opened h s.network after := by
  obtain ⟨m, destroyed⟩ := destroyStaleFeth_ticks (s := s) reliable
  have live : snapshotDefaultRoute h { s with tick := m } =
      ({ s with tick := m + 1 }, infoOf h .inet s.route) :=
    reliable.snapshotRoute rfl startable.shown.route
  have fresh := reliable.scutilShow_missing (s := { s with tick := m + 1 }) startable.fresh
  obtain ⟨after, snapped, same, opened⟩ := takeSnapshotToBackup_opened
    (s := { s with tick := m + 2 }) reliable startable.shown startable.ours
  refine ⟨{ after with sessionOpen := true }, ?_, same, opened⟩
  rw [atNetBeginSession, startable.closed, if_neg (by decide), destroyed]
  dsimp only
  rw [live, scutilKeyExists, fresh]
  dsimp only
  have unset : (!decide ((1 : Int) = 0)) = true := rfl
  have whole : takeSnapshotToBackup h ({ s with tick := m + 1 } : NetState).ticked = (after, 0) :=
    snapped
  rw [if_pos unset, whole]
  rfl

/-! ## Operations of a session -/

/-- What may be called while a session is open. -/
inductive SessionOp where
  | applyLease (ifname : Bytes) (lease : AtNetInfo) (asPrimary : Bool)
  | publishPath (ifname : Bytes) (lease : AtNetInfo) (asPrimary : Bool)
  | preferDefaultRoute (ifname gateway : Bytes)
  | dropIpv6Default
  | disableWifiDuringTether

def SessionOp.exec (h : Host) (s : NetState) : SessionOp → NetState
  | .applyLease ifname lease asPrimary => (atNetApplyLease h s ifname lease asPrimary).1
  | .publishPath ifname lease asPrimary => (atNetPublishPath h s ifname lease asPrimary).1
  | .preferDefaultRoute ifname gateway => (atNetPreferDefaultRoute h s ifname gateway).1
  | .dropIpv6Default => (atNetDropIpv6Default h s).1
  | .disableWifiDuringTether => (atNetDisableWifiDuringTether h s).1

/-- The key that a command sets or removes. -/
def ScutilCmd.target : ScutilCmd → Option StoreKey
  | .set key => some key
  | .remove key => some key
  | _ => none

/-- `register_via_scutil` runs one script, on the keys of its own service. -/
theorem registerViaScutil_run (h : Host) (s : NetState) (ifname : Bytes) :
    ∃ script, (registerViaScutil h s ifname).1 = (scutilRun h s script).1 ∧
      ∀ cmd ∈ script, ∀ key, cmd.target = some key → ∃ part, key = .setupService part := by
  rw [registerViaScutil]
  split
  all_goals
    rename_i ran
    refine ⟨_, (congrArg Prod.fst ran).symm, ?_⟩
    intro cmd mem key target
    simp only [List.mem_cons, List.not_mem_nil, or_false] at mem
    rcases mem with rfl | rfl | rfl | rfl | rfl | rfl | rfl | rfl | rfl | rfl | rfl | rfl
    all_goals first | contradiction | (cases target; exact ⟨_, rfl⟩)

/-- A script leaves a key that is not among its targets. -/
theorem execScript_other {script : List ScutilCmd} {key : StoreKey}
    (other : ∀ cmd ∈ script, cmd.target ≠ some key) (store : Store) :
    execScript store script key = store key := by
  have leaves (state : Store × Option Dict) :
      (script.foldl ScutilCmd.exec state).1 key = state.1 key := by
    induction script generalizing state with
    | nil => rfl
    | cons cmd script ih =>
        have first : (ScutilCmd.exec state cmd).1 key = state.1 key := by
          have target := other cmd List.mem_cons_self
          obtain ⟨store, d⟩ := state
          cases cmd with
          | dInit => rfl
          | dAdd label value => rfl
          | get source => rfl
          | set written =>
              have apart : key ≠ written := fun same => target (congrArg some same.symm)
              cases d with
              | none => rfl
              | some d => exact Function.update_of_ne apart _ _
          | remove written =>
              have apart : key ≠ written := fun same => target (congrArg some same.symm)
              exact Function.update_of_ne apart _ _
        rw [List.foldl_cons, ih fun later mem => other later (List.mem_cons_of_mem cmd mem), first]
  exact leaves (store, none)

section

variable {h : Host} {s after : NetState}

/-- A command leads to the state that its effect gives, or changes nothing. -/
theorem runCmd_cases {motive : NetState → Prop} {effect : NetState → Option NetState}
    (failed : motive s.ticked) (worked : ∀ next, effect s.ticked = some next → motive next) :
    motive (runCmd h s effect).1 := by
  rw [runCmd]
  split
  · split
    · exact worked _ ‹_›
    · exact failed
  · exact failed

def backupKeys : List StoreKey :=
  [.backupValid, .backupRoute, .backupIPv4, .backupDNS, .backupWifi]

/-- The session, its backup and Wi-Fi are as they were. -/
structure Keeps (s after : NetState) : Prop where
  sessionOpen : after.sessionOpen = s.sessionOpen
  backup : ∀ key ∈ backupKeys, after.store key = s.store key
  wifiPower : after.wifiPower = s.wifiPower
  ours : after.wifiWeTurnedOff = s.wifiWeTurnedOff

theorem Keeps.refl (s : NetState) : Keeps s s :=
  ⟨rfl, fun _ _ => rfl, rfl, rfl⟩

theorem Keeps.trans {last : NetState} (first : Keeps s after) (second : Keeps after last) :
    Keeps s last where
  sessionOpen := second.sessionOpen.trans first.sessionOpen
  backup := fun key mem => (second.backup key mem).trans (first.backup key mem)
  wifiPower := second.wifiPower.trans first.wifiPower
  ours := second.ours.trans first.ours

theorem WifiHeld.kept {power : Bytes → Bool} (held : WifiHeld h power s) (keeps : Keeps s after) :
    WifiHeld h power after := by
  have stored := keeps.backup .backupWifi (by decide)
  cases held with
  | absent device same ours record =>
      exact .absent device (keeps.wifiPower.trans same) (keeps.ours.trans ours)
        (stored.trans record)
  | off device was same ours record =>
      exact .off device was (keeps.wifiPower.trans same) (keeps.ours.trans ours)
        (stored.trans record)
  | on device was same ours record =>
      exact .on device was (keeps.wifiPower.trans same) (keeps.ours.trans ours)
        (stored.trans record)
  | turnedOff device was same ours record =>
      refine .turnedOff device was (keeps.wifiPower.trans same) (keeps.ours.trans ours) ?_
      rw [stored]
      exact record

/-- A backup is in four keys. -/
theorem Backup.kept {before : Network} {store next : Store} (backup : Backup h before store)
    (valid : next .backupValid = store .backupValid)
    (route : next .backupRoute = store .backupRoute) (ipv4 : next .backupIPv4 = store .backupIPv4)
    (dns : next .backupDNS = store .backupDNS) : Backup h before next where
  valid := valid.trans backup.valid
  routes := by
    rw [route]
    exact backup.routes
  ipv4 := fun d found => ipv4.trans (backup.ipv4 d found)
  dns := fun d found => dns.trans (backup.dns d found)

theorem Opened.kept {before : Network} (opened : Opened h before s) (keeps : Keeps s after) :
    Opened h before after where
  sessionOpen := keeps.sessionOpen.trans opened.sessionOpen
  backup := opened.backup.kept (keeps.backup .backupValid (by decide))
    (keeps.backup .backupRoute (by decide)) (keeps.backup .backupIPv4 (by decide))
    (keeps.backup .backupDNS (by decide))
  wifi := opened.wifi.kept keeps

/-- Plain commands and changes of the default routes keep the session. -/
theorem runPlain_keeps (h : Host) (s : NetState) : Keeps s (runPlain h s).1 := by
  refine runCmd_cases ⟨rfl, fun _ _ => rfl, rfl, rfl⟩ ?_
  rintro next ⟨⟩
  exact ⟨rfl, fun _ _ => rfl, rfl, rfl⟩

theorem setDefaultRoute_keeps (s : NetState) (r : Route) (family : Family) :
    Keeps s (s.ticked.setDefaultRoute r family) := by
  cases family <;> exact ⟨rfl, fun _ _ => rfl, rfl, rfl⟩

theorem routeDelete_keeps (h : Host) (s : NetState) (family : Family) :
    Keeps s (routeDelete h s family).1 := by
  refine runCmd_cases ⟨rfl, fun _ _ => rfl, rfl, rfl⟩ fun next deleted => ?_
  split at deleted
  · contradiction
  · cases deleted
    exact setDefaultRoute_keeps s .none family

theorem routeAdd_keeps (h : Host) (s : NetState) (r : Route) (family : Family) :
    Keeps s (routeAdd h s r family).1 := by
  refine runCmd_cases ⟨rfl, fun _ _ => rfl, rfl, rfl⟩ fun next added => ?_
  split at added
  · cases added
    exact setDefaultRoute_keeps s r family
  · contradiction

/-- A script that does not write the backup keeps the session. -/
theorem scutilRun_keeps (h : Host) (s : NetState) {script : List ScutilCmd}
    (other : ∀ key ∈ backupKeys, ∀ cmd ∈ script, cmd.target ≠ some key) :
    Keeps s (scutilRun h s script).1 := by
  refine runCmd_cases ⟨rfl, fun _ _ => rfl, rfl, rfl⟩ ?_
  rintro next ⟨⟩
  exact ⟨rfl, fun key mem => execScript_other (other key mem) s.store, rfl, rfl⟩

theorem publishScript_other (ifname : Bytes) (lease : AtNetInfo) (gw : Bytes) (dns : List Bytes)
    (asPrimary : Bool) :
    ∀ key ∈ backupKeys, ∀ cmd ∈ publishScript ifname lease gw dns asPrimary,
      cmd.target ≠ some key := by
  cases asPrimary <;> simp [backupKeys, publishScript, addStr, ScutilCmd.target]

theorem atNetPublishPath_keeps (h : Host) (s : NetState) (ifname : Bytes) (lease : AtNetInfo)
    (asPrimary : Bool) : Keeps s (atNetPublishPath h s ifname lease asPrimary).1 := by
  rw [atNetPublishPath]
  split
  · exact .refl s
  · exact scutilRun_keeps h s (publishScript_other _ _ _ _ _)

theorem atNetApplyLease_keeps (h : Host) (s : NetState) (ifname : Bytes) (lease : AtNetInfo)
    (asPrimary : Bool) : Keeps s (atNetApplyLease h s ifname lease asPrimary).1 := by
  have rest (s : NetState) : Keeps s
      (atNetPublishPath h (runPlain h s).1 ifname lease asPrimary).1 :=
    (runPlain_keeps h s).trans (atNetPublishPath_keeps h _ ifname lease asPrimary)
  rw [atNetApplyLease]
  split
  · exact .refl s
  · split
    · exact .refl s
    · dsimp only
      split
      · have applied := rest (runPlain h s).1
        exact (runPlain_keeps h s).trans applied
      · have second := (runPlain_keeps h s).trans (runPlain_keeps h _)
        split
        · exact second
        · exact second.trans (rest _)

theorem atNetDropIpv6Default_keeps (h : Host) (s : NetState) :
    Keeps s (atNetDropIpv6Default h s).1 := by
  have deleted := routeDelete_keeps h s .inet6
  rw [atNetDropIpv6Default]
  split
  · rename_i equal
    rw [equal] at deleted
    exact deleted
  · rename_i equal
    rw [equal] at deleted
    exact deleted

theorem atNetPreferDefaultRoute_keeps (h : Host) (s : NetState) (ifname gateway : Bytes) :
    Keeps s (atNetPreferDefaultRoute h s ifname gateway).1 := by
  have deleted := routeDelete_keeps h s .inet
  have viaIf := deleted.trans (routeAdd_keeps h (routeDelete h s .inet).1 (.interface ifname) .inet)
  rw [atNetPreferDefaultRoute]
  split
  · exact .refl s
  · split
    · exact .refl s
    · split
      · exact .refl s
      · dsimp only
        split
        · exact viaIf.trans (atNetDropIpv6Default_keeps h _)
        · have viaGw := viaIf.trans (routeAdd_keeps h _ (.gateway gateway) .inet)
          split
          · exact viaGw
          · exact viaGw.trans (atNetDropIpv6Default_keeps h _)

end

/-- A change of Wi-Fi and of its record. -/
theorem Opened.wifi_changed {h : Host} {before : Network} {s after : NetState}
    (opened : Opened h before s) (sessionOpen : after.sessionOpen = s.sessionOpen)
    {stored : Option Dict} (store : after.store = Function.update s.store .backupWifi stored)
    (wifi : WifiHeld h before.wifiPower after) : Opened h before after where
  sessionOpen := sessionOpen.trans opened.sessionOpen
  backup := by
    rw [store]
    exact opened.backup.kept rfl rfl rfl rfl
  wifi := wifi

namespace Host.Reliable

variable {h : Host}

theorem disableWifi_off (reliable : h.Reliable) {s : NetState} {dev : Bytes}
    (device : h.wifiDevice = some dev) (off : s.wifiPower dev = false) :
    ∃ n, (atNetDisableWifiDuringTether h s).1 =
      { s with
        tick := n
        store := Function.update s.store .backupWifi
          (some (record (wifiRecord dev false false))) } := by
  have valid := reliable.device dev device
  have power : Net.wifiPowerOn h s.ticked dev = (s.ticked.ticked, 0) := by
    rw [reliable.wifiPowerOn _ valid]
    simp [NetState.ticked, off]
  rw [atNetDisableWifiDuringTether, reliable.wifiFindDevice, device]
  dsimp only
  rw [power]
  dsimp only
  rw [if_pos rfl, reliable.persistWifiBackup _ valid.ne_nil]
  exact ⟨_, rfl⟩

theorem disableWifi_on (reliable : h.Reliable) {s : NetState} {dev : Bytes}
    (device : h.wifiDevice = some dev) (on : s.wifiPower dev = true) :
    ∃ n known marker, (atNetDisableWifiDuringTether h s).1 =
      { s with
        tick := n
        wifiPower := Function.update s.wifiPower dev false
        wifiWeTurnedOff := true
        wifiDev := known
        wifiMarker := marker
        store := Function.update s.store .backupWifi
          (some (record (wifiRecord dev true true))) } := by
  have valid := reliable.device dev device
  have power : Net.wifiPowerOn h s.ticked dev = (s.ticked.ticked, 1) := by
    rw [reliable.wifiPowerOn _ valid]
    simp [NetState.ticked, on]
  obtain ⟨n, turned⟩ := reliable.wifiSetPowerVerify s.ticked.ticked valid false
  rw [atNetDisableWifiDuringTether, reliable.wifiFindDevice, device]
  dsimp only
  rw [power]
  dsimp only
  rw [if_neg (by decide), turned]
  dsimp only
  rw [reliable.persistWifiBackup _ valid.ne_nil]
  exact ⟨_, _, _, rfl⟩

end Host.Reliable

/-- Turning Wi-Fi off keeps the session open: it is turned off once at most. -/
theorem atNetDisableWifiDuringTether_opened {h : Host} (reliable : h.Reliable) {before : Network}
    {s : NetState} (opened : Opened h before s) :
    Opened h before (atNetDisableWifiDuringTether h s).1 := by
  cases opened.wifi with
  | absent device same ours stored =>
      rw [atNetDisableWifiDuringTether, reliable.wifiFindDevice, device]
      exact opened.kept ⟨rfl, fun _ _ => rfl, rfl, rfl⟩
  | off device was same ours stored =>
      obtain ⟨n, disabled⟩ := reliable.disableWifi_off device (by rw [same, was])
      rw [disabled]
      exact opened.wifi_changed rfl rfl (.off device was same ours rfl)
  | on device was same ours stored =>
      obtain ⟨n, known, marker, disabled⟩ := reliable.disableWifi_on device (by rw [same, was])
      rw [disabled]
      exact opened.wifi_changed rfl rfl
        (.turnedOff device was (by rw [← same]) rfl ⟨true, true, rfl⟩)
  | turnedOff device was same ours stored =>
      obtain ⟨n, disabled⟩ := reliable.disableWifi_off device (by
        rw [same, Function.update_self])
      rw [disabled]
      exact opened.wifi_changed rfl rfl (.turnedOff device was same ours ⟨false, false, rfl⟩)

/-- Every operation of a session keeps it open. -/
theorem SessionOp.exec_opened {h : Host} (reliable : h.Reliable) {before : Network} {s : NetState}
    (opened : Opened h before s) (op : SessionOp) : Opened h before (op.exec h s) := by
  cases op with
  | applyLease ifname lease asPrimary =>
      exact opened.kept (atNetApplyLease_keeps h s ifname lease asPrimary)
  | publishPath ifname lease asPrimary =>
      exact opened.kept (atNetPublishPath_keeps h s ifname lease asPrimary)
  | preferDefaultRoute ifname gateway =>
      exact opened.kept (atNetPreferDefaultRoute_keeps h s ifname gateway)
  | dropIpv6Default => exact opened.kept (atNetDropIpv6Default_keeps h s)
  | disableWifiDuringTether => exact atNetDisableWifiDuringTether_opened reliable opened

end WiredTethering.Net
