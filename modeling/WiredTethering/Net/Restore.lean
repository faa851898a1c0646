import WiredTethering.Net.Session

/-!
# The end of a session

`at_net_end_session` reads the backup and gives the network back.  A session that
was opened in a network, with any operations in it, ends in the same network.
-/

namespace WiredTethering.Net

open WiredTethering.Memory
open WiredTethering.Common
open WiredTethering.Dhcp

/-! ## Wi-Fi -/

theorem atParseWifiTruthy_boolText (b : Bool) : atParseWifiTruthy (boolText b) = b := by
  cases b <;> decide

/-- A short value is read whole. -/
theorem Recorded.field_whole {keys : List Bytes} {entries shown : List (Bytes × Bytes)}
    (recorded : Recorded keys shown) (perm : shown.Perm entries) {label value : Bytes}
    (mem : (label, value) ∈ entries) {n : Nat} (short : value.length < n) :
    atParseScutilField (dump shown) label n = value := by
  rw [recorded.field (perm.mem_iff.mpr mem), List.take_of_length_le (Nat.le_sub_one_of_lt short)]

namespace Host.Reliable

variable {h : Host}

theorem restoreWifiDevice (reliable : h.Reliable) (s : NetState) {dev : Bytes}
    (valid : IfName dev) :
    ∃ n, (Net.restoreWifiDevice h s dev).1 =
      { s with
        wifiPower := Function.update s.wifiPower dev true
        wifiWeTurnedOff := false
        wifiMarker := false
        tick := n } := by
  obtain ⟨n, turned⟩ := reliable.wifiSetPowerVerify s valid true
  refine ⟨n, ?_⟩
  rw [Net.restoreWifiDevice, if_pos valid.namesDevice, restoreWifiUse, turned]
  rfl

/-- What the record of the Wi-Fi power makes of the end of a session. -/
theorem restoreWifiFromBackup (reliable : h.Reliable) {s : NetState} {dev : Bytes}
    {wasOn turnedOff : Bool} (device : dev = cstr "none" ∨ IfName dev)
    (stored : s.store .backupWifi = some (record (wifiRecord dev wasOn turnedOff))) :
    Net.restoreWifiFromBackup h s =
      if s.wifiWeTurnedOff || turnedOff || wasOn then (Net.restoreWifiDevice h s.ticked dev).1
      else s.ticked := by
  obtain ⟨shown, recorded, perm, read⟩ :=
    reliable.scutilShow stored (wifiRecord_recorded device wasOn turnedOff)
  have named : dev ≠ [] ∧ dev.length < 32 := by
    rcases device with rfl | valid
    · decide
    · exact ⟨valid.ne_nil, Nat.lt_of_le_of_lt valid.short (by decide)⟩
  have size (b : Bool) : (boolText b).length < 16 :=
    Nat.lt_of_le_of_lt (boolText_length b) (by decide)
  have dev' : atParseScutilField (dump shown) (cstr "Device") 32 = dev :=
    recorded.field_whole perm (by simp [wifiRecord]) named.2
  have was : atParseScutilField (dump shown) (cstr "WasOn") 16 = boolText wasOn :=
    recorded.field_whole perm (by simp [wifiRecord]) (size wasOn)
  have off : atParseScutilField (dump shown) (cstr "TurnedOff") 16 = boolText turnedOff :=
    recorded.field_whole perm (by simp [wifiRecord]) (size turnedOff)
  rw [Net.restoreWifiFromBackup, read]
  simp [dev', was, off, named.1, atParseWifiTruthy_boolText, NetState.ticked]

end Host.Reliable

/-- The end of a session turns Wi-Fi back on where it was on. -/
theorem WifiHeld.restored {h : Host} (reliable : h.Reliable) {power : Bytes → Bool} {s : NetState}
    (held : WifiHeld h power s) :
    ∃ n marker, restoreWifiFromBackup h s =
      { s with
        wifiPower := power
        wifiWeTurnedOff := false
        wifiMarker := marker
        tick := n } := by
  cases held with
  | absent device same ours stored =>
      refine ⟨s.tick + 1, s.wifiMarker, ?_⟩
      rw [reliable.restoreWifiFromBackup (.inl rfl) stored, ours, if_neg (by decide), ← same,
        ← ours]
      rfl
  | off device was same ours stored =>
      refine ⟨s.tick + 1, s.wifiMarker, ?_⟩
      rw [reliable.restoreWifiFromBackup (.inr (reliable.device _ device)) stored, ours,
        if_neg (by decide), ← same, ← ours]
      rfl
  | @on dev device was same ours stored =>
      have valid := reliable.device _ device
      obtain ⟨n, turned⟩ := reliable.restoreWifiDevice s.ticked valid
      refine ⟨n, false, ?_⟩
      have again : Function.update power dev true = power := by
        rw [← was, Function.update_eq_self]
      rw [reliable.restoreWifiFromBackup (.inr valid) stored, Bool.or_true, if_pos rfl, turned]
      simp [NetState.ticked, same, again]
  | @turnedOff dev device was same ours stored =>
      obtain ⟨wasOn, turnedOff, stored⟩ := stored
      have valid := reliable.device _ device
      obtain ⟨n, turned⟩ := reliable.restoreWifiDevice s.ticked valid
      refine ⟨n, false, ?_⟩
      have again : Function.update (Function.update power dev false) dev true = power := by
        rw [Function.update_idem, ← was, Function.update_eq_self]
      rw [reliable.restoreWifiFromBackup (.inr valid) stored, ours, Bool.true_or, Bool.true_or,
        if_pos rfl, turned]
      simp [NetState.ticked, same, again]

/-! ## Default routes -/

/-- What the record of routes says of one of them. -/
def RouteInfo.recorded (info : RouteInfo) : RouteInfo :=
  { info with iface := orNone info.iface }

section

variable {h : Host} {s : NetState}

theorem NetState.setDefaultRoute_same (s : NetState) (family : Family) :
    s.setDefaultRoute (s.defaultRoute family) family = s := by
  cases family <;> rfl

/-- Deleting the default route works where there is one. -/
theorem routeDelete_reliable (reliable : h.Reliable) (s : NetState) (family : Family) :
    routeDelete h s family =
      (s.ticked.setDefaultRoute .none family, decide (s.defaultRoute family ≠ .none)) := by
  rw [routeDelete, reliable.runCmd]
  have same : s.ticked.defaultRoute family = s.defaultRoute family := by cases family <;> rfl
  by_cases missing : s.defaultRoute family = .none
  · have none : s.ticked.setDefaultRoute .none family = s.ticked := by
      rw [← missing, ← same, NetState.setDefaultRoute_same]
    simp [same, missing, none]
  · simp [same, missing]

theorem restoreAdd_reliable (reliable : h.Reliable) {family : Family}
    (missing : s.defaultRoute family = .none) (r : Route) :
    restoreAdd h s r family = (s.ticked.setDefaultRoute r family, 0) := by
  have same : s.ticked.defaultRoute family = .none := by
    rw [← missing]
    cases family <;> rfl
  rw [restoreAdd, routeAdd, reliable.runCmd, if_pos same]

theorem restoreDefaultRoute_restores (reliable : h.Reliable) (s : NetState) {r : Route}
    (valid : r.Wf .inet) :
    ∃ n rc, restoreDefaultRoute h s (infoOf h .inet r).recorded =
      ({ s with route := r, tick := n }, rc) := by
  rw [restoreDefaultRoute, routeDelete_reliable reliable]
  dsimp only
  cases r with
  | none => exact ⟨_, _, rfl⟩
  | gateway gw =>
      have named : gw ≠ [] := List.ne_nil_of_mem valid.mark
      have kind : cstr "ipv4" ≠ cstr "none" := by decide
      refine ⟨s.tick + 2, 0, ?_⟩
      simp only [RouteInfo.recorded, infoOf, Family.kind, kind, named, if_false, ne_eq,
        not_false_eq_true, decide_true, Bool.and_self, if_true]
      exact restoreAdd_reliable reliable rfl _
  | interface ifname =>
      have kind : cstr "iface" ≠ cstr "none" ∧ cstr "iface" ≠ cstr "ipv4" := by decide
      have named : orNone ifname = ifname := if_pos valid.ne_nil
      refine ⟨s.tick + 2, 0, ?_⟩
      simp only [RouteInfo.recorded, infoOf, kind, named, valid.ne_nil, if_false, ne_eq,
        not_false_eq_true, decide_false, Bool.false_and, Bool.false_eq_true, if_true]
      exact restoreAdd_reliable reliable rfl _

theorem deleteRoute6_reliable (reliable : h.Reliable) (s : NetState) :
    ∃ n, deleteRoute6 h 4 s = { s with route6 := .none, tick := n } := by
  rw [deleteRoute6, routeDelete_reliable reliable]
  by_cases missing : s.route6 = .none
  · refine ⟨s.tick + 1, ?_⟩
    simp [NetState.defaultRoute, missing, NetState.setDefaultRoute, NetState.ticked]
  · refine ⟨s.tick + 2, ?_⟩
    simp [NetState.defaultRoute, missing, NetState.setDefaultRoute, NetState.ticked, deleteRoute6,
      routeDelete_reliable reliable]

theorem restoreDefaultRoute6_restores (reliable : h.Reliable) (s : NetState) {r : Route}
    (valid : r.Wf .inet6) :
    ∃ n rc, restoreDefaultRoute6 h s (infoOf h .inet6 r).recorded =
      ({ s with route6 := r, tick := n }, rc) := by
  obtain ⟨m, deleted⟩ := deleteRoute6_reliable reliable s
  rw [restoreDefaultRoute6, deleted]
  cases r with
  | none => exact ⟨_, _, rfl⟩
  | gateway gw =>
      have named : gw ≠ [] := List.ne_nil_of_mem valid.mark
      have kind : cstr "ipv6" ≠ cstr "none" := by decide
      refine ⟨m + 1, 0, ?_⟩
      simp only [RouteInfo.recorded, infoOf, Family.kind, kind, named, if_false, ne_eq,
        not_false_eq_true, decide_true, Bool.and_self, if_true]
      exact restoreAdd_reliable reliable rfl _
  | interface ifname =>
      have kind : cstr "iface" ≠ cstr "none" ∧ cstr "iface" ≠ cstr "ipv6" := by decide
      have named : orNone ifname = ifname := if_pos valid.ne_nil
      refine ⟨m + 1, 0, ?_⟩
      simp only [RouteInfo.recorded, infoOf, kind, named, valid.ne_nil, valid.ne_none, if_false,
        ne_eq, not_false_eq_true, decide_false, decide_true, Bool.false_and, Bool.and_self,
        Bool.false_eq_true, if_true]
      exact restoreAdd_reliable reliable rfl _

/-- The record of routes is read, and both default routes are as it says. -/
theorem restoreRoutes_restores (reliable : h.Reliable) {r r6 : Route} (valid : r.Wf .inet)
    (valid6 : r6.Wf .inet6) {wdev : Bytes} {wifiOn : Bool} (device : wdev = [] ∨ IfName wdev)
    (stored : s.store .backupRoute = some (record
      (routeRecord (infoOf h .inet r) (infoOf h .inet6 r6) wdev wifiOn))) :
    ∃ n, restoreRoutes h s = { s with route := r, route6 := r6, tick := n } := by
  have first := infoOf_recordable reliable valid
  have second := infoOf_recordable reliable valid6
  obtain ⟨shown, recorded, perm, read⟩ :=
    reliable.scutilShow stored (routeRecord_recorded first second device wifiOn)
  have field {label value : Bytes} {n : Nat}
      (mem : (label, value) ∈ routeRecord (infoOf h .inet r) (infoOf h .inet6 r6) wdev wifiOn)
      (short : value.length < n) : atParseScutilField (dump shown) label n = value :=
    recorded.field_whole perm mem short
  have kind : atParseScutilField (dump shown) (cstr "Kind") 32 = (infoOf h .inet r).kind :=
    field (by simp [routeRecord]) (Nat.lt_of_le_of_lt first.short.1 (by decide))
  have gw : atParseScutilField (dump shown) (cstr "Gateway") 64 = (infoOf h .inet r).gw :=
    field (by simp [routeRecord]) first.short.2.1
  have iface : atParseScutilField (dump shown) (cstr "Interface") 32 =
      orNone (infoOf h .inet r).iface :=
    field (by simp [routeRecord]) (Nat.lt_of_le_of_lt first.short.2.2 (by decide))
  have kind6 : atParseScutilField (dump shown) (cstr "Kind6") 32 = (infoOf h .inet6 r6).kind :=
    field (by simp [routeRecord]) (Nat.lt_of_le_of_lt second.short.1 (by decide))
  have gw6 : atParseScutilField (dump shown) (cstr "Gateway6") 128 = (infoOf h .inet6 r6).gw :=
    field (by simp [routeRecord]) second.short.2.1
  have iface6 : atParseScutilField (dump shown) (cstr "Interface6") 32 =
      orNone (infoOf h .inet6 r6).iface :=
    field (by simp [routeRecord]) (Nat.lt_of_le_of_lt second.short.2.2 (by decide))
  obtain ⟨n, rc, restored⟩ := restoreDefaultRoute_restores reliable s.ticked valid
  obtain ⟨m, rc6, restored6⟩ := restoreDefaultRoute6_restores reliable
    { s with route := r, tick := n } valid6
  refine ⟨m, ?_⟩
  have info : (⟨if (infoOf h .inet r).kind ≠ [] then (infoOf h .inet r).kind else cstr "none",
      (infoOf h .inet r).gw, orNone (infoOf h .inet r).iface⟩ : RouteInfo) =
        (infoOf h .inet r).recorded := by
    rw [if_pos first.named]
    rfl
  have info6 : (⟨if (infoOf h .inet6 r6).kind ≠ [] then (infoOf h .inet6 r6).kind
      else cstr "none", (infoOf h .inet6 r6).gw, orNone (infoOf h .inet6 r6).iface⟩ : RouteInfo) =
        (infoOf h .inet6 r6).recorded := by
    rw [if_pos second.named]
    rfl
  rw [restoreRoutes, read]
  dsimp only
  rw [if_pos rfl, kind, gw, iface, kind6, gw6, iface6, info, info6, restored]
  exact congrArg Prod.fst restored6

end

/-! ## The store -/

/-- The keys whose values are part of the network. -/
def globalKeys : List StoreKey :=
  [.globalIPv4, .globalDNS]

section

variable {h : Host} {s : NetState}

theorem runPlain_network (h : Host) (s : NetState) : (runPlain h s).1.network = s.network := by
  refine runCmd_cases (motive := fun after => after.network = s.network) rfl ?_
  rintro next ⟨⟩
  rfl

/-- A script that does not write the Global keys leaves the network. -/
theorem scutilRun_network (h : Host) (s : NetState) {script : List ScutilCmd}
    (other : ∀ key ∈ globalKeys, ∀ cmd ∈ script, cmd.target ≠ some key) :
    (scutilRun h s script).1.network = s.network := by
  refine runCmd_cases (motive := fun after => after.network = s.network) rfl ?_
  rintro next ⟨⟩
  have ipv4 := execScript_other (other .globalIPv4 (by decide)) s.store
  have dns := execScript_other (other .globalDNS (by decide)) s.store
  simp [NetState.network, NetState.ticked, ipv4, dns]

theorem scutilRun_ours (h : Host) (s : NetState) (script : List ScutilCmd) :
    (scutilRun h s script).1.wifiWeTurnedOff = s.wifiWeTurnedOff := by
  refine runCmd_cases (motive := fun after => after.wifiWeTurnedOff = s.wifiWeTurnedOff) rfl ?_
  rintro next ⟨⟩
  rfl

theorem removeBackupKeys_ours (h : Host) (s : NetState) :
    (removeBackupKeys h s).wifiWeTurnedOff = s.wifiWeTurnedOff := by
  simp [removeBackupKeys, scutilRemoveKey, scutilRun_ours]

theorem removeBackupKeys_network (h : Host) (s : NetState) :
    (removeBackupKeys h s).network = s.network := by
  have remove (s : NetState) {key : StoreKey} (other : key ∉ globalKeys) :
      (scutilRemoveKey h s key).network = s.network := by
    apply scutilRun_network
    intro global mem cmd isRemove target
    rw [List.mem_singleton.mp isRemove] at target
    cases target
    exact other mem
  simp [removeBackupKeys, remove, globalKeys]

theorem atNetUnpublishPath_network (h : Host) (s : NetState) :
    (atNetUnpublishPath h s).network = s.network :=
  scutilRun_network h s (by decide)

theorem atNetRemoveService_network (h : Host) (s : NetState) :
    (atNetRemoveService h s).network = s.network :=
  (scutilRun_network h _ (by decide)).trans (runPlain_network h s)

/-- A Global key is copied back or removed. -/
theorem restoreGlobal_restores (reliable : h.Reliable) (source target : StoreKey)
    {global : Option Dict} (saved : ∀ d, global = some d → s.store source = some d) :
    restoreGlobal h s (boolText global.isSome) source target =
      { s.ticked with store := Function.update s.store target global } := by
  cases global with
  | none =>
      rw [Option.isSome_none, restoreGlobal, if_neg (by decide), scutilRemoveKey,
        reliable.scutilRun]
      rfl
  | some d =>
      rw [Option.isSome_some, restoreGlobal, if_pos (by decide), scutilCopyKey,
        reliable.scutilRun]
      simp [execScript, ScutilCmd.exec, saved d rfl]

end

/-- The restore, one command behind the other. -/
theorem restoreFromBackup_eq {h : Host} {s w s₁ s₂ s₃ s₄ : NetState} {text has4 hasDns : Bytes}
    (wifi : restoreWifiIfOurs h (restoreWifiFromBackup h s) = w)
    (read : scutilShow h w .backupValid 2048 = (s₁, 0, text))
    (field4 : atParseScutilField text (cstr "HasIPv4") 32 = has4)
    (fieldDns : atParseScutilField text (cstr "HasDNS") 32 = hasDns)
    (ipv4 : restoreGlobal h s₁ has4 .backupIPv4 .globalIPv4 = s₂)
    (dns : restoreGlobal h s₂ hasDns .backupDNS .globalDNS = s₃)
    (routes : restoreRoutes h s₃ = s₄) :
    restoreFromBackup h s = removeBackupKeys h s₄ := by
  rw [restoreFromBackup]
  dsimp only
  rw [wifi, read]
  dsimp only
  rw [if_neg (by decide), field4, fieldDns, ipv4, dns, routes]

/-- Behind Wi-Fi, a backup gives back the network that it describes. -/
theorem restoreFromBackup_restores {h : Host} (reliable : h.Reliable) {before : Network}
    (route : before.route.Wf .inet) (route6 : before.route6.Wf .inet6) {s w : NetState}
    (wifi : restoreWifiIfOurs h (restoreWifiFromBackup h s) = w)
    (backup : Backup h before w.store) :
    (restoreFromBackup h s).network = { before with wifiPower := w.wifiPower } ∧
      (restoreFromBackup h s).wifiWeTurnedOff = w.wifiWeTurnedOff := by
  obtain ⟨shown, recorded, perm, read⟩ :=
    reliable.scutilShow backup.valid (validRecord_recorded _ _)
  have size (b : Bool) : (boolText b).length < 32 :=
    Nat.lt_of_le_of_lt (boolText_length b) (by decide)
  have field4 : atParseScutilField (dump shown) (cstr "HasIPv4") 32 =
      boolText before.globalIPv4.isSome :=
    recorded.field_whole perm (by simp [validRecord]) (size _)
  have fieldDns : atParseScutilField (dump shown) (cstr "HasDNS") 32 =
      boolText before.globalDNS.isSome :=
    recorded.field_whole perm (by simp [validRecord]) (size _)
  obtain ⟨wdev, wifiOn, device, stored⟩ := backup.routes
  have ipv4 := restoreGlobal_restores (s := w.ticked) reliable .backupIPv4 .globalIPv4
    backup.ipv4
  have dns := restoreGlobal_restores (s := { w.ticked.ticked with
    store := Function.update w.store .globalIPv4 before.globalIPv4 }) reliable
      .backupDNS .globalDNS backup.dns
  obtain ⟨n, routes⟩ := restoreRoutes_restores (s := { w.ticked.ticked.ticked with
    store := Function.update (Function.update w.store .globalIPv4 before.globalIPv4) .globalDNS
      before.globalDNS }) reliable route route6 device stored
  rw [restoreFromBackup_eq wifi read field4 fieldDns ipv4 dns routes, removeBackupKeys_network,
    removeBackupKeys_ours]
  exact ⟨rfl, rfl⟩

/-- A session gives the network back: whatever is done in a session, its end leaves the
Global keys, the default routes and the power of Wi-Fi as its start found them. -/
theorem atNetEndSession_gives_back {h : Host} (reliable : h.Reliable) {s : NetState}
    (startable : Startable h s) (ops : List SessionOp) :
    (atNetEndSession h (ops.foldl (SessionOp.exec h) (atNetBeginSession h s).1)).network =
      s.network := by
  obtain ⟨begun, began, -, first⟩ := atNetBeginSession_opened reliable startable
  rw [began]
  have opened : Opened h s.network (ops.foldl (SessionOp.exec h) begun) :=
    List.foldlRecOn ops _ first fun _ held op _ =>
      op.exec_opened reliable held
  generalize ops.foldl (SessionOp.exec h) begun = last at opened
  obtain ⟨n, marker, restored⟩ := opened.wifi.restored reliable
  have wifi : restoreWifiIfOurs h (restoreWifiFromBackup h last) =
      { last with
        wifiPower := s.network.wifiPower
        wifiWeTurnedOff := false
        wifiMarker := marker
        tick := n } := by
    rw [restored]
    rfl
  obtain ⟨network, ours⟩ := restoreFromBackup_restores reliable startable.shown.route
    startable.shown.route6 wifi opened.backup
  have had : hadSession h last = (last, true) := by
    rw [hadSession, opened.sessionOpen]
    rfl
  have done : restoreWifiIfOurs h (restoreFromBackup h last) = restoreFromBackup h last := by
    rw [restoreWifiIfOurs, ours]
    rfl
  rw [atNetEndSession, had]
  change (atNetRemoveService h (atNetUnpublishPath h
    (restoreWifiIfOurs h (restoreFromBackup h last)))).network = s.network
  rw [atNetRemoveService_network, atNetUnpublishPath_network, done, network]

/-- A laptop with Wi-Fi. -/
def laptop : Host where
  ok _ := true
  order := id
  interfaces := cstr "lo0 en0 en1"
  hardwarePorts := cstr "Hardware Port: Wi-Fi\nDevice: en0\nEthernet Address: 0a:00:00:00:00:01\n"
  powerText _ on := if on then cstr "Wi-Fi Power (en0): On\n" else cstr "Wi-Fi Power (en0): Off\n"
  reachedBy _ := cstr "en0"
  link _ := some 4
  home := true

/-- It is online over Wi-Fi. -/
def online : NetState where
  store key :=
    if key = .globalIPv4 then some (record [(cstr "PrimaryInterface", cstr "en0")]) else none
  route := .gateway (cstr "192.168.1.1")
  route6 := .interface (cstr "en0")
  wifiPower dev := dev = cstr "en0"
  wifiMarker := false
  tick := 0
  sessionOpen := false
  wifiWeTurnedOff := false
  wifiDev := []

theorem en0_ifName : IfName (cstr "en0") :=
  ⟨by decide, by decide, by decide, by decide, by decide⟩

theorem laptop_reliable : laptop.Reliable where
  ok _ := rfl
  order _ := .refl _
  reached _ := .inr en0_ifName
  device dev found := by
    have device : atParseWifiDeviceText (captured laptop.hardwarePorts 4096) 32 =
        some (cstr "en0") := by
      decide +kernel
    rw [device] at found
    cases found
    exact en0_ifName
  power dev on := by
    have texts : ∀ on, atParseWifiPowerText (captured (laptop.powerText [] on) 256) =
        if on then 1 else 0 := by
      decide +kernel
    exact texts on

theorem online_startable : Startable laptop online where
  closed := rfl
  ours := rfl
  fresh := rfl
  shown :=
    { route := (by decide +kernel : Gateway .inet (cstr "192.168.1.1"))
      route6 := en0_ifName
      keys := by
        rintro d (stored | stored)
        · cases stored
          decide +kernel
        · contradiction }

/-- Wi-Fi is turned off for a tunnel that takes the default route, twice. -/
theorem online_gives_back :
    (atNetEndSession laptop
      ([.disableWifiDuringTether,
        .applyLease (cstr "utun5") 
          ⟨cstr "192.168.42.7", [], cstr "192.168.42.1", [], true⟩ true,
        .preferDefaultRoute (cstr "utun5") (cstr "192.168.42.1"),
        .disableWifiDuringTether, .dropIpv6Default].foldl
          (SessionOp.exec laptop) (atNetBeginSession laptop online).1)).network =
      online.network :=
  atNetEndSession_gives_back laptop_reliable online_startable _

end WiredTethering.Net
