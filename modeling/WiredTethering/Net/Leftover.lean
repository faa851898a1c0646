import WiredTethering.Net.RestoreSteps

/-!
# A leftover backup

What `at_net_begin_session` and `at_net_end_session` make of a backup that an earlier
process has left.  The first one looks at the default route before it uses the backup,
the second one does not.
-/

namespace WiredTethering.Net

open WiredTethering.Memory
open WiredTethering.Common

/-- A new process, in a network that the snapshot can describe. -/
structure Fresh (h : Host) (s : NetState) : Prop where
  closed : s.sessionOpen = false
  ours : s.wifiWeTurnedOff = false
  shown : s.network.Shown h

/-- The default route is neither missing nor on a utun or feth interface. -/
def HasLiveRoute (h : Host) (s : NetState) : Prop :=
  liveOk (infoOf h .inet s.route) = true

/-- The keys of a snapshot. -/
def snapshotKeys : List StoreKey :=
  [.backupValid, .backupRoute, .backupIPv4, .backupDNS]

/-- The session is open, and its snapshot is the backup. -/
structure Snapped (h : Host) (before : Network) (s : NetState) : Prop where
  sessionOpen : s.sessionOpen = true
  backup : Backup h before s.store

section

variable {h : Host} {s after : NetState}

theorem Host.Reliable.scutilShow_eq (reliable : h.Reliable) (s : NetState) (key : StoreKey) :
    Net.scutilShow h s key 2048 =
      (s.ticked, if (shownText h s.store key).isSome then 0 else 1,
        captured (showText h s.store key) 2048) := by
  rw [Net.scutilShow, reliable.captureCmd, shownText]
  dsimp only [Option.map_some]
  split
  · rfl
  · rfl

theorem Host.Reliable.scutilKeyExists_eq (reliable : h.Reliable) (s : NetState)
    (key : StoreKey) :
    Net.scutilKeyExists h s key = (s.ticked, (shownText h s.store key).isSome) := by
  rw [Net.scutilKeyExists, reliable.scutilShow_eq]
  cases (shownText h s.store key).isSome <;> rfl

/-- A text that is shown is the text that is read. -/
theorem captured_of_shownText {key : StoreKey} {text : Bytes}
    (shown : shownText h s.store key = some text) :
    captured (showText h s.store key) 2048 = text := by
  rw [shownText] at shown
  split at shown
  · contradiction
  · exact Option.some.inj shown

/-! ## The start of a session -/

/-- Over a live default route a leftover backup is discarded at most. -/
theorem beforeSnapshot_live (reliable : h.Reliable) (fresh : Fresh h s)
    (live : HasLiveRoute h s) :
    (beforeSnapshot h s).network = s.network ∧ (beforeSnapshot h s).wifiWeTurnedOff = false := by
  obtain ⟨n, destroyed⟩ := destroyStaleFeth_ticks (s := s) reliable
  have found : snapshotDefaultRoute h { s with tick := n } =
      ({ s with tick := n + 1 }, infoOf h .inet s.route) :=
    reliable.snapshotRoute rfl fresh.shown.route
  rw [beforeSnapshot, destroyed]
  dsimp only
  rw [found]
  dsimp only
  have discards : liveOk (infoOf h .inet s.route) = true := live
  rw [reliable.scutilKeyExists_eq, discards]
  cases (shownText h s.store .backupValid).isSome with
  | false => exact ⟨rfl, fresh.ours⟩
  | true =>
      change (removeBackupKeys h { s with tick := n + 2 }).network = s.network ∧
        (removeBackupKeys h { s with tick := n + 2 }).wifiWeTurnedOff = false
      rw [removeBackupKeys_network, removeBackupKeys_ours]
      exact ⟨rfl, fresh.ours⟩

theorem atNetBeginSession_live (reliable : h.Reliable) (fresh : Fresh h s)
    (live : HasLiveRoute h s) :
    ∃ after, atNetBeginSession h s = (after, 0) ∧ after.network = s.network ∧
      Opened h s.network after := by
  obtain ⟨same, ours⟩ := beforeSnapshot_live reliable fresh live
  have shown : (beforeSnapshot h s).network.Shown h := by
    rw [same]
    exact fresh.shown
  obtain ⟨after, snapped, kept, opened⟩ := takeSnapshotToBackup_opened reliable shown ours
  rw [same] at kept opened
  refine ⟨{ after with sessionOpen := true }, ?_, kept, opened⟩
  rw [atNetBeginSession_snapshot h s fresh.closed, snapped]
  rfl

/-! ## The session -/

theorem Opened.snapped {before : Network} (opened : Opened h before s) : Snapped h before s :=
  ⟨opened.sessionOpen, opened.backup⟩

theorem Snapped.kept {before : Network} (snapped : Snapped h before s)
    (kept : Kept {key | key ∈ snapshotKeys} s after) : Snapped h before after where
  sessionOpen := kept.sessionOpen.trans snapped.sessionOpen
  backup := snapped.backup.kept (kept.stored .backupValid (by decide))
    (kept.stored .backupRoute (by decide)) (kept.stored .backupIPv4 (by decide))
    (kept.stored .backupDNS (by decide))

theorem SessionOp.exec_snapped {before : Network} (snapped : Snapped h before s)
    (op : SessionOp) : Snapped h before (op.exec h s) := by
  by_cases other : op = .disableWifiDuringTether
  · subst other
    exact snapped.kept (atNetDisableWifiDuringTether_kept h s (by decide))
  · have keeps := op.exec_keeps h s other
    exact
      { sessionOpen := keeps.sessionOpen.trans snapped.sessionOpen
        backup := snapped.backup.kept (keeps.backup .backupValid (by decide))
          (keeps.backup .backupRoute (by decide)) (keeps.backup .backupIPv4 (by decide))
          (keeps.backup .backupDNS (by decide)) }

/-! ## The end of a session -/

theorem atNetEndSession_snapped (reliable : h.Reliable) {before : Network}
    (route : before.route.Wf .inet) (route6 : before.route6.Wf .inet6)
    (snapped : Snapped h before s) : (atNetEndSession h s).route = before.route := by
  have had : hadSession h s = (s, true) := by
    rw [hadSession, snapped.sessionOpen]
    rfl
  have wifi := (restoreWifiFromBackup_quiet h s).trans (restoreWifiIfOurs_quiet h _)
  have backup : Backup h before (restoreWifiIfOurs h (restoreWifiFromBackup h s)).store := by
    rw [wifi.store]
    exact snapped.backup
  have restored := (restoreFromBackup_restores reliable route route6 rfl backup).1
  rw [atNetEndSession, had]
  change (atNetRemoveService h (atNetUnpublishPath h
    (restoreWifiIfOurs h (restoreFromBackup h s)))).network.route = before.route
  rw [atNetRemoveService_network, atNetUnpublishPath_network]
  change (restoreWifiIfOurs h (restoreFromBackup h s)).route = before.route
  rw [(restoreWifiIfOurs_quiet h _).route]
  exact congrArg Network.route restored

/-- What `restore_default_route` makes of a record. -/
def RouteInfo.installs (info : RouteInfo) : Route :=
  if info.kind = cstr "none" then .none
  else if info.kind = cstr "ipv4" && info.gw ≠ [] then .gateway info.gw
  else if info.iface ≠ [] then .interface info.iface
  else .none

/-- The default route that `restore_from_backup` installs. -/
def backupRoute (h : Host) (store : Store) : Route :=
  match shownText h store .backupRoute with
  | some text => (readRoute text .inet).installs
  | none => .none

theorem restoreDefaultRoute_route (reliable : h.Reliable) (s : NetState) (info : RouteInfo) :
    (restoreDefaultRoute h s info).1.route = info.installs := by
  rw [restoreDefaultRoute, routeDelete_reliable reliable, RouteInfo.installs]
  dsimp only
  have missing : (s.ticked.setDefaultRoute .none .inet).defaultRoute .inet = .none := rfl
  split
  · rfl
  · split
    · rw [restoreAdd_reliable reliable missing]
      rfl
    · split
      · rw [restoreAdd_reliable reliable missing]
        rfl
      · rfl

/-- The IPv6 route leaves the IPv4 route. -/
theorem restoreDefaultRoute6_route (reliable : h.Reliable) (s : NetState) (info : RouteInfo) :
    (restoreDefaultRoute6 h s info).1.route = s.route := by
  obtain ⟨n, deleted⟩ := deleteRoute6_reliable reliable s
  have missing : NetState.defaultRoute { s with route6 := .none, tick := n } .inet6 = .none := rfl
  rw [restoreDefaultRoute6, deleted]
  split
  · rfl
  · split
    · rw [restoreAdd_reliable reliable missing]
      rfl
    · split
      · rw [restoreAdd_reliable reliable missing]
        rfl
      · rfl

theorem restoreRoutes_route (reliable : h.Reliable) (s : NetState) :
    (restoreRoutes h s).route = backupRoute h s.store := by
  rw [restoreRoutes, reliable.scutilShow_eq, backupRoute]
  cases shown : shownText h s.store .backupRoute with
  | none =>
      rw [Option.isSome_none]
      dsimp only
      rw [if_neg (by decide), restoreDefaultRoute_route reliable]
      rfl
  | some text =>
      rw [Option.isSome_some, captured_of_shownText shown]
      dsimp only
      rw [if_pos (by rfl), restoreDefaultRoute6_route reliable, restoreDefaultRoute_route reliable]
      rfl

theorem beforeRemoval_route (reliable : h.Reliable) (s : NetState) :
    (beforeRemoval h s).route =
      if (shownText h s.store .backupValid).isSome then backupRoute h s.store else s.route := by
  have wifi := (restoreWifiFromBackup_quiet h s).trans (restoreWifiIfOurs_quiet h _)
  rw [beforeRemoval, reliable.scutilShow_eq, wifi.store]
  cases (shownText h s.store .backupValid).isSome with
  | false => exact wifi.route
  | true =>
      have kept (s : NetState) (has : Bytes) (source : StoreKey) {target : StoreKey}
          (other : target ≠ .backupRoute) :
          (restoreGlobal h s has source target).store .backupRoute = s.store .backupRoute := by
        have frame : Frame {.backupRoute} s (restoreGlobal h s has source target) :=
          restoreGlobal_frame h s has source other
        exact frame.stored _ rfl
      have same (first second : Store) (equal : first .backupRoute = second .backupRoute) :
          backupRoute h first = backupRoute h second := by
        rw [backupRoute, backupRoute, shownText, shownText, showText, showText, equal]
      dsimp only
      rw [if_neg (by decide), restoreRoutes_route reliable]
      apply same
      rw [kept _ _ _ (by decide), kept _ _ _ (by decide)]
      exact congrFun wifi.store _

/-- Without a session, the end of one installs the route of a leftover backup. -/
theorem atNetEndSession_leftover (reliable : h.Reliable) (closed : s.sessionOpen = false)
    (ours : s.wifiWeTurnedOff = false) :
    (atNetEndSession h s).route =
      if (shownText h s.store .backupValid).isSome then backupRoute h s.store else s.route := by
  have service (t : NetState) :
      (atNetRemoveService h (atNetUnpublishPath h t)).route = t.route := by
    change (atNetRemoveService h (atNetUnpublishPath h t)).network.route = t.route
    rw [atNetRemoveService_network, atNetUnpublishPath_network]
    rfl
  have looked := hadSession_quiet h s
  have had : (shownText h s.store .backupValid).isSome = true → (hadSession h s).2 = true := by
    intro shown
    rw [hadSession, closed, ours, reliable.scutilKeyExists_eq, shown]
    rfl
  rw [atNetEndSession]
  rcases ran : hadSession h s with ⟨next, _ | _⟩
  · rw [ran] at looked had
    have unshown : ¬ (shownText h s.store .backupValid).isSome = true := fun shown =>
      absurd (had shown) Bool.false_ne_true
    rw [if_neg unshown]
    dsimp only
    rw [service]
    split
    · rw [(restoreWifiDevice_quiet h next []).route]
      exact looked.route
    · exact looked.route
  · rw [ran] at looked
    dsimp only
    rw [service, (restoreWifiIfOurs_quiet h _).route, restoreFromBackup_removal]
    change (removeBackupKeys h (beforeRemoval h next)).network.route = _
    rw [removeBackupKeys_network]
    change (beforeRemoval h next).route = _
    rw [beforeRemoval_route reliable, looked.store, looked.route]

theorem atNetClearDhcp_route (h : Host) (s : NetState) :
    (atNetClearDhcp h s).route = (atNetEndSession h s).route := by
  change (atNetClearDhcp h s).network.route = (atNetEndSession h s).network.route
  rw [atNetClearDhcp]
  dsimp only
  rw [atNetRemoveService_network, atNetUnpublishPath_network, runPlain_network, runPlain_network]

theorem atNetRegisterService_network (h : Host) (s : NetState) (ifname : Bytes) :
    (atNetRegisterService h s ifname).network = s.network := by
  have viaScutil (s : NetState) : (registerViaScutil h s ifname).1.network = s.network := by
    obtain ⟨script, ran, service⟩ := registerViaScutil_run h s ifname
    rw [ran]
    apply scutilRun_network
    intro key global cmd mem target
    obtain ⟨part, rfl⟩ := service cmd mem key target
    simp [globalKeys] at global
  rw [atNetRegisterService]
  dsimp only
  rw [runPlain_network]
  split
  · rw [runPlain_network, runPlain_network]
  · rw [viaScutil, runPlain_network, runPlain_network]

end

end WiredTethering.Net
