import Mathlib.Data.Set.Insert
import WiredTethering.Net.Restore

/-!
# What a call leaves as it is

`Kept keys` holds of a call that leaves the values of `keys` in the store, whatever
its commands do; `Frame keys` if it does not turn Wi-Fi off either, and `Quiet` if it
leaves the whole store and the routes.
-/

namespace WiredTethering.Net

open WiredTethering.Memory
open WiredTethering.Common
open WiredTethering.Dhcp

/-- What a new process starts from when this one is killed. -/
def NetState.restarted (s : NetState) : NetState :=
  { s with sessionOpen := false, wifiWeTurnedOff := false, wifiDev := [] }

structure Kept (keys : Set StoreKey) (s after : NetState) : Prop where
  stored : ∀ key ∈ keys, after.store key = s.store key
  sessionOpen : after.sessionOpen = s.sessionOpen
  tick : s.tick ≤ after.tick

structure Frame (keys : Set StoreKey) (s after : NetState) : Prop extends Kept keys s after where
  ours : after.wifiWeTurnedOff = true → s.wifiWeTurnedOff = true

/-- Only Wi-Fi is changed, and what is known of it. -/
structure Quiet (s after : NetState) : Prop where
  frame : Frame Set.univ s after
  route : after.route = s.route
  route6 : after.route6 = s.route6

theorem Kept.trans {keys : Set StoreKey} {s after last : NetState} (first : Kept keys s after)
    (second : Kept keys after last) : Kept keys s last where
  stored := fun key mem => (second.stored key mem).trans (first.stored key mem)
  sessionOpen := second.sessionOpen.trans first.sessionOpen
  tick := first.tick.trans second.tick

theorem Kept.mono {keys fewer : Set StoreKey} {s after : NetState} (kept : Kept keys s after)
    (sub : fewer ⊆ keys) : Kept fewer s after where
  stored := fun key mem => kept.stored key (sub mem)
  sessionOpen := kept.sessionOpen
  tick := kept.tick

namespace Frame

variable {keys : Set StoreKey} {s after last : NetState}

theorem refl (s : NetState) : Frame keys s s :=
  ⟨⟨fun _ _ => rfl, rfl, Nat.le_refl _⟩, id⟩

theorem trans (first : Frame keys s after) (second : Frame keys after last) :
    Frame keys s last where
  toKept := first.toKept.trans second.toKept
  ours := first.ours ∘ second.ours

theorem mono {fewer : Set StoreKey} (frame : Frame keys s after) (sub : fewer ⊆ keys) :
    Frame fewer s after where
  toKept := frame.toKept.mono sub
  ours := frame.ours

end Frame

namespace Quiet

variable {keys : Set StoreKey} {s after last : NetState}

theorem refl (s : NetState) : Quiet s s :=
  ⟨.refl s, rfl, rfl⟩

theorem trans (first : Quiet s after) (second : Quiet after last) : Quiet s last where
  frame := first.frame.trans second.frame
  route := second.route.trans first.route
  route6 := second.route6.trans first.route6

theorem keeps (quiet : Quiet s after) : Frame keys s after :=
  quiet.frame.mono (Set.subset_univ keys)

theorem ite {c : Prop} [Decidable c] (pos : Quiet s after) (neg : Quiet s last) :
    Quiet s (if c then after else last) := by
  split
  · exact pos
  · exact neg

theorem store (quiet : Quiet s after) : after.store = s.store :=
  funext fun key => quiet.frame.stored key (Set.mem_univ key)

end Quiet

section

variable {keys : Set StoreKey} (h : Host) (s : NetState)

theorem ticked_frame : Frame keys s s.ticked :=
  ⟨⟨fun _ _ => rfl, rfl, Nat.le_succ _⟩, id⟩

theorem ticked_quiet : Quiet s s.ticked :=
  ⟨ticked_frame s, rfl, rfl⟩

/-! ## Commands -/

theorem runPlain_quiet : Quiet s (runPlain h s).1 := by
  refine runCmd_cases (ticked_quiet s) ?_
  rintro next ⟨⟩
  exact ticked_quiet s

theorem captureCmd_quiet (output : Option Bytes) (n : Nat) :
    Quiet s (captureCmd h s output n).1 :=
  runPlain_quiet h s

theorem scutilShow_quiet (key : StoreKey) (n : Nat) : Quiet s (scutilShow h s key n).1 := by
  have shown := captureCmd_quiet h s (some (showText h s.store key)) n
  rw [scutilShow]
  rcases ran : captureCmd h s (some (showText h s.store key)) n with ⟨after, _ | out⟩
  · rw [ran] at shown
    exact shown
  · rw [ran] at shown
    exact shown

theorem scutilKeyExists_quiet (key : StoreKey) : Quiet s (scutilKeyExists h s key).1 :=
  scutilShow_quiet h s key 2048

theorem scutilRun_frame {script : List ScutilCmd}
    (other : ∀ key ∈ keys, ∀ cmd ∈ script, cmd.target ≠ some key) :
    Frame keys s (scutilRun h s script).1 := by
  refine runCmd_cases (ticked_frame s) ?_
  rintro next ⟨⟩
  exact ⟨⟨fun key mem => execScript_other (other key mem) s.store, rfl, Nat.le_succ _⟩, id⟩

theorem scutilRemoveKey_frame {key : StoreKey} (other : key ∉ keys) :
    Frame keys s (scutilRemoveKey h s key) := by
  apply scutilRun_frame
  intro kept mem cmd isRemove target
  rw [List.mem_singleton.mp isRemove] at target
  cases target
  exact other mem

theorem scutilCopyKey_frame (source : StoreKey) {target : StoreKey} (other : target ∉ keys) :
    Frame keys s (scutilCopyKey h s source target).1 := by
  apply scutilRun_frame
  intro kept mem cmd isCopy written
  simp only [List.mem_cons, List.not_mem_nil, or_false] at isCopy
  rcases isCopy with rfl | rfl
  · contradiction
  · cases written
    exact other mem

theorem setDefaultRoute_frame (r : Route) (family : Family) :
    Frame keys s (s.ticked.setDefaultRoute r family) := by
  cases family <;> exact ⟨⟨fun _ _ => rfl, rfl, Nat.le_succ _⟩, id⟩

theorem routeDelete_frame (family : Family) : Frame keys s (routeDelete h s family).1 := by
  refine runCmd_cases (ticked_frame s) fun next deleted => ?_
  split at deleted
  · contradiction
  · cases deleted
    exact setDefaultRoute_frame s .none family

theorem routeAdd_frame (r : Route) (family : Family) :
    Frame keys s (routeAdd h s r family).1 := by
  refine runCmd_cases (ticked_frame s) fun next added => ?_
  split at added
  · cases added
    exact setDefaultRoute_frame s r family
  · contradiction

/-! ## Wi-Fi -/

theorem wifiFindDevice_quiet : Quiet s (wifiFindDevice h s).1 := by
  have shown := captureCmd_quiet h s (some h.hardwarePorts) 4096
  rw [wifiFindDevice]
  rcases ran : captureCmd h s (some h.hardwarePorts) 4096 with ⟨after, _ | out⟩
  · rw [ran] at shown
    exact shown
  · rw [ran] at shown
    exact shown

theorem wifiPowerOn_quiet (dev : Bytes) : Quiet s (wifiPowerOn h s dev).1 := by
  have shown := captureCmd_quiet h s (some (h.powerText dev (s.wifiPower dev))) 256
  rw [wifiPowerOn]
  split
  · exact .refl s
  · rcases ran : captureCmd h s (some (h.powerText dev (s.wifiPower dev))) 256 with ⟨after, _ | out⟩
    · rw [ran] at shown
      exact shown
    · rw [ran] at shown
      exact shown

theorem wifiSetPower_quiet (dev : Bytes) (on : Bool) : Quiet s (wifiSetPower h s dev on).1 := by
  rw [wifiSetPower]
  split
  · exact .refl s
  · refine runCmd_cases (ticked_quiet s) ?_
    rintro next ⟨⟩
    exact ⟨⟨⟨fun _ _ => rfl, rfl, Nat.le_succ _⟩, id⟩, rfl, rfl⟩

theorem wifiVerifyFrom_quiet (dev : Bytes) (on : Bool) (attempts : Nat) :
    Quiet s (wifiVerifyFrom h dev on attempts s).1 := by
  induction attempts generalizing s with
  | zero => exact wifiPowerOn_quiet h s dev
  | succ attempts ih =>
      have turned := wifiSetPower_quiet h s dev on
      rw [wifiVerifyFrom]
      dsimp only
      generalize (wifiSetPower h s dev on).1 = first at turned ⊢
      have up : Quiet first (if on then (runPlain h first).1 else first) :=
        .ite (runPlain_quiet h first) (.refl first)
      generalize (if on then (runPlain h first).1 else first) = second at up ⊢
      have looked := (turned.trans up).trans (wifiPowerOn_quiet h second dev)
      by_cases done : (wifiPowerOn h second dev).2 = if on then 1 else 0
      · rw [if_pos done]
        exact looked
      · rw [if_neg done]
        exact looked.trans (ih _)

theorem wifiSetPowerVerify_quiet (dev : Bytes) (on : Bool) :
    Quiet s (wifiSetPowerVerify h s dev on).1 := by
  rw [wifiSetPowerVerify]
  split
  · exact .refl s
  · exact wifiVerifyFrom_quiet h s dev on 4

theorem wifiRestored_quiet : Quiet s (wifiRestored s) :=
  ⟨⟨⟨fun _ _ => rfl, rfl, Nat.le_refl _⟩, nofun⟩, rfl, rfl⟩

theorem restoreWifiUse_quiet (use : Bytes) : Quiet s (restoreWifiUse h s use).1 := by
  have turned := wifiSetPowerVerify_quiet h s use true
  rw [restoreWifiUse]
  rcases first : wifiSetPowerVerify h s use true with ⟨after, _ | _⟩
  · rw [first] at turned
    have searched := turned.trans (wifiFindDevice_quiet h after)
    dsimp only
    rcases looked : wifiFindDevice h after with ⟨next, _ | found⟩
    · rw [looked] at searched
      exact searched
    · rw [looked] at searched
      dsimp only
      split
      · exact searched
      · have again := searched.trans (wifiSetPowerVerify_quiet h next found true)
        rcases second : wifiSetPowerVerify h next found true with ⟨last, _ | _⟩
        · rw [second] at again
          exact again
        · rw [second] at again
          exact again.trans (wifiRestored_quiet last)
  · rw [first] at turned
    exact turned.trans (wifiRestored_quiet after)

theorem restoreWifiDevice_quiet (dev : Bytes) : Quiet s (restoreWifiDevice h s dev).1 := by
  rw [restoreWifiDevice]
  split
  · exact restoreWifiUse_quiet h s dev
  · split
    · exact restoreWifiUse_quiet h s s.wifiDev
    · have searched := wifiFindDevice_quiet h s
      rcases looked : wifiFindDevice h s with ⟨next, _ | found⟩
      · rw [looked] at searched
        exact searched
      · rw [looked] at searched
        exact searched.trans (restoreWifiUse_quiet h next found)

theorem restoreWifiFromBackup_quiet : Quiet s (restoreWifiFromBackup h s) := by
  have shown := scutilShow_quiet h s .backupWifi 2048
  rw [restoreWifiFromBackup]
  exact .ite (shown.trans (restoreWifiDevice_quiet h _ _)) shown

theorem restoreWifiIfOurs_quiet : Quiet s (restoreWifiIfOurs h s) := by
  rw [restoreWifiIfOurs]
  split
  · exact restoreWifiDevice_quiet h s s.wifiDev
  · exact .refl s

theorem persistWifiBackup_frame (other : .backupWifi ∉ keys) (dev : Bytes)
    (wasOn turnedOff : Bool) : Frame keys s (persistWifiBackup h s dev wasOn turnedOff) := by
  apply scutilRun_frame
  intro key mem cmd isCmd target
  simp only [List.mem_cons, List.not_mem_nil, or_false] at isCmd
  rcases isCmd with rfl | rfl | rfl | rfl | rfl
  · contradiction
  · contradiction
  · contradiction
  · contradiction
  · cases target
    exact other mem

theorem snapshotWifi_frame (other : .backupWifi ∉ keys) : Frame keys s (snapshotWifi h s).1 := by
  have searched : Frame keys s (wifiFindDevice h s).1 := (wifiFindDevice_quiet h s).keeps
  rw [snapshotWifi]
  rcases looked : wifiFindDevice h s with ⟨next, _ | dev⟩
  · rw [looked] at searched
    exact searched.trans (persistWifiBackup_frame h next other _ false false)
  · rw [looked] at searched
    have read : Frame keys next
        { (wifiPowerOn h next dev).1 with wifiDev := strlcpy dev 32 } := by
      have quiet : Frame keys next (wifiPowerOn h next dev).1 := (wifiPowerOn_quiet h next dev).keeps
      exact ⟨⟨quiet.stored, quiet.sessionOpen, quiet.tick⟩, quiet.ours⟩
    exact (searched.trans read).trans (persistWifiBackup_frame h _ other _ _ _)

theorem atNetDisableWifiDuringTether_kept (other : .backupWifi ∉ keys) :
    Kept keys s (atNetDisableWifiDuringTether h s).1 := by
  have searched : Frame keys s (wifiFindDevice h s).1 := (wifiFindDevice_quiet h s).keeps
  rw [atNetDisableWifiDuringTether]
  rcases looked : wifiFindDevice h s with ⟨next, _ | dev⟩
  · rw [looked] at searched
    exact searched.toKept
  · rw [looked] at searched
    have read := searched.trans (wifiPowerOn_quiet h next dev).keeps
    have turned := read.trans (wifiSetPowerVerify_quiet h (wifiPowerOn h next dev).1 dev false).keeps
    dsimp only
    split
    · exact (read.trans (persistWifiBackup_frame h _ other dev false false)).toKept
    · rcases verified : wifiSetPowerVerify h (wifiPowerOn h next dev).1 dev false with ⟨last, _ | _⟩
      · rw [verified] at turned
        exact turned.toKept
      · rw [verified] at turned
        have stored := (persistWifiBackup_frame h
          { last with wifiDev := strlcpy dev 32, wifiWeTurnedOff := true } other dev true true).toKept
        exact ⟨fun key mem => (stored.stored key mem).trans (turned.stored key mem),
          stored.sessionOpen.trans turned.sessionOpen, turned.tick.trans stored.tick⟩

theorem atNetRestoreWifi_quiet : Quiet s (atNetRestoreWifi h s).1 := by
  have restored := restoreWifiFromBackup_quiet h s
  rw [atNetRestoreWifi]
  split
  · exact restored.trans (restoreWifiDevice_quiet h _ _)
  · exact restored

/-! ## Routes -/

theorem snapshotRoute_quiet (family : Family) : Quiet s (snapshotRoute h s family).1 := by
  have shown := captureCmd_quiet h s (routeText h family (s.defaultRoute family)) 2048
  rw [snapshotRoute]
  rcases ran : captureCmd h s (routeText h family (s.defaultRoute family)) 2048 with
    ⟨after, _ | out⟩
  · rw [ran] at shown
    exact shown
  · rw [ran] at shown
    exact shown

theorem restoreAdd_frame (r : Route) (family : Family) :
    Frame keys s (restoreAdd h s r family).1 := by
  have added : Frame keys s (routeAdd h s r family).1 := routeAdd_frame h s r family
  rw [restoreAdd]
  rcases ran : routeAdd h s r family with ⟨after, _ | _⟩
  · rw [ran] at added
    exact added
  · rw [ran] at added
    exact added

theorem restoreDefaultRoute_frame (info : RouteInfo) :
    Frame keys s (restoreDefaultRoute h s info).1 := by
  have deleted : Frame keys s (routeDelete h s .inet).1 := routeDelete_frame h s .inet
  rw [restoreDefaultRoute]
  dsimp only
  split
  · exact deleted
  · split
    · exact deleted.trans (restoreAdd_frame h _ _ .inet)
    · split
      · exact deleted.trans (restoreAdd_frame h _ _ .inet)
      · exact deleted

theorem deleteRoute6_frame (n : Nat) : Frame keys s (deleteRoute6 h n s) := by
  induction n generalizing s with
  | zero => exact .refl s
  | succ n ih =>
      have deleted : Frame keys s (routeDelete h s .inet6).1 := routeDelete_frame h s .inet6
      rw [deleteRoute6]
      rcases ran : routeDelete h s .inet6 with ⟨after, _ | _⟩
      · rw [ran] at deleted
        exact deleted
      · rw [ran] at deleted
        exact deleted.trans (ih after)

theorem restoreDefaultRoute6_frame (info : RouteInfo) :
    Frame keys s (restoreDefaultRoute6 h s info).1 := by
  have deleted : Frame keys s (deleteRoute6 h 4 s) := deleteRoute6_frame h s 4
  rw [restoreDefaultRoute6]
  split
  · exact deleted
  · split
    · exact deleted.trans (restoreAdd_frame h _ _ .inet6)
    · split
      · exact deleted.trans (restoreAdd_frame h _ _ .inet6)
      · exact deleted

theorem restoreRoutes_frame : Frame keys s (restoreRoutes h s) := by
  have shown : Frame keys s (scutilShow h s .backupRoute 2048).1 :=
    (scutilShow_quiet h s .backupRoute 2048).keeps
  rw [restoreRoutes]
  rcases ran : scutilShow h s .backupRoute 2048 with ⟨next, rc, text⟩
  rw [ran] at shown
  dsimp only
  by_cases stored : rc = 0
  · rw [if_pos stored]
    exact (shown.trans (restoreDefaultRoute_frame h _ _)).trans
      (restoreDefaultRoute6_frame h _ _)
  · rw [if_neg stored]
    exact shown.trans (restoreDefaultRoute_frame h _ _)

/-! ## The session -/

theorem destroyStaleFeth_quiet : Quiet s (destroyStaleFeth h s) := by
  have listed := captureCmd_quiet h s (some h.interfaces) 8192
  rw [destroyStaleFeth]
  rcases ran : captureCmd h s (some h.interfaces) 8192 with ⟨after, _ | out⟩
  · rw [ran] at listed
    exact listed
  · rw [ran] at listed
    exact List.foldlRecOn _ _ listed fun next quiet _ _ => quiet.trans (runPlain_quiet h next)

theorem restoreGlobal_frame (has : Bytes) (source : StoreKey) {target : StoreKey}
    (other : target ∉ keys) : Frame keys s (restoreGlobal h s has source target) := by
  rw [restoreGlobal]
  split
  · exact scutilCopyKey_frame h s source other
  · exact scutilRemoveKey_frame h s other

/-- The keys that `remove_backup_keys` removes. -/
def removedKeys : List StoreKey :=
  [.backupIPv4, .backupDNS, .backupRoute, .backupWifi, .backupValid, .backup, .backupRoot]

theorem removeBackupKeys_frame (others : ∀ key ∈ removedKeys, key ∉ keys) :
    Frame keys s (removeBackupKeys h s) :=
  List.foldlRecOn removedKeys (scutilRemoveKey h) (.refl s) fun next frame key mem =>
    frame.trans (scutilRemoveKey_frame h next (others key mem))

theorem atNetUnpublishPath_frame (service : ∀ part, .stateService part ∉ keys ∧
    .setupService part ∉ keys) : Frame keys s (atNetUnpublishPath h s) := by
  apply scutilRun_frame
  intro key mem cmd isCmd target
  simp only [setupParts, List.mem_append, List.mem_cons, List.not_mem_nil, or_false] at isCmd
  rcases isCmd with (rfl | rfl | rfl | rfl) | rfl | rfl | rfl
  all_goals
    cases target
    first | exact (service _).1 mem | exact (service _).2 mem

theorem atNetRemoveService_frame (service : ∀ part, .setupService part ∉ keys) :
    Frame keys s (atNetRemoveService h s) := by
  have first : Frame keys s (runPlain h s).1 := (runPlain_quiet h s).keeps
  refine first.trans (scutilRun_frame h _ ?_)
  intro key mem cmd isCmd target
  simp only [setupParts, List.mem_cons, List.not_mem_nil, or_false] at isCmd
  rcases isCmd with rfl | rfl | rfl
  all_goals
    cases target
    exact service _ mem

/-- `restore_from_backup` up to the removal of the backup. -/
def beforeRemoval : NetState :=
  let s := restoreWifiIfOurs h (restoreWifiFromBackup h s)
  let (s, rc, valid) := scutilShow h s .backupValid 2048
  if rc ≠ 0 then s
  else
    let s := restoreGlobal h s (atParseScutilField valid (cstr "HasIPv4") 32) .backupIPv4 .globalIPv4
    let s := restoreGlobal h s (atParseScutilField valid (cstr "HasDNS") 32) .backupDNS .globalDNS
    restoreRoutes h s

theorem restoreFromBackup_removal :
    restoreFromBackup h s = removeBackupKeys h (beforeRemoval h s) := by
  rw [restoreFromBackup, beforeRemoval]
  rcases scutilShow h (restoreWifiIfOurs h (restoreWifiFromBackup h s)) .backupValid 2048 with
    ⟨next, rc, valid⟩
  dsimp only
  by_cases read : rc ≠ 0
  · rw [if_pos read, if_pos read]
  · rw [if_neg read, if_neg read]

theorem beforeRemoval_frame (others : .globalIPv4 ∉ keys ∧ .globalDNS ∉ keys) :
    Frame keys s (beforeRemoval h s) := by
  have wifi := (restoreWifiFromBackup_quiet h s).trans (restoreWifiIfOurs_quiet h _)
  have shown := wifi.trans (scutilShow_quiet h _ .backupValid 2048)
  rw [beforeRemoval]
  rcases ran : scutilShow h (restoreWifiIfOurs h (restoreWifiFromBackup h s)) .backupValid 2048
    with ⟨next, rc, valid⟩
  rw [ran] at shown
  dsimp only
  split
  · exact shown.keeps
  · exact ((shown.keeps.trans (restoreGlobal_frame h _ _ _ others.1)).trans
      (restoreGlobal_frame h _ _ _ others.2)).trans (restoreRoutes_frame h _)

theorem takeSnapshotToBackup_frame (others : ∀ key ∈ backupKeys, key ∉ keys) :
    Frame keys s (takeSnapshotToBackup h s).1 := by
  have copied (s : NetState) (has : Bool) (source target : StoreKey)
      (mem : target ∈ backupKeys) :
      Frame keys s (if has then (scutilCopyKey h s source target).1 else s) := by
    split
    · exact scutilCopyKey_frame h s source (others target mem)
    · exact .refl s
  have stored (s : NetState) (v4 v6 : RouteInfo) (wdev : Bytes) (wifiOn hasV4 hasDns : Bool) :
      Frame keys s (scutilRun h s (snapshotScript v4 v6 wdev wifiOn hasV4 hasDns)).1 := by
    apply scutilRun_frame
    intro key mem cmd isCmd target
    have written : key ∈ backupKeys := by
      simp only [snapshotScript, List.mem_cons, List.not_mem_nil, or_false] at isCmd
      rcases isCmd with rfl | rfl | rfl | rfl | rfl | rfl | rfl | rfl | rfl | rfl | rfl | rfl |
        rfl | rfl | rfl
      all_goals first | contradiction | (cases target; decide)
    exact others key written mem
  rw [takeSnapshotToBackup]
  dsimp only
  exact (scutilKeyExists_quiet h s .globalIPv4).keeps.trans <|
    (scutilKeyExists_quiet h _ .globalDNS).keeps.trans <|
    (copied _ _ .globalIPv4 .backupIPv4 (by decide)).trans <|
    (copied _ _ .globalDNS .backupDNS (by decide)).trans <|
    (snapshotRoute_quiet h _ .inet).keeps.trans <|
    (snapshotRoute_quiet h _ .inet6).keeps.trans <|
    (snapshotWifi_frame h _ (others _ (by decide))).trans (stored _ _ _ _ _ _ _)

/-- `at_net_begin_session` up to the snapshot. -/
def beforeSnapshot : NetState :=
  let s := destroyStaleFeth h s
  let (s, live) := snapshotDefaultRoute h s
  let (s, leftover) := scutilKeyExists h s .backupValid
  if !leftover then s
  else if liveOk live then removeBackupKeys h s
  else atNetRemoveService h (atNetUnpublishPath h (restoreFromBackup h s))

/-- A session begins with the snapshot. -/
theorem atNetBeginSession_snapshot (closed : s.sessionOpen = false) :
    atNetBeginSession h s =
      if (takeSnapshotToBackup h (beforeSnapshot h s)).2 ≠ 0 then
        ((takeSnapshotToBackup h (beforeSnapshot h s)).1, -1)
      else ({ (takeSnapshotToBackup h (beforeSnapshot h s)).1 with sessionOpen := true }, 0) := by
  rw [atNetBeginSession, closed]
  rfl

theorem beforeSnapshot_frame (globals : .globalIPv4 ∉ keys ∧ .globalDNS ∉ keys)
    (removed : ∀ key ∈ removedKeys, key ∉ keys)
    (service : ∀ part, .stateService part ∉ keys ∧ .setupService part ∉ keys) :
    Frame keys s (beforeSnapshot h s) := by
  have found : Frame keys s (scutilKeyExists h
      (snapshotDefaultRoute h (destroyStaleFeth h s)).1 .backupValid).1 :=
    (destroyStaleFeth_quiet h s).keeps.trans <| (snapshotRoute_quiet h _ .inet).keeps.trans
      (scutilKeyExists_quiet h _ .backupValid).keeps
  rw [beforeSnapshot]
  dsimp only
  split
  · exact found
  · split
    · exact found.trans (removeBackupKeys_frame h _ removed)
    · rw [restoreFromBackup_removal]
      exact found.trans <| (beforeRemoval_frame h _ globals).trans <|
        (removeBackupKeys_frame h _ removed).trans <|
          (atNetUnpublishPath_frame h _ service).trans
            (atNetRemoveService_frame h _ fun part => (service part).2)

theorem registerViaScutil_frame (service : ∀ part, .setupService part ∉ keys) (ifname : Bytes) :
    Frame keys s (registerViaScutil h s ifname).1 := by
  obtain ⟨script, ran, ours⟩ := registerViaScutil_run h s ifname
  rw [ran]
  apply scutilRun_frame
  intro key mem cmd isCmd target
  obtain ⟨part, rfl⟩ := ours cmd isCmd key target
  exact service part mem

theorem atNetRegisterService_frame (service : ∀ part, .setupService part ∉ keys)
    (ifname : Bytes) : Frame keys s (atNetRegisterService h s ifname) := by
  have created : Frame keys s (runPlain h (runPlain h s).1).1 :=
    (runPlain_quiet h s).keeps.trans (runPlain_quiet h _).keeps
  rw [atNetRegisterService]
  dsimp only
  refine Frame.trans ?_ (runPlain_quiet h _).keeps
  split
  · exact created
  · exact created.trans (registerViaScutil_frame h _ service ifname)

/-- The operations of a session other than turning Wi-Fi off keep the session. -/
theorem SessionOp.exec_keeps {op : SessionOp}
    (other : op ≠ .disableWifiDuringTether) : Keeps s (op.exec h s) := by
  cases op with
  | applyLease ifname lease asPrimary => exact atNetApplyLease_keeps h s ifname lease asPrimary
  | publishPath ifname lease asPrimary => exact atNetPublishPath_keeps h s ifname lease asPrimary
  | preferDefaultRoute ifname gateway => exact atNetPreferDefaultRoute_keeps h s ifname gateway
  | dropIpv6Default => exact atNetDropIpv6Default_keeps h s
  | disableWifiDuringTether => contradiction

theorem hadSession_quiet : Quiet s (hadSession h s).1 := by
  rw [hadSession]
  split
  · exact .refl s
  · have looked := scutilKeyExists_quiet h s .backupValid
    rcases found : scutilKeyExists h s .backupValid with ⟨next, _ | _⟩
    · rw [found] at looked
      exact looked.trans (scutilKeyExists_quiet h next .backupWifi)
    · rw [found] at looked
      exact looked

end

end WiredTethering.Net
