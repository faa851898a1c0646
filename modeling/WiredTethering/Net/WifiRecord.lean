import WiredTethering.Net.Frame

/-!
# The record of the Wi-Fi power

`at_net_disable_wifi_during_tether` is called for every lease that is applied, and
writes the record of the Wi-Fi power each time.  A process that is killed leaves the
record to the next one; here it is compared with what the process had done.
-/

namespace WiredTethering.Net

open WiredTethering.Memory
open WiredTethering.Common
open WiredTethering.Transition

/-- What happens behind `at_net_begin_session`: calls of the engine, and changes of the
Wi-Fi power by others. -/
inductive SessionEvent where
  | call (op : SessionOp)
  | restoreWifi
  | radio (power : Bytes → Bool)

def SessionEvent.exec (h : Host) (s : NetState) : SessionEvent → NetState
  | .call op => op.exec h s
  | .restoreWifi => (atNetRestoreWifi h s).1
  | .radio power => { s with wifiPower := power }

/-- Every event can happen. -/
def sessionStep (h : Host) : Step NetState SessionEvent :=
  fun s event => some (event.exec h s)

/-- The fields of the record as `restore_wifi_from_backup` reads them. -/
def readWifiBackup (h : Host) (s : NetState) : Bytes × Bytes × Bytes :=
  let (_, rc, text) := scutilShow h s .backupWifi 2048
  let field (label : String) (n : Nat) : Bytes :=
    if rc = 0 then atParseScutilField text (cstr label) n else []
  (field "Device" 32, field "WasOn" 16, field "TurnedOff" 16)

/-- If this process has turned Wi-Fi off, the record names a device and says so, and a
new process turns the device on for it. -/
def Remembers (h : Host) (s : NetState) : Prop :=
  s.wifiWeTurnedOff = true →
    ∃ dev was off, readWifiBackup h s = (dev, was, off) ∧ namesDevice dev = true ∧
      atParseWifiTruthy off = true ∧ (restoreWifiFromBackup h s.restarted).wifiPower dev = true

/-- Wi-Fi is not turned off a second time while it is off. -/
def FindsRadioOn (h : Host) (s : NetState) : SessionEvent → Prop
  | .call .disableWifiDuringTether =>
      s.wifiWeTurnedOff = true → ∀ dev ∈ h.wifiDevice, s.wifiPower dev = true
  | _ => True

instance FindsRadioOn.decidable (h : Host) (s : NetState) :
    ∀ event, Decidable (FindsRadioOn h s event)
  | .call .disableWifiDuringTether =>
      inferInstanceAs (Decidable (_ → ∀ dev ∈ h.wifiDevice, s.wifiPower dev = true))
  | .call (.applyLease _ _ _) => .isTrue trivial
  | .call (.publishPath _ _ _) => .isTrue trivial
  | .call (.preferDefaultRoute _ _) => .isTrue trivial
  | .call .dropIpv6Default => .isTrue trivial
  | .restoreWifi => .isTrue trivial
  | .radio _ => .isTrue trivial

/-- The record of a device is stored once Wi-Fi is turned off. -/
def WifiStored (h : Host) (s : NetState) : Prop :=
  s.wifiWeTurnedOff = true →
    ∃ dev wasOn turnedOff, h.wifiDevice = some dev ∧
      s.store .backupWifi = some (record (wifiRecord dev wasOn turnedOff))

/-- A session begins with Wi-Fi as it is. -/
theorem atNetBeginSession_ours (h : Host) {s : NetState} (fresh : s.wifiWeTurnedOff = false) :
    (atNetBeginSession h s).1.wifiWeTurnedOff = false := by
  cases opened : s.sessionOpen with
  | true =>
      rw [atNetBeginSession, opened]
      exact fresh
  | false =>
      have snapped : Frame ∅ s (takeSnapshotToBackup h (beforeSnapshot h s)).1 :=
        (beforeSnapshot_frame h s (by simp) (by simp) (by simp)).trans
          (takeSnapshotToBackup_frame h _ (by simp))
      have unset : (takeSnapshotToBackup h (beforeSnapshot h s)).1.wifiWeTurnedOff = false := by
        rw [Bool.eq_false_iff]
        intro ours
        rw [snapped.ours ours] at fresh
        contradiction
      rw [atNetBeginSession_snapshot h s opened]
      split
      · exact unset
      · exact unset

section

variable {h : Host} {s after : NetState}

/-- A stored record is read field by field. -/
theorem readWifiBackup_record (reliable : h.Reliable) {dev : Bytes} (valid : IfName dev)
    {wasOn turnedOff : Bool}
    (stored : s.store .backupWifi = some (record (wifiRecord dev wasOn turnedOff))) :
    readWifiBackup h s = (dev, boolText wasOn, boolText turnedOff) := by
  obtain ⟨shown, recorded, perm, read⟩ :=
    reliable.scutilShow stored (wifiRecord_recorded (.inr valid) wasOn turnedOff)
  have size (b : Bool) : (boolText b).length < 16 :=
    Nat.lt_of_le_of_lt (boolText_length b) (by decide)
  have device : atParseScutilField (dump shown) (cstr "Device") 32 = dev :=
    recorded.field_whole perm (by simp [wifiRecord]) (Nat.lt_of_le_of_lt valid.short (by decide))
  have was : atParseScutilField (dump shown) (cstr "WasOn") 16 = boolText wasOn :=
    recorded.field_whole perm (by simp [wifiRecord]) (size wasOn)
  have off : atParseScutilField (dump shown) (cstr "TurnedOff") 16 = boolText turnedOff :=
    recorded.field_whole perm (by simp [wifiRecord]) (size turnedOff)
  rw [readWifiBackup, read]
  simp [device, was, off]

/-- A record that says so makes a new process turn Wi-Fi on. -/
theorem remembers_of_stored (reliable : h.Reliable) {dev : Bytes} {wasOn : Bool}
    (device : h.wifiDevice = some dev)
    (stored : s.store .backupWifi = some (record (wifiRecord dev wasOn true))) :
    Remembers h s := by
  intro _
  have valid := reliable.device dev device
  obtain ⟨n, turned⟩ := reliable.restoreWifiDevice s.restarted.ticked valid
  refine ⟨dev, boolText wasOn, boolText true, readWifiBackup_record reliable valid stored,
    valid.namesDevice, by decide, ?_⟩
  have same : s.restarted.store .backupWifi = some (record (wifiRecord dev wasOn true)) := stored
  rw [reliable.restoreWifiFromBackup (.inr valid) same, Bool.or_true, Bool.true_or, if_pos rfl,
    turned]
  exact Function.update_self ..

theorem turnedOff_of_remembers (reliable : h.Reliable) {dev : Bytes} {wasOn turnedOff : Bool}
    (device : h.wifiDevice = some dev)
    (stored : s.store .backupWifi = some (record (wifiRecord dev wasOn turnedOff)))
    (ours : s.wifiWeTurnedOff = true) (remembers : Remembers h s) : turnedOff = true := by
  rcases remembers ours with ⟨named, was, off, read, -, truthy, -⟩
  rw [readWifiBackup_record reliable (reliable.device dev device) stored] at read
  cases read
  rw [atParseWifiTruthy_boolText] at truthy
  exact truthy

/-- What keeps the session keeps the record. -/
theorem WifiStored.kept (held : WifiStored h s) (keeps : Keeps s after) : WifiStored h after := by
  intro ours
  rw [keeps.ours] at ours
  rw [keeps.backup .backupWifi (by decide)]
  exact held ours

theorem Remembers.kept (reliable : h.Reliable) (held : WifiStored h s)
    (remembers : Remembers h s) (keeps : Keeps s after) : Remembers h after := by
  intro ours
  have before : s.wifiWeTurnedOff = true := by
    rw [← keeps.ours]
    exact ours
  rcases held before with ⟨dev, wasOn, turnedOff, device, stored⟩
  cases turnedOff_of_remembers reliable device stored before remembers
  rw [← keeps.backup .backupWifi (by decide)] at stored
  exact remembers_of_stored reliable device stored ours

/-- Behind `at_net_restore_wifi` Wi-Fi is not turned off by this process. -/
theorem atNetRestoreWifi_ours (reliable : h.Reliable) (held : WifiStored h s) :
    (atNetRestoreWifi h s).1.wifiWeTurnedOff = false := by
  have first : (restoreWifiFromBackup h s).wifiWeTurnedOff = false := by
    rw [Bool.eq_false_iff]
    intro ours
    have before := (restoreWifiFromBackup_quiet h s).frame.ours ours
    rcases held before with ⟨dev, wasOn, turnedOff, device, stored⟩
    have valid := reliable.device dev device
    obtain ⟨n, turned⟩ := reliable.restoreWifiDevice s.ticked valid
    rw [reliable.restoreWifiFromBackup (.inr valid) stored, before, Bool.true_or, Bool.true_or,
      if_pos rfl, turned] at ours
    contradiction
  rw [atNetRestoreWifi]
  split
  · rw [Bool.eq_false_iff]
    intro ours
    rw [(restoreWifiDevice_quiet h _ _).frame.ours ours] at first
    contradiction
  · exact first

/-- Turning Wi-Fi off: nothing is known of it, or the record is written. -/
theorem disableWifi_cases (reliable : h.Reliable) (s : NetState) :
    (h.wifiDevice = none ∧ Keeps s (atNetDisableWifiDuringTether h s).1) ∨
    ∃ dev, h.wifiDevice = some dev ∧
      (((s.wifiPower dev = false ∧
          (atNetDisableWifiDuringTether h s).1.wifiWeTurnedOff = s.wifiWeTurnedOff ∧
          (atNetDisableWifiDuringTether h s).1.store .backupWifi =
            some (record (wifiRecord dev false false))) ∨
        (s.wifiPower dev = true ∧
          (atNetDisableWifiDuringTether h s).1.store .backupWifi =
            some (record (wifiRecord dev true true))))) := by
  cases device : h.wifiDevice with
  | none =>
      refine .inl ⟨rfl, ?_⟩
      rw [atNetDisableWifiDuringTether, reliable.wifiFindDevice, device]
      exact ⟨rfl, fun _ _ => rfl, rfl, rfl⟩
  | some dev =>
      refine .inr ⟨dev, rfl, ?_⟩
      cases power : s.wifiPower dev with
      | false =>
          obtain ⟨n, disabled⟩ := reliable.disableWifi_off device power
          rw [disabled]
          exact .inl ⟨rfl, rfl, rfl⟩
      | true =>
          obtain ⟨n, known, marker, disabled⟩ := reliable.disableWifi_on device power
          rw [disabled]
          exact .inr ⟨rfl, rfl⟩

theorem WifiStored.step (reliable : h.Reliable) (held : WifiStored h s) (event : SessionEvent) :
    WifiStored h (event.exec h s) := by
  cases event with
  | call op =>
      by_cases other : op = .disableWifiDuringTether
      · subst other
        rcases disableWifi_cases reliable s with ⟨-, keeps⟩ | ⟨dev, device, changed⟩
        · exact held.kept keeps
        · intro _
          rcases changed with ⟨-, -, stored⟩ | ⟨-, stored⟩
          · exact ⟨dev, false, false, device, stored⟩
          · exact ⟨dev, true, true, device, stored⟩
      · exact held.kept (op.exec_keeps h s other)
  | restoreWifi =>
      intro ours
      rw [SessionEvent.exec, atNetRestoreWifi_ours reliable held] at ours
      contradiction
  | radio power => exact held

theorem Remembers.step (reliable : h.Reliable) (held : WifiStored h s)
    (remembers : Remembers h s) {event : SessionEvent} (finds : FindsRadioOn h s event) :
    Remembers h (event.exec h s) := by
  cases event with
  | call op =>
      by_cases other : op = .disableWifiDuringTether
      · subst other
        rcases disableWifi_cases reliable s with ⟨-, keeps⟩ | ⟨dev, device, changed⟩
        · exact remembers.kept reliable held keeps
        · rcases changed with ⟨power, same, stored⟩ | ⟨-, stored⟩
          · intro ours
            have on := finds (same.symm.trans ours) dev device
            rw [power] at on
            contradiction
          · exact remembers_of_stored reliable device stored
      · exact remembers.kept reliable held (op.exec_keeps h s other)
  | restoreWifi =>
      intro ours
      rw [SessionEvent.exec, atNetRestoreWifi_ours reliable held] at ours
      contradiction
  | radio power =>
      intro ours
      rcases held ours with ⟨dev, wasOn, turnedOff, device, stored⟩
      cases turnedOff_of_remembers reliable device stored ours remembers
      exact remembers_of_stored reliable device stored ours

theorem FindsRadioOn.missed {event : SessionEvent} (misses : ¬ FindsRadioOn h s event) :
    event = .call .disableWifiDuringTether ∧ s.wifiWeTurnedOff = true ∧
      ∃ dev, h.wifiDevice = some dev ∧ s.wifiPower dev = false := by
  match event with
  | .call .disableWifiDuringTether =>
      simp only [FindsRadioOn, Option.mem_def, not_forall, Bool.not_eq_true] at misses
      rcases misses with ⟨ours, dev, device, off⟩
      exact ⟨rfl, ours, dev, device, off⟩
  | .call (.applyLease _ _ _) => exact absurd trivial misses
  | .call (.publishPath _ _ _) => exact absurd trivial misses
  | .call (.preferDefaultRoute _ _) => exact absurd trivial misses
  | .call .dropIpv6Default => exact absurd trivial misses
  | .restoreWifi => exact absurd trivial misses
  | .radio _ => exact absurd trivial misses

/-- Turning Wi-Fi off while it is off by this process overwrites the record. -/
theorem Remembers.broken (reliable : h.Reliable) {event : SessionEvent}
    (misses : ¬ FindsRadioOn h s event) : ¬ Remembers h (event.exec h s) := by
  rcases FindsRadioOn.missed misses with ⟨rfl, ours, dev, device, off⟩
  intro remembers
  obtain ⟨n, disabled⟩ := reliable.disableWifi_off device off
  have stored : (atNetDisableWifiDuringTether h s).1.store .backupWifi =
      some (record (wifiRecord dev false false)) := by
    rw [disabled]
    rfl
  have still : (atNetDisableWifiDuringTether h s).1.wifiWeTurnedOff = true := by
    rw [disabled]
    exact ours
  have turnedOff := turnedOff_of_remembers reliable device stored still remembers
  contradiction

end

/-- The record never forgets that this process has turned Wi-Fi off exactly in those runs in
which Wi-Fi is not turned off a second time while it is off. -/
theorem remembers_iff_findsRadioOn {h : Host} (reliable : h.Reliable) {s : NetState}
    (fresh : s.wifiWeTurnedOff = false) (events : List SessionEvent) :
    Throughout (sessionStep h) (Remembers h) (atNetBeginSession h s).1 events ↔
      Guarded (sessionStep h) (FindsRadioOn h) (atNetBeginSession h s).1 events := by
  have begun := atNetBeginSession_ours h fresh
  have unset {ours : Bool} (unset : ours = false) : ours ≠ true := by
    rw [unset]
    decide
  apply @throughout_iff_guarded _ _ _ _ (WifiStored h)
  · rintro state event next held ⟨⟩
    exact held.step reliable event
  · rintro state event next held remembers finds ⟨⟩
    exact remembers.step reliable held finds
  · intro state event _ _ misses
    exact ⟨_, rfl, Remembers.broken reliable misses⟩
  · exact fun ours => absurd ours (unset begun)
  · exact fun ours => absurd ours (unset begun)

/-- The calls of `apply_lease_now` when the tunnel takes the default route. -/
def leaseApplied (ip : Bytes) : List SessionEvent :=
  [.call (.applyLease (cstr "utun5") ⟨ip, [], cstr "192.168.42.129", [], true⟩ true),
    .call (.preferDefaultRoute (cstr "utun5") (cstr "192.168.42.129")),
    .call .disableWifiDuringTether]

/-- Wi-Fi is turned on by hand before the second lease. -/
theorem leases_remembered :
    Throughout (sessionStep laptop) (Remembers laptop) (atNetBeginSession laptop online).1
      (leaseApplied (cstr "192.168.42.7") ++ .radio (fun _ => true) ::
        leaseApplied (cstr "192.168.42.8")) :=
  (remembers_iff_findsRadioOn laptop_reliable rfl _).mpr (by decide +kernel)

/-- The second lease overwrites the record, and a new process leaves Wi-Fi off. -/
theorem second_lease_forgets :
    ¬ Throughout (sessionStep laptop) (Remembers laptop) (atNetBeginSession laptop online).1
      (leaseApplied (cstr "192.168.42.7") ++ leaseApplied (cstr "192.168.42.8")) := by
  intro throughout
  have last := throughout _ (List.prefix_refl _) _ rfl
  rcases last (by decide +kernel) with ⟨dev, was, off, read, -, truthy, -⟩
  have forgotten : readWifiBackup laptop ((leaseApplied (cstr "192.168.42.7") ++
      leaseApplied (cstr "192.168.42.8")).foldl (fun s event => event.exec laptop s)
        (atNetBeginSession laptop online).1) = (cstr "en0", cstr "false", cstr "false") := by
    decide +kernel
  cases forgotten.symm.trans read
  contradiction

end WiredTethering.Net
