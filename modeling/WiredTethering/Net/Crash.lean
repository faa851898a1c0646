import WiredTethering.Net.Leftover

/-!
# Sessions that are killed

A process may be killed in a call, between any two of its commands; the state of the
host stays, and the next process starts without the static variables.  `Recoverable` is
what holds of the store then: the Global keys have their values from before the first
session, or the backup has them.
-/

namespace WiredTethering.Net

open WiredTethering.Memory
open WiredTethering.Common
open WiredTethering.Dhcp
open WiredTethering.Transition

/-! ## Calls and kills -/

inductive NetCall where
  | beginSession
  | op (operation : SessionOp)
  | registerService (ifname : Bytes)
  | restoreWifi
  | endSession
  | clearDhcp

def NetCall.exec (h : Host) (s : NetState) : NetCall → NetState
  | .beginSession => (atNetBeginSession h s).1
  | .op operation => operation.exec h s
  | .registerService ifname => atNetRegisterService h s ifname
  | .restoreWifi => (atNetRestoreWifi h s).1
  | .endSession => atNetEndSession h s
  | .clearDhcp => atNetClearDhcp h s

/-- The host as a process sees it that is killed before its `n`-th command. -/
def Host.until (h : Host) (killed : Option Nat) : Host :=
  { h with ok := fun n => killed.all (n < ·) && h.ok n }

/-- A call, which may be cut short; the end of a process between two calls; and a change
of the default routes and of Wi-Fi by others. -/
inductive CrashEvent where
  | call (made : NetCall)
  | killed (made : NetCall) (before : Nat)
  | restart
  | others (route route6 : Route) (power : Bytes → Bool)

def CrashEvent.exec (h : Host) (s : NetState) : CrashEvent → NetState
  | .call made => made.exec (h.until none) s
  | .killed made before => (made.exec (h.until (some before)) s).restarted
  | .restart => s.restarted
  | .others route route6 power => { s with route := route, route6 := route6, wifiPower := power }

def crashStep (h : Host) : Step NetState CrashEvent :=
  fun s event => some (event.exec h s)

/-! ## The Global keys -/

inductive GlobalPart where
  | ipv4
  | dns
deriving DecidableEq, Repr

def GlobalPart.key : GlobalPart → StoreKey
  | .ipv4 => .globalIPv4
  | .dns => .globalDNS

def GlobalPart.backup : GlobalPart → StoreKey
  | .ipv4 => .backupIPv4
  | .dns => .backupDNS

/-- The values of the Global keys. -/
abbrev Globals := GlobalPart → Option Dict

def NetState.globals (s : NetState) : Globals :=
  fun part => s.store part.key

/-- The record of a snapshot that found these values. -/
def Globals.valid (g : Globals) : Dict :=
  record (validRecord (g .ipv4).isSome (g .dns).isSome)

/-- The Global keys have these values. -/
def Restored (g : Globals) (s : NetState) : Prop :=
  ∀ part : GlobalPart, s.store part.key = g part

instance (g : Globals) (s : NetState) : Decidable (Restored g s) :=
  decidable_of_iff (s.store .globalIPv4 = g .ipv4 ∧ s.store .globalDNS = g .dns)
    ⟨fun both part => by cases part; exacts [both.1, both.2],
      fun restored => ⟨restored .ipv4, restored .dns⟩⟩

/-- A snapshot that is stored is one of these values; those of a key may be removed
already. -/
def SnapshotOf (g : Globals) (s : NetState) : Prop :=
  ∀ valid, s.store .backupValid = some valid → valid = g.valid ∧
    ∀ (part : GlobalPart) (d : Dict), g part = some d →
      s.store part.backup = some d ∨ s.store part.backup = none

/-- What `at_net_begin_session` takes the default route for. -/
def seesLiveRoute (h : Host) (s : NetState) : Bool :=
  (routeText h .inet s.route).any fun out => liveOk (routeInfoOf .inet (captured out 2048))

/-- An event that begins a session, or tries to. -/
def CrashEvent.begins : CrashEvent → Bool
  | .call .beginSession | .killed .beginSession _ => true
  | _ => false

/-- A session that begins with a leftover backup over a live default route finds the Global
keys restored. -/
def SparesGlobals (h : Host) (g : Globals) (s : NetState) (event : CrashEvent) : Prop :=
  event.begins = true → s.sessionOpen = false → s.store .backupValid ≠ none →
    seesLiveRoute h s = true → Restored g s

instance (h : Host) (g : Globals) (s : NetState) (event : CrashEvent) :
    Decidable (SparesGlobals h g s event) :=
  inferInstanceAs (Decidable (_ → _ → _ → _ → _))

/-! ## The invariant -/

structure Recoverable (g : Globals) (s : NetState) : Prop where
  valid : ∀ d, s.store .backupValid = some d → d = g.valid
  absent : s.store .backupValid = none → Restored g s
  saved : s.store .backupValid ≠ none → ∀ (part : GlobalPart) (d : Dict), g part = some d →
    s.store part.backup = some d ∨ s.store part.backup = none ∧ s.store part.key = some d

/-- The backup is complete. -/
structure Intact (g : Globals) (s : NetState) : Prop where
  valid : s.store .backupValid = some g.valid
  saved : ∀ (part : GlobalPart) (d : Dict), g part = some d → s.store part.backup = some d

structure CrashInv (g : Globals) (s : NetState) : Prop where
  recoverable : Recoverable g s
  intact : s.sessionOpen = true → Intact g s

/-- The keys of the invariant. -/
def crashKeys : Set StoreKey :=
  {.globalIPv4, .globalDNS, .backupValid, .backupIPv4, .backupDNS}

section

variable {g : Globals} {s after : NetState}

theorem Intact.recoverable (intact : Intact g s) : Recoverable g s where
  valid := fun d stored => Option.some.inj (stored.symm.trans intact.valid)
  absent := fun missing => by
    rw [intact.valid] at missing
    contradiction
  saved := fun _ part d found => .inl (intact.saved part d found)

/-- The Global keys may be restored, and the backup stays. -/
theorem Recoverable.changed (held : Recoverable g s)
    (valid : after.store .backupValid = s.store .backupValid)
    (backup : ∀ part : GlobalPart, after.store part.backup = s.store part.backup)
    (globals : ∀ part : GlobalPart, after.store part.key = g part ∨
      after.store part.key = s.store part.key) : Recoverable g after where
  valid := fun d stored => held.valid d (valid.symm.trans stored)
  absent := fun missing part => by
    rcases globals part with restored | same
    · exact restored
    · exact same.trans (held.absent (valid.symm.trans missing) part)
  saved := fun stored part d found => by
    rw [valid] at stored
    rcases held.saved stored part d found with kept | ⟨removed, global⟩
    · exact .inl ((backup part).trans kept)
    · refine .inr ⟨(backup part).trans removed, ?_⟩
      rcases globals part with restored | same
      · exact restored.trans found
      · exact same.trans global

theorem mem_crashKeys (part : GlobalPart) : part.key ∈ crashKeys ∧ part.backup ∈ crashKeys := by
  cases part <;> simp [crashKeys, GlobalPart.key, GlobalPart.backup]

theorem Recoverable.kept (held : Recoverable g s) (kept : Kept crashKeys s after) :
    Recoverable g after :=
  held.changed (kept.stored _ (by simp [crashKeys]))
    (fun part => kept.stored _ (mem_crashKeys part).2)
    fun part => .inr (kept.stored _ (mem_crashKeys part).1)

theorem Restored.kept (restored : Restored g s) (kept : Kept crashKeys s after) :
    Restored g after :=
  fun part => (kept.stored _ (mem_crashKeys part).1).trans (restored part)

theorem Intact.kept (intact : Intact g s)
    (valid : after.store .backupValid = s.store .backupValid)
    (backup : ∀ part : GlobalPart, after.store part.backup = s.store part.backup) :
    Intact g after where
  valid := valid.trans intact.valid
  saved := fun part d found => (backup part).trans (intact.saved part d found)

theorem CrashInv.kept (held : CrashInv g s) (kept : Kept crashKeys s after) :
    CrashInv g after where
  recoverable := held.recoverable.kept kept
  intact := fun opened => (held.intact (kept.sessionOpen.symm.trans opened)).kept
    (kept.stored _ (by simp [crashKeys])) fun part => kept.stored _ (mem_crashKeys part).2

theorem Recoverable.restarted (held : Recoverable g s) : CrashInv g s.restarted where
  recoverable := ⟨held.valid, held.absent, held.saved⟩
  intact := nofun

theorem Recoverable.snapshotOf (held : Recoverable g s) : SnapshotOf g s := by
  intro valid stored
  refine ⟨held.valid valid stored, fun part d found => ?_⟩
  have present : s.store .backupValid ≠ none := by
    rw [stored]
    exact Option.some_ne_none valid
  rcases held.saved present part d found with kept | ⟨removed, -⟩
  · exact .inl kept
  · exact .inr removed

end

/-! ## Commands of a killed process -/

/-- The next command is run. -/
def Alive (killed : Option Nat) (s : NetState) : Prop :=
  killed.all (s.tick < ·) = true

section

variable {h : Host} {killed : Option Nat} {g : Globals} {s after : NetState}

instance (killed : Option Nat) (s : NetState) : Decidable (Alive killed s) :=
  inferInstanceAs (Decidable (_ = true))

/-- A process that runs a command has run the ones before. -/
theorem Alive.earlier (alive : Alive killed after) (ticks : s.tick ≤ after.tick) :
    Alive killed s := by
  cases killed with
  | none => rfl
  | some before =>
      have bound : after.tick < before := of_decide_eq_true alive
      exact decide_eq_true (Nat.lt_of_le_of_lt ticks bound)

theorem runCmd_alive (alive : Alive killed s) (effect : NetState → Option NetState) :
    runCmd (h.until killed) s effect = runCmd h s effect := by
  have same : (h.until killed).ok s.tick = h.ok s.tick := by
    rw [Host.until]
    exact (congrArg (· && h.ok s.tick) alive).trans (Bool.true_and _)
  rw [runCmd, runCmd, same]

theorem runCmd_dead (dead : ¬ Alive killed s) (effect : NetState → Option NetState) :
    runCmd (h.until killed) s effect = (s.ticked, false) := by
  have fails : (h.until killed).ok s.tick = false := by
    rw [Host.until]
    exact (congrArg (· && h.ok s.tick) (Bool.not_eq_true _ ▸ dead)).trans (Bool.false_and _)
  rw [runCmd, fails]
  rfl

theorem scutilShow_alive (alive : Alive killed s) (key : StoreKey) (n : Nat) :
    scutilShow (h.until killed) s key n = scutilShow h s key n := by
  have same := runCmd_alive (h := h) alive some
  rw [scutilShow, scutilShow, captureCmd, captureCmd, runPlain, runPlain, same]
  rfl

theorem scutilShow_dead (dead : ¬ Alive killed s) (key : StoreKey) (n : Nat) :
    scutilShow (h.until killed) s key n = (s.ticked, -1, []) := by
  rw [scutilShow, captureCmd, runPlain, runCmd_dead dead]
  rfl

theorem scutilRun_dead (dead : ¬ Alive killed s) (script : List ScutilCmd) :
    scutilRun (h.until killed) s script = (s.ticked, false) :=
  runCmd_dead dead _

theorem scutilRun_alive (alive : Alive killed s) (script : List ScutilCmd) :
    scutilRun (h.until killed) s script = scutilRun h s script :=
  runCmd_alive alive _

theorem not_alive_of_le (dead : ¬ Alive killed s) (ticks : s.tick ≤ after.tick) :
    ¬ Alive killed after :=
  fun alive => dead (alive.earlier ticks)

/-- The record of a snapshot is shown, and its fields are read. -/
theorem scutilShow_valid (reliable : h.Reliable) (stored : s.store .backupValid = some g.valid) :
    ∃ text, scutilShow h s .backupValid 2048 = (s.ticked, 0, text) ∧
      atParseScutilField text (cstr "HasIPv4") 32 = boolText (g .ipv4).isSome ∧
      atParseScutilField text (cstr "HasDNS") 32 = boolText (g .dns).isSome := by
  obtain ⟨shown, recorded, perm, read⟩ :=
    reliable.scutilShow stored (validRecord_recorded _ _)
  have size (b : Bool) : (boolText b).length < 32 :=
    Nat.lt_of_le_of_lt (boolText_length b) (by decide)
  refine ⟨dump shown, read, ?_, ?_⟩
  · exact recorded.field_whole perm (by simp [validRecord]) (size _)
  · exact recorded.field_whole perm (by simp [validRecord]) (size _)

theorem scutilKeyExists_valid (reliable : h.Reliable) (held : Recoverable g s) :
    scutilKeyExists h s .backupValid = (s.ticked, (s.store .backupValid).isSome) := by
  cases stored : s.store .backupValid with
  | none =>
      rw [scutilKeyExists, reliable.scutilShow_missing stored]
      rfl
  | some d =>
      rw [held.valid d stored] at stored
      obtain ⟨text, read, -, -⟩ := scutilShow_valid reliable stored
      rw [scutilKeyExists, read]
      rfl

end

section

variable {h : Host} (killed : Option Nat) {g : Globals} {s after : NetState}

/-! ## The restore -/

/-- A Global key is restored, or the process is killed before. -/
theorem restoreGlobal_part (reliable : h.Reliable) (part : GlobalPart)
    (held : Recoverable g s) (stored : s.store .backupValid ≠ none) :
    let after := restoreGlobal (h.until killed) s (boolText (g part).isSome) part.backup part.key
    after.store part.key = g part ∨
      after.store part.key = s.store part.key ∧ ¬ Alive killed after := by
  intro after
  by_cases alive : Alive killed s
  · left
    have same : after =
        restoreGlobal h s (boolText (g part).isSome) part.backup part.key := by
      change restoreGlobal (h.until killed) s _ _ _ = _
      rw [restoreGlobal, restoreGlobal, scutilCopyKey, scutilCopyKey, scutilRemoveKey,
        scutilRemoveKey, scutilRun_alive alive, scutilRun_alive alive]
    rw [same]
    cases found : g part with
    | none =>
        have saved : ∀ d, none = some d → s.store part.backup = some d := by
          rintro d ⟨⟩
        rw [restoreGlobal_restores reliable part.backup part.key saved]
        exact Function.update_self ..
    | some d =>
        rcases held.saved stored part d found with kept | ⟨removed, global⟩
        · have saved : ∀ other, some d = some other → s.store part.backup = some other :=
            fun other same => kept.trans same
          rw [restoreGlobal_restores reliable part.backup part.key saved]
          exact Function.update_self ..
        · -- The copy finds no value, and leaves the one that is there.
          rw [Option.isSome_some, restoreGlobal, if_pos (by decide), scutilCopyKey,
            reliable.scutilRun]
          simp [execScript, ScutilCmd.exec, removed, global]
  · right
    have ticked : after = s.ticked := by
      change restoreGlobal (h.until killed) s _ _ _ = _
      rw [restoreGlobal]
      split
      · exact congrArg Prod.fst (scutilRun_dead alive _)
      · exact congrArg Prod.fst (scutilRun_dead alive _)
    rw [ticked]
    exact ⟨rfl, not_alive_of_le alive (Nat.le_succ _)⟩

/-- Restoring a Global key leaves every other key, and the backup is as good as before. -/
theorem restoreGlobal_recovers (reliable : h.Reliable) (part : GlobalPart)
    (held : Recoverable g s) (stored : s.store .backupValid ≠ none) :
    let after := restoreGlobal (h.until killed) s (boolText (g part).isSome) part.backup part.key
    Recoverable g after ∧ (after.store part.key = g part ∨ ¬ Alive killed after) ∧
      Kept {key | key ≠ part.key} s after := by
  intro after
  have kept : Kept {key | key ≠ part.key} s after :=
    (restoreGlobal_frame _ _ _ _ (by simp)).toKept
  have restored := restoreGlobal_part killed reliable part held stored
  refine ⟨held.changed (kept.stored _ ?valid) (fun other => kept.stored _ ?backup) ?_,
    restored.imp_right And.right, kept⟩
  case valid =>
    cases part with
    | ipv4 | dns => simp [GlobalPart.key]
  case backup =>
    cases part with
    | ipv4 | dns => cases other <;> simp [GlobalPart.key, GlobalPart.backup]
  intro other
  by_cases same : other = part
  · rw [same]
    exact restored.imp_right And.left
  · right
    apply kept.stored
    revert same
    cases part with
    | ipv4 | dns => cases other <;> simp [GlobalPart.key]

/-- `restore_from_backup` up to the removal: the Global keys are restored, or the process is
killed. -/
theorem beforeRemoval_recovers (reliable : h.Reliable) (held : Recoverable g s) :
    Recoverable g (beforeRemoval (h.until killed) s) ∧
      (Restored g (beforeRemoval (h.until killed) s) ∨
        ¬ Alive killed (beforeRemoval (h.until killed) s)) := by
  have wifi := (restoreWifiFromBackup_quiet (h.until killed) s).trans
    (restoreWifiIfOurs_quiet (h.until killed) _)
  rw [beforeRemoval]
  generalize restoreWifiIfOurs (h.until killed) (restoreWifiFromBackup (h.until killed) s) = w
    at wifi ⊢
  have heldW : Recoverable g w := held.kept wifi.keeps.toKept
  have heldTicked : Recoverable g w.ticked := heldW.kept (ticked_frame w).toKept
  by_cases alive : Alive killed w
  · rw [scutilShow_alive alive]
    cases stored : w.store .backupValid with
    | none =>
        rw [reliable.scutilShow_missing stored]
        exact ⟨heldTicked, .inl (heldTicked.absent stored)⟩
    | some d =>
        rw [heldW.valid d stored] at stored
        obtain ⟨text, read, field4, fieldDns⟩ := scutilShow_valid reliable stored
        have present : w.ticked.store .backupValid ≠ none := by
          change w.store .backupValid ≠ none
          rw [stored]
          exact Option.some_ne_none _
        rw [read]
        dsimp only
        rw [if_neg (by decide), field4, fieldDns]
        have first := restoreGlobal_recovers killed reliable .ipv4 heldTicked present
        dsimp only [GlobalPart.key, GlobalPart.backup] at first
        generalize restoreGlobal (h.until killed) w.ticked (boolText (g .ipv4).isSome) .backupIPv4
          .globalIPv4 = one at first ⊢
        obtain ⟨heldOne, part4, kept4⟩ := first
        have presentOne : one.store .backupValid ≠ none := by
          rw [kept4.stored _ (by simp)]
          exact present
        have second := restoreGlobal_recovers killed reliable .dns heldOne presentOne
        dsimp only [GlobalPart.key, GlobalPart.backup] at second
        generalize restoreGlobal (h.until killed) one (boolText (g .dns).isSome) .backupDNS
          .globalDNS = two at second ⊢
        obtain ⟨heldTwo, partDns, keptDns⟩ := second
        have routes : Kept crashKeys two (restoreRoutes (h.until killed) two) :=
          (restoreRoutes_frame (h.until killed) two).toKept
        refine ⟨heldTwo.kept routes, ?_⟩
        by_cases last : Alive killed (restoreRoutes (h.until killed) two)
        · left
          have aliveTwo := last.earlier routes.tick
          have aliveOne := aliveTwo.earlier keptDns.tick
          apply Restored.kept _ routes
          rintro (_ | _)
          · exact (keptDns.stored _ (by simp [GlobalPart.key])).trans
              (part4.resolve_right fun failed => failed aliveOne)
          · exact partDns.resolve_right fun failed => failed aliveTwo
        · exact .inr last
  · rw [scutilShow_dead alive]
    exact ⟨heldTicked, .inr (not_alive_of_le alive (Nat.le_succ _))⟩

/-- Removing a key of the backup. -/
theorem scutilRemoveKey_recovers {key : StoreKey} (mem : key ∈ removedKeys)
    (held : Recoverable g s) (restored : Restored g s ∨ ¬ Alive killed s) :
    Recoverable g (scutilRemoveKey (h.until killed) s key) ∧
      (Restored g (scutilRemoveKey (h.until killed) s key) ∨
        ¬ Alive killed (scutilRemoveKey (h.until killed) s key)) := by
  by_cases alive : Alive killed s
  · have globals := restored.resolve_right (not_not_intro alive)
    have apart (part : GlobalPart) : part.key ≠ key := by
      rintro rfl
      revert mem
      cases part <;> decide
    have changed (other : StoreKey) :
        (scutilRemoveKey (h.until killed) s key).store other = s.store other ∨
          other = key ∧ (scutilRemoveKey (h.until killed) s key).store other = none := by
      rw [scutilRemoveKey_store]
      split
      · by_cases same : other = key
        · subst same
          exact .inr ⟨rfl, Function.update_self ..⟩
        · exact .inl (Function.update_of_ne same none s.store)
      · exact .inl rfl
    have after : Restored g (scutilRemoveKey (h.until killed) s key) := fun part =>
      ((changed part.key).resolve_right fun removed => apart part removed.1).trans (globals part)
    refine ⟨⟨?_, fun _ => after, ?_⟩, .inl after⟩
    · intro d stored
      rcases changed .backupValid with same | ⟨-, removed⟩
      · exact held.valid d (same.symm.trans stored)
      · rw [removed] at stored
        contradiction
    · intro stored part d found
      have present : s.store .backupValid ≠ none := by
        rcases changed .backupValid with same | ⟨-, removed⟩
        · rw [same] at stored
          exact stored
        · contradiction
      have global := (after part).trans found
      rcases changed part.backup with same | ⟨-, removed⟩
      · rw [same]
        exact (held.saved present part d found).imp_right fun kept => ⟨kept.1, global⟩
      · exact .inr ⟨removed, global⟩
  · have ticked : scutilRemoveKey (h.until killed) s key = s.ticked :=
      congrArg Prod.fst (scutilRun_dead alive _)
    rw [ticked]
    exact ⟨held.kept (ticked_frame s).toKept, .inr (not_alive_of_le alive (Nat.le_succ _))⟩

/-- Behind the removal there is no backup, or the process is killed. -/
theorem removeBackupKeys_recovers (reliable : h.Reliable) (held : Recoverable g s)
    (restored : Restored g s ∨ ¬ Alive killed s) :
    Recoverable g (removeBackupKeys (h.until killed) s) ∧
      (Restored g (removeBackupKeys (h.until killed) s) ∨
        ¬ Alive killed (removeBackupKeys (h.until killed) s)) ∧
      ((removeBackupKeys (h.until killed) s).store .backupValid = none ∨
        ¬ Alive killed (removeBackupKeys (h.until killed) s)) := by
  have kept : Recoverable g (removeBackupKeys (h.until killed) s) ∧
      (Restored g (removeBackupKeys (h.until killed) s) ∨
        ¬ Alive killed (removeBackupKeys (h.until killed) s)) :=
    List.foldlRecOn removedKeys (scutilRemoveKey (h.until killed))
      (motive := fun next => Recoverable g next ∧ (Restored g next ∨ ¬ Alive killed next))
      ⟨held, restored⟩ fun _ kept _ mem => scutilRemoveKey_recovers killed mem kept.1 kept.2
  refine ⟨kept.1, kept.2, ?_⟩
  by_cases alive : Alive killed (removeBackupKeys (h.until killed) s)
  · left
    have ticks : (removeBackupKeys (h.until killed) s).tick = s.tick + 7 := by
      simp [removeBackupKeys, scutilRemoveKey_tick]
    have reached : Alive killed { s with tick := s.tick + 4 } :=
      alive.earlier (by rw [ticks]; exact Nat.add_le_add_left (by decide) _)
    have works : (h.until killed).ok (s.tick + removedKeys.idxOf .backupValid) = true := by
      change (killed.all (s.tick + 4 < ·) && h.ok (s.tick + 4)) = true
      rw [reliable.ok, Bool.and_true]
      exact reached
    have removed := removeKeys_store (h := h.until killed) (by decide : removedKeys.Nodup)
      (by decide : StoreKey.backupValid ∈ removedKeys) s
    rw [if_pos works] at removed
    exact removed
  · exact .inr alive

/-- `restore_from_backup` recovers the Global keys, and drops the backup, or is killed. -/
theorem restoreFromBackup_recovers (reliable : h.Reliable) (held : Recoverable g s) :
    Recoverable g (restoreFromBackup (h.until killed) s) ∧
      (Restored g (restoreFromBackup (h.until killed) s) ∨
        ¬ Alive killed (restoreFromBackup (h.until killed) s)) ∧
      ((restoreFromBackup (h.until killed) s).store .backupValid = none ∨
        ¬ Alive killed (restoreFromBackup (h.until killed) s)) := by
  obtain ⟨heldBefore, restored⟩ := beforeRemoval_recovers killed reliable held
  rw [restoreFromBackup_removal]
  exact removeBackupKeys_recovers killed reliable heldBefore restored

/-! ## The start of a session -/

/-- What `at_net_unpublish_path` and `at_net_remove_service` leave. -/
theorem service_kept (h : Host) (s : NetState) :
    Kept crashKeys s (atNetRemoveService h (atNetUnpublishPath h s)) :=
  ((atNetUnpublishPath_frame h s (by simp [crashKeys])).trans
    (atNetRemoveService_frame h _ (by simp [crashKeys]))).toKept

/-- A process that runs the next command has seen the default route. -/
theorem snapshotRoute_sees (reliable : h.Reliable) (alive : Alive killed s) :
    liveOk (snapshotRoute (h.until killed) s .inet).2 = seesLiveRoute h s := by
  have same := runCmd_alive (h := h) alive some
  rw [snapshotRoute, captureCmd, runPlain, same, reliable.runCmd, seesLiveRoute]
  have text : routeText (h.until killed) .inet (s.defaultRoute .inet) =
      routeText h .inet s.route := rfl
  dsimp only
  rw [if_pos rfl, text]
  cases routeText h .inet s.route with
  | none => rfl
  | some out => rfl

/-- Before the snapshot there is no backup, or the process is killed. -/
theorem beforeSnapshot_recovers (reliable : h.Reliable) (held : Recoverable g s)
    (spares : s.store .backupValid ≠ none → seesLiveRoute h s = true → Restored g s) :
    Recoverable g (beforeSnapshot (h.until killed) s) ∧
      ((beforeSnapshot (h.until killed) s).store .backupValid = none ∨
        ¬ Alive killed (beforeSnapshot (h.until killed) s)) := by
  have destroyed := destroyStaleFeth_quiet (h.until killed) s
  rw [beforeSnapshot]
  generalize destroyStaleFeth (h.until killed) s = cleared at destroyed ⊢
  have looked : Quiet cleared (snapshotDefaultRoute (h.until killed) cleared).1 :=
    snapshotRoute_quiet (h.until killed) cleared .inet
  have saw : Alive killed cleared →
      liveOk (snapshotDefaultRoute (h.until killed) cleared).2 = seesLiveRoute h s := by
    intro alive
    have same : seesLiveRoute h cleared = seesLiveRoute h s := by
      rw [seesLiveRoute, destroyed.route, seesLiveRoute]
    exact (snapshotRoute_sees killed reliable alive).trans same
  dsimp only
  generalize snapshotDefaultRoute (h.until killed) cleared = seen at looked saw ⊢
  have total := destroyed.trans looked
  have heldSeen : Recoverable g seen.1 := held.kept total.keeps.toKept
  have ticked : Kept crashKeys seen.1 seen.1.ticked := (ticked_frame seen.1).toKept
  have heldTicked : Recoverable g seen.1.ticked := heldSeen.kept ticked
  by_cases alive : Alive killed seen.1
  · have leftover : scutilKeyExists (h.until killed) seen.1 .backupValid =
        (seen.1.ticked, (seen.1.store .backupValid).isSome) := by
      rw [scutilKeyExists, scutilShow_alive alive]
      exact scutilKeyExists_valid reliable heldSeen
    rw [leftover, saw (alive.earlier looked.frame.tick)]
    cases stored : seen.1.store .backupValid with
    | none => exact ⟨heldTicked, .inl stored⟩
    | some d =>
        cases live : seesLiveRoute h s with
        | true =>
            have present : s.store .backupValid ≠ none := by
              rw [← total.store, stored]
              exact Option.some_ne_none d
            have globals : Restored g seen.1.ticked :=
              ((spares present live).kept total.keeps.toKept).kept ticked
            have recovered := removeBackupKeys_recovers killed reliable heldTicked
              (.inl globals)
            exact ⟨recovered.1, recovered.2.2⟩
        | false =>
            have recovered := restoreFromBackup_recovers killed reliable heldTicked
            have service := service_kept (h.until killed)
              (restoreFromBackup (h.until killed) seen.1.ticked)
            refine ⟨recovered.1.kept service, ?_⟩
            rcases recovered.2.2 with removed | dead
            · exact .inl ((service.stored _ (by simp [crashKeys])).trans removed)
            · exact .inr (not_alive_of_le dead service.tick)
  · rw [scutilKeyExists, scutilShow_dead alive]
    exact ⟨heldTicked, .inr (not_alive_of_le alive (Nat.le_succ _))⟩

/-- `take_snapshot_to_backup` up to the script that stores it. -/
def gathered (h : Host) (s : NetState) : NetState × List ScutilCmd :=
  let (s, hasV4) := scutilKeyExists h s .globalIPv4
  let (s, hasDns) := scutilKeyExists h s .globalDNS
  let s := if hasV4 then (scutilCopyKey h s .globalIPv4 .backupIPv4).1 else s
  let s := if hasDns then (scutilCopyKey h s .globalDNS .backupDNS).1 else s
  let (s, v4) := snapshotDefaultRoute h s
  let (s, v6) := snapshotDefaultRoute6 h s
  let (s, wdev, wifiOn) := snapshotWifi h s
  (s, snapshotScript v4 v6 wdev wifiOn hasV4 hasDns)

theorem takeSnapshotToBackup_gathered (h : Host) (s : NetState) :
    takeSnapshotToBackup h s =
      ((scutilRun h (gathered h s).1 (gathered h s).2).1,
        if (scutilRun h (gathered h s).1 (gathered h s).2).2 then 0 else -1) := by
  rfl

/-- The values are shown as they are. -/
def Globals.Shown (h : Host) (g : Globals) : Prop :=
  ∀ part d, g part = some d →
    strstr (cstr "No such key") (captured (Dict.printed (h.order d)) 2048) = false

theorem scutilKeyExists_part (reliable : h.Reliable) (shown : g.Shown h) (part : GlobalPart)
    (restored : s.store part.key = g part) (alive : Alive killed s) :
    (scutilKeyExists (h.until killed) s part.key).2 = (g part).isSome := by
  have looked := scutilKeyExists_global reliable s part.key fun d stored =>
    shown part d (restored.symm.trans stored)
  rw [scutilKeyExists, scutilShow_alive alive]
  exact (congrArg Prod.snd looked).trans (congrArg Option.isSome restored)

/-- The copy of a Global key that is found. -/
theorem backup_part (reliable : h.Reliable) (part : GlobalPart) (has : Bool) (s : NetState) :
    let after := if has then (scutilCopyKey (h.until killed) s part.key part.backup).1 else s
    Kept {key | key ≠ part.backup} s after ∧ (¬ Alive killed s → after.store = s.store) ∧
      (Alive killed s → ∀ d, s.store part.key = some d → has = true →
        after.store part.backup = some d) := by
  cases has with
  | false => exact ⟨(Frame.refl s).toKept, fun _ => rfl, nofun⟩
  | true =>
      refine ⟨(scutilCopyKey_frame _ s part.key (by simp)).toKept, ?_, ?_⟩
      · intro dead
        have ticked : (scutilCopyKey (h.until killed) s part.key part.backup).1 = s.ticked :=
          congrArg Prod.fst (scutilRun_dead dead _)
        change (scutilCopyKey (h.until killed) s part.key part.backup).1.store = s.store
        rw [ticked]
        rfl
      · intro alive d found _
        have copied : (scutilCopyKey (h.until killed) s part.key part.backup).1.store =
            execScript s.store [.get part.key, .set part.backup] := by
          rw [scutilCopyKey, scutilRun_alive alive, reliable.scutilRun]
        change (scutilCopyKey (h.until killed) s part.key part.backup).1.store _ = _
        rw [copied]
        simp [execScript, ScutilCmd.exec, found]

/-- What is gathered for the snapshot: the Global keys are backed up, or the process is
killed before. -/
theorem gathered_spec (reliable : h.Reliable) (shown : g.Shown h)
    (restored : Alive killed s → Restored g s) :
    Kept {.globalIPv4, .globalDNS, .backupValid} s (gathered (h.until killed) s).1 ∧
      (¬ Alive killed s → ∀ part : GlobalPart,
        (gathered (h.until killed) s).1.store part.backup = s.store part.backup) ∧
      (Alive killed (gathered (h.until killed) s).1 →
        (∃ v4 v6 wdev wifiOn, (gathered (h.until killed) s).2 =
          snapshotScript v4 v6 wdev wifiOn (g .ipv4).isSome (g .dns).isSome) ∧
        ∀ (part : GlobalPart) (d : Dict), g part = some d →
          (gathered (h.until killed) s).1.store part.backup = some d) := by
  rw [gathered]
  dsimp only
  have quiet1 := scutilKeyExists_quiet (h.until killed) s .globalIPv4
  have has1 : Alive killed s →
      (scutilKeyExists (h.until killed) s .globalIPv4).2 = (g .ipv4).isSome := fun alive =>
    scutilKeyExists_part killed reliable shown .ipv4 (restored alive .ipv4) alive
  generalize scutilKeyExists (h.until killed) s .globalIPv4 = one at quiet1 has1 ⊢
  have quiet2 := scutilKeyExists_quiet (h.until killed) one.1 .globalDNS
  have has2 : Alive killed one.1 →
      (scutilKeyExists (h.until killed) one.1 .globalDNS).2 = (g .dns).isSome := fun alive =>
    scutilKeyExists_part killed reliable shown .dns
      ((congrFun quiet1.store _).trans (restored (alive.earlier quiet1.frame.tick) .dns)) alive
  generalize scutilKeyExists (h.until killed) one.1 .globalDNS = two at quiet2 has2 ⊢
  have copy4 := backup_part killed reliable .ipv4 one.2 two.1
  dsimp only [GlobalPart.key, GlobalPart.backup] at copy4
  generalize (if one.2 = true then
    (scutilCopyKey (h.until killed) two.1 .globalIPv4 .backupIPv4).1 else two.1) = three
    at copy4 ⊢
  have copyDns := backup_part killed reliable .dns two.2 three
  dsimp only [GlobalPart.key, GlobalPart.backup] at copyDns
  generalize (if two.2 = true then
    (scutilCopyKey (h.until killed) three .globalDNS .backupDNS).1 else three) = four
    at copyDns ⊢
  have rest : Kept {.globalIPv4, .globalDNS, .backupValid, .backupIPv4, .backupDNS} four
      (snapshotWifi (h.until killed) (snapshotDefaultRoute6 (h.until killed)
        (snapshotDefaultRoute (h.until killed) four).1).1).1 :=
    ((snapshotRoute_quiet (h.until killed) four .inet).keeps.trans
      ((snapshotRoute_quiet (h.until killed) _ .inet6).keeps.trans
        (snapshotWifi_frame (h.until killed) _ (by simp)))).toKept
  generalize snapshotDefaultRoute (h.until killed) four = five at rest ⊢
  generalize snapshotDefaultRoute6 (h.until killed) five.1 = six at rest ⊢
  generalize snapshotWifi (h.until killed) six.1 = seven at rest ⊢
  have kept2 : Kept crashKeys s two.1 :=
    (quiet1.keeps.trans quiet2.keeps).toKept
  have ticks4 : two.1.tick ≤ four.tick := copy4.1.tick.trans copyDns.1.tick
  refine ⟨?_, ?_, ?_⟩
  · have first : Kept {.globalIPv4, .globalDNS, .backupValid} s two.1 := kept2.mono (by
      rintro key (rfl | rfl | rfl) <;> simp [crashKeys])
    refine ((first.trans (copy4.1.mono ?_)).trans (copyDns.1.mono ?_)).trans (rest.mono ?_)
    · rintro key (rfl | rfl | rfl) <;> simp
    · rintro key (rfl | rfl | rfl) <;> simp
    · rintro key (rfl | rfl | rfl) <;> simp
  · intro dead part
    have dead2 := not_alive_of_le dead kept2.tick
    have same : four.store = two.1.store :=
      (copyDns.2.1 (not_alive_of_le dead2 copy4.1.tick)).trans (copy4.2.1 dead2)
    rw [← kept2.stored _ (mem_crashKeys part).2, ← same]
    exact rest.stored _ (mem_crashKeys part).2
  · intro alive
    have alive4 := alive.earlier rest.tick
    have alive3 := alive4.earlier copyDns.1.tick
    have alive2 := alive3.earlier copy4.1.tick
    have alive1 := alive2.earlier quiet2.frame.tick
    have globals := (restored (alive1.earlier quiet1.frame.tick)).kept kept2
    have hasV4 := has1 (alive1.earlier quiet1.frame.tick)
    have hasDns := has2 alive1
    refine ⟨⟨five.2, six.2, seven.2.1, seven.2.2, by rw [hasV4, hasDns]⟩, ?_⟩
    intro part d found
    rw [rest.stored _ (mem_crashKeys part).2]
    cases part with
    | ipv4 =>
        have copied := copy4.2.2 alive2 d ((globals .ipv4).trans found) (by rw [hasV4, found]; rfl)
        exact (copyDns.1.stored _ (by simp [GlobalPart.backup])).trans copied
    | dns =>
        have kept3 : three.store .globalDNS = two.1.store .globalDNS := copy4.1.stored _ (by simp)
        exact copyDns.2.2 alive3 d (kept3.trans ((globals .dns).trans found))
          (by rw [hasDns, found]; rfl)

/-- The snapshot is complete, or the process is killed. -/
theorem takeSnapshotToBackup_recovers (reliable : h.Reliable) (shown : g.Shown h)
    (held : Recoverable g s) (fresh : s.store .backupValid = none ∨ ¬ Alive killed s) :
    Recoverable g (takeSnapshotToBackup (h.until killed) s).1 ∧
      ((takeSnapshotToBackup (h.until killed) s).2 = 0 →
        Intact g (takeSnapshotToBackup (h.until killed) s).1) := by
  obtain ⟨kept, untouched, complete⟩ := gathered_spec killed reliable shown
    fun alive => held.absent (fresh.resolve_right (not_not_intro alive))
  rw [takeSnapshotToBackup_gathered]
  generalize gathered (h.until killed) s = last at kept untouched complete ⊢
  by_cases alive : Alive killed last.1
  · obtain ⟨⟨v4, v6, wdev, wifiOn, script⟩, saved⟩ := complete alive
    have stored : (scutilRun (h.until killed) last.1 last.2).1.store =
        Function.update
          (Function.update last.1.store .backupRoute (some (record (routeRecord v4 v6 wdev wifiOn))))
          .backupValid (some g.valid) := by
      rw [scutilRun_alive alive, reliable.scutilRun, script]
      exact execScript_snapshot _ _ _ _ _ _ _
    have intact : Intact g (scutilRun (h.until killed) last.1 last.2).1 := by
      constructor
      · rw [stored]
        exact Function.update_self ..
      · intro part d found
        rw [stored]
        cases part <;> exact saved _ d found
    exact ⟨intact.recoverable, fun _ => intact⟩
  · rw [scutilRun_dead alive]
    have heldLast : Recoverable g last.1 := by
      rcases fresh with absent | dead
      · have missing : last.1.store .backupValid = none := by
          rw [kept.stored _ (by simp)]
          exact absent
        constructor
        · intro d stored
          rw [missing] at stored
          contradiction
        · intro _ part
          have same := kept.stored part.key (by cases part <;> simp [GlobalPart.key])
          exact same.trans (held.absent absent part)
        · exact fun present => absurd missing present
      · refine held.changed (kept.stored _ (by simp)) (untouched dead) fun part => .inr ?_
        exact kept.stored _ (by cases part <;> simp [GlobalPart.key])
    exact ⟨heldLast.kept (ticked_frame last.1).toKept, nofun⟩

theorem atNetBeginSession_recovers (reliable : h.Reliable) (shown : g.Shown h)
    (inv : CrashInv g s)
    (spares : s.sessionOpen = false → s.store .backupValid ≠ none → seesLiveRoute h s = true →
      Restored g s) : CrashInv g (atNetBeginSession (h.until killed) s).1 := by
  cases opened : s.sessionOpen with
  | true =>
      rw [atNetBeginSession, opened]
      exact inv
  | false =>
      obtain ⟨held, fresh⟩ := beforeSnapshot_recovers killed reliable inv.recoverable
        (spares opened)
      obtain ⟨after, intact⟩ := takeSnapshotToBackup_recovers killed reliable shown held fresh
      have frame : Frame ∅ s (takeSnapshotToBackup (h.until killed)
          (beforeSnapshot (h.until killed) s)).1 :=
        (beforeSnapshot_frame (h.until killed) s (by simp) (by simp) (by simp)).trans
          (takeSnapshotToBackup_frame (h.until killed) _ (by simp))
      have closed := frame.sessionOpen.trans opened
      rw [atNetBeginSession_snapshot _ _ opened]
      split
      · refine ⟨after, fun open_ => ?_⟩
        rw [closed] at open_
        contradiction
      · rename_i stored
        exact ⟨⟨after.valid, after.absent, after.saved⟩, fun _ =>
          ⟨(intact (not_not.mp stored)).valid, (intact (not_not.mp stored)).saved⟩⟩

/-! ## The end of a session -/

theorem atNetEndSession_recovers (reliable : h.Reliable) (inv : CrashInv g s) :
    Recoverable g (atNetEndSession (h.until killed) s) ∧
      ((atNetEndSession (h.until killed) s).sessionOpen = false) ∧
      (Restored g (atNetEndSession (h.until killed) s) ∨
        ¬ Alive killed (atNetEndSession (h.until killed) s)) := by
  have looked := hadSession_quiet (h.until killed) s
  have kept : Kept crashKeys s (hadSession (h.until killed) s).1 := looked.keeps.toKept
  rw [atNetEndSession]
  rcases had : hadSession (h.until killed) s with ⟨next, _ | _⟩
  · rw [had] at kept
    have marked : Kept crashKeys next
        (if next.wifiMarker then (restoreWifiDevice (h.until killed) next []).1 else next) := by
      split
      · exact (restoreWifiDevice_quiet (h.until killed) next []).keeps.toKept
      · exact (Frame.refl next).toKept
    have total := (kept.trans marked).trans (service_kept (h.until killed) _)
    have closed : s.sessionOpen = false := by
      rw [Bool.eq_false_iff]
      intro opened
      rw [hadSession, opened] at had
      cases had
    refine ⟨inv.recoverable.kept total, total.sessionOpen.trans closed, ?_⟩
    by_cases alive : Alive killed
        (atNetRemoveService (h.until killed) (atNetUnpublishPath (h.until killed)
          (if next.wifiMarker then (restoreWifiDevice (h.until killed) next []).1 else next)))
    · left
      apply Restored.kept _ total
      apply inv.recoverable.absent
      -- A backup would have been found.
      have found : scutilKeyExists (h.until killed) s .backupValid =
          (s.ticked, (s.store .backupValid).isSome) := by
        rw [scutilKeyExists, scutilShow_alive (alive.earlier total.tick)]
        exact scutilKeyExists_valid reliable inv.recoverable
      cases stored : s.store .backupValid with
      | none => rfl
      | some d =>
          rw [stored] at found
          rw [hadSession, found] at had
          split at had
          · cases had
          · cases had
    · exact .inr alive
  · rw [had] at kept
    obtain ⟨held, restored, -⟩ := restoreFromBackup_recovers killed reliable
      (inv.recoverable.kept kept)
    have total := (restoreWifiIfOurs_quiet (h.until killed)
      (restoreFromBackup (h.until killed) next)).keeps.toKept.trans
        (service_kept (h.until killed) _)
    have after := held.kept total
    refine ⟨⟨after.valid, after.absent, after.saved⟩, rfl, ?_⟩
    rcases restored with globals | dead
    · exact .inl fun part => (total.stored _ (mem_crashKeys part).1).trans (globals part)
    · exact .inr (not_alive_of_le dead total.tick)

/-! ## The session -/

/-- Without a session the Global keys are not published. -/
theorem publishScript_globals (ifname : Bytes) (lease : AtNetInfo) (gw : Bytes) (dns : List Bytes)
    {key : StoreKey} (mem : key ∈ crashKeys) :
    ∀ cmd ∈ publishScript ifname lease gw dns false, cmd.target ≠ some key := by
  rcases mem with rfl | rfl | rfl | rfl | rfl <;> simp [publishScript, addStr, ScutilCmd.target]

theorem atNetPublishPath_closed (h : Host) (closed : s.sessionOpen = false) (ifname : Bytes)
    (lease : AtNetInfo) (asPrimary : Bool) :
    Kept crashKeys s (atNetPublishPath h s ifname lease asPrimary).1 := by
  rw [atNetPublishPath, closed, Bool.and_false]
  split
  · exact (Frame.refl s).toKept
  · exact (scutilRun_frame h s fun key mem => publishScript_globals _ _ _ _ mem).toKept

theorem atNetApplyLease_closed (h : Host) (closed : s.sessionOpen = false) (ifname : Bytes)
    (lease : AtNetInfo) (asPrimary : Bool) :
    Kept crashKeys s (atNetApplyLease h s ifname lease asPrimary).1 := by
  have plain (s : NetState) : Kept crashKeys s (runPlain h s).1 :=
    (runPlain_quiet h s).keeps.toKept
  have rest (s : NetState) (closed : s.sessionOpen = false) : Kept crashKeys s
      (atNetPublishPath h (runPlain h s).1 ifname lease asPrimary).1 :=
    (plain s).trans (atNetPublishPath_closed h ((plain s).sessionOpen.trans closed) _ _ _)
  have first := (plain s).sessionOpen.trans closed
  rw [atNetApplyLease]
  split
  · exact (Frame.refl s).toKept
  · split
    · exact (Frame.refl s).toKept
    · dsimp only
      split
      · exact (plain s).trans (rest _ first)
      · have second := (plain s).trans (plain _)
        split
        · exact second
        · exact second.trans (rest _ (second.sessionOpen.trans closed))

theorem atNetDropIpv6Default_kept (h : Host) (s : NetState) :
    Kept crashKeys s (atNetDropIpv6Default h s).1 := by
  have deleted : Kept crashKeys s (routeDelete h s .inet6).1 := (routeDelete_frame h s .inet6).toKept
  rw [atNetDropIpv6Default]
  rcases ran : routeDelete h s .inet6 with ⟨next, _ | _⟩
  · rw [ran] at deleted
    exact deleted
  · rw [ran] at deleted
    exact deleted

theorem atNetPreferDefaultRoute_kept (h : Host) (s : NetState) (ifname gateway : Bytes) :
    Kept crashKeys s (atNetPreferDefaultRoute h s ifname gateway).1 := by
  have viaIf : Kept crashKeys s (routeAdd h (routeDelete h s .inet).1 (.interface ifname) .inet).1 :=
    ((routeDelete_frame h s .inet).trans (routeAdd_frame h _ _ .inet)).toKept
  rw [atNetPreferDefaultRoute]
  split
  · exact (Frame.refl s).toKept
  · split
    · exact (Frame.refl s).toKept
    · split
      · exact (Frame.refl s).toKept
      · dsimp only
        split
        · exact viaIf.trans (atNetDropIpv6Default_kept h _)
        · have viaGw := viaIf.trans (routeAdd_frame h _ (.gateway gateway) .inet).toKept
          split
          · exact viaGw
          · exact viaGw.trans (atNetDropIpv6Default_kept h _)

/-- Only a session publishes the Global keys, and it has them backed up. -/
theorem SessionOp.exec_recovers (h : Host) (inv : CrashInv g s) (op : SessionOp) :
    CrashInv g (op.exec h s) := by
  cases opened : s.sessionOpen with
  | true =>
      have intact := inv.intact opened
      by_cases other : op = .disableWifiDuringTether
      · subst other
        exact inv.kept (atNetDisableWifiDuringTether_kept h s (by simp [crashKeys]))
      · have keeps := op.exec_keeps h s other
        have after : Intact g (op.exec h s) :=
          intact.kept (keeps.backup .backupValid (by decide)) fun part =>
            keeps.backup part.backup (by cases part <;> decide)
        exact ⟨after.recoverable, fun _ => after⟩
  | false =>
      cases op with
      | applyLease ifname lease asPrimary =>
          exact inv.kept (atNetApplyLease_closed h opened ifname lease asPrimary)
      | publishPath ifname lease asPrimary =>
          exact inv.kept (atNetPublishPath_closed h opened ifname lease asPrimary)
      | preferDefaultRoute ifname gateway =>
          exact inv.kept (atNetPreferDefaultRoute_kept h s ifname gateway)
      | dropIpv6Default => exact inv.kept (atNetDropIpv6Default_kept h s)
      | disableWifiDuringTether =>
          exact inv.kept (atNetDisableWifiDuringTether_kept h s (by simp [crashKeys]))

/-- What follows the end of a session in `at_net_clear_dhcp`. -/
theorem atNetClearDhcp_kept (h : Host) (s : NetState) :
    Kept crashKeys (atNetEndSession h s) (atNetClearDhcp h s) :=
  ((runPlain_quiet h _).trans (runPlain_quiet h _)).keeps.toKept.trans (service_kept h _)

/-- A call, cut short or not. -/
theorem NetCall.exec_recovers (reliable : h.Reliable) (shown : g.Shown h) (inv : CrashInv g s)
    (call : NetCall)
    (spares : call = .beginSession → s.sessionOpen = false → s.store .backupValid ≠ none →
      seesLiveRoute h s = true → Restored g s) : CrashInv g (call.exec (h.until killed) s) := by
  cases call with
  | beginSession => exact atNetBeginSession_recovers killed reliable shown inv (spares rfl)
  | op operation => exact operation.exec_recovers (h.until killed) inv
  | registerService ifname =>
      exact inv.kept (atNetRegisterService_frame _ s (by simp [crashKeys]) ifname).toKept
  | restoreWifi => exact inv.kept (atNetRestoreWifi_quiet _ s).keeps.toKept
  | endSession =>
      obtain ⟨held, closed, -⟩ := atNetEndSession_recovers killed reliable inv
      refine ⟨held, fun opened => ?_⟩
      exact absurd (closed.symm.trans opened) Bool.false_ne_true
  | clearDhcp =>
      obtain ⟨held, closed, -⟩ := atNetEndSession_recovers killed reliable inv
      have kept := atNetClearDhcp_kept (h.until killed) s
      refine ⟨held.kept kept, fun opened => ?_⟩
      exact absurd ((kept.sessionOpen.trans closed).symm.trans opened) Bool.false_ne_true

/-- An event at which no session adopts published values. -/
theorem CrashInv.step (reliable : h.Reliable) (shown : g.Shown h) (inv : CrashInv g s)
    {event : CrashEvent} (spares : SparesGlobals h g s event) : CrashInv g (event.exec h s) := by
  cases event with
  | call made =>
      apply NetCall.exec_recovers none reliable shown inv
      rintro rfl
      exact spares rfl
  | killed made before =>
      have after : CrashInv g (made.exec (h.until (some before)) s) := by
        apply NetCall.exec_recovers (some before) reliable shown inv
        rintro rfl
        exact spares rfl
      exact after.recoverable.restarted
  | restart => exact inv.recoverable.restarted
  | others route route6 power =>
      exact ⟨⟨inv.recoverable.valid, inv.recoverable.absent, inv.recoverable.saved⟩,
        fun opened => ⟨(inv.intact opened).valid, (inv.intact opened).saved⟩⟩

end

/-- The end of a session restores the Global keys. -/
theorem CrashInv.ends {h : Host} (reliable : h.Reliable) {g : Globals} {s : NetState}
    (inv : CrashInv g s) :
    Restored g (atNetEndSession (h.until none) s) ∧
      Restored g (atNetClearDhcp (h.until none) s) := by
  obtain ⟨-, -, restored⟩ := atNetEndSession_recovers none reliable inv
  have ended := restored.resolve_right (not_not_intro rfl)
  exact ⟨ended, ended.kept (atNetClearDhcp_kept _ s)⟩

/-- Before the first session: no session, and no backup. -/
structure Unused (h : Host) (s : NetState) : Prop where
  closed : s.sessionOpen = false
  absent : s.store .backupValid = none
  shown : s.globals.Shown h

/-- An event that ends a session. -/
def CrashEvent.ends : CrashEvent → Bool
  | .call .endSession | .call .clearDhcp => true
  | _ => false

/-- In a run in which no session that begins over a live default route discards the backup of
published values, every snapshot is one of the values before the run, and every end of a
session restores them. -/
theorem globals_recovered {h : Host} (reliable : h.Reliable) {s : NetState} (unused : Unused h s)
    {events : List CrashEvent}
    (guarded : Guarded (crashStep h) (SparesGlobals h s.globals) s events) :
    Throughout (crashStep h) (SnapshotOf s.globals) s events ∧
      ∀ front event last, front ++ [event] <+: events → event.ends = true →
        run (crashStep h) s (front ++ [event]) = some last → Restored s.globals last := by
  have start : CrashInv s.globals s :=
    ⟨⟨fun d stored => absurd (unused.absent.symm.trans stored) nofun, fun _ _ => rfl,
      fun stored => absurd unused.absent stored⟩,
      fun opened => absurd (unused.closed.symm.trans opened) Bool.false_ne_true⟩
  have invariant : Throughout (crashStep h) (CrashInv s.globals) s events := by
    refine guarded_throughout (fun state event next inv spares stepped => ?_) start guarded
    cases stepped
    exact inv.step reliable unused.shown spares
  constructor
  · intro front isPrefix last ran
    exact (invariant front isPrefix last ran).recoverable.snapshotOf
  · intro front event last isPrefix ends ran
    rw [run_append] at ran
    obtain ⟨middle, ranFront, stepped⟩ := Option.bind_eq_some_iff.mp ran
    have inv := invariant front ((List.prefix_append _ _).trans isPrefix) middle ranFront
    cases stepped
    have both := inv.ends reliable
    match event with
    | .call .endSession => exact both.1
    | .call .clearDhcp => exact both.2

/-- Every event can happen. -/
theorem run_crashStep (h : Host) (s : NetState) (events : List CrashEvent) :
    run (crashStep h) s events = some (events.foldl (CrashEvent.exec h) s) := by
  induction events generalizing s with
  | nil => rfl
  | cons event events ih => exact ih (event.exec h s)

theorem online_unused : Unused laptop online where
  closed := rfl
  absent := rfl
  shown := by
    have ipv4 : online.globals .ipv4 =
        some (record [(cstr "PrimaryInterface", cstr "en0")]) := rfl
    rintro (_ | _) d stored
    · cases ipv4.symm.trans stored
      decide +kernel
    · cases stored

/-- A session that takes the default route, and whose process is killed. -/
def killedSession : List CrashEvent :=
  [.call .beginSession,
    .call (.op (.applyLease (cstr "utun5")
      ⟨cstr "192.168.42.7", [], cstr "192.168.42.129", [], true⟩ true)),
    .call (.op (.preferDefaultRoute (cstr "utun5") (cstr "192.168.42.129"))),
    .restart]

/-- The next session finds no default route, and is killed while it ends. -/
theorem killed_sessions_recovered :
    Throughout (crashStep laptop) (SnapshotOf online.globals) online
        (killedSession ++ [.others .none .none online.wifiPower, .call .beginSession,
          .killed .endSession 60, .call .endSession]) ∧
      ∀ front event last, front ++ [event] <+: killedSession ++
          [.others .none .none online.wifiPower, .call .beginSession, .killed .endSession 60,
            .call .endSession] → event.ends = true →
        run (crashStep laptop) online (front ++ [event]) = some last →
          Restored online.globals last :=
  globals_recovered laptop_reliable online_unused (by decide +kernel)

/-- The next session finds the default route back: it discards the backup, and backs up the
keys of the killed session. -/
def adoptedSession : List CrashEvent :=
  killedSession ++ [.others (.gateway (cstr "192.168.1.1")) .none online.wifiPower,
    .call .beginSession]

theorem published_globals_adopted :
    ¬ Throughout (crashStep laptop) (SnapshotOf online.globals) online adoptedSession ∧
      ∃ last, run (crashStep laptop) online (adoptedSession ++ [.call .endSession]) = some last ∧
        ¬ Restored online.globals last := by
  have adopted : (adoptedSession.foldl (CrashEvent.exec laptop) online).store .backupValid =
        some (record (validRecord true true)) ∧
      record (validRecord true true) ≠ online.globals.valid ∧
      ¬ Restored online.globals (CrashEvent.exec laptop
        (adoptedSession.foldl (CrashEvent.exec laptop) online) (.call .endSession)) := by
    decide +kernel
  obtain ⟨stored, other, lost⟩ := adopted
  constructor
  · intro throughout
    have last := throughout adoptedSession (List.prefix_refl _) _ (run_crashStep laptop online _)
    exact other (last _ stored).1
  · refine ⟨_, run_crashStep laptop online _, ?_⟩
    rw [List.foldl_concat]
    exact lost

end WiredTethering.Net
