import WiredTethering.Net.Frame

/-!
# The steps of a restore

`restore_from_backup` copies the Global keys back, adds the default routes and then
removes the backup.  Here the result of each step is kept beside the state, and the
removal is compared with the steps that failed.
-/

namespace WiredTethering.Net

open WiredTethering.Memory
open WiredTethering.Common

inductive RestoreStep where
  | globalIPv4
  | globalDNS
  | route
  | route6
deriving DecidableEq, Repr

/-- The key with the data of the step. -/
def RestoreStep.key : RestoreStep → StoreKey
  | .globalIPv4 => .backupIPv4
  | .globalDNS => .backupDNS
  | .route => .backupRoute
  | .route6 => .backupRoute

/-! ## What a backup calls for -/

/-- The text that `show` prints for a key that is stored. -/
def shownText (h : Host) (store : Store) (key : StoreKey) : Option Bytes :=
  let out := captured (showText h store key) 2048
  if strstr (cstr "No such key") out then none else some out

/-- The route of the family in the record of routes, as `restore_from_backup` reads it. -/
def readRoute (text : Bytes) : Family → RouteInfo
  | .inet => ⟨orNone (atParseScutilField text (cstr "Kind") 32),
      atParseScutilField text (cstr "Gateway") 64, atParseScutilField text (cstr "Interface") 32⟩
  | .inet6 => ⟨orNone (atParseScutilField text (cstr "Kind6") 32),
      atParseScutilField text (cstr "Gateway6") 128,
      atParseScutilField text (cstr "Interface6") 32⟩

/-- There is a default route to add. -/
def RouteInfo.adds (info : RouteInfo) : Family → Bool
  | .inet => info.kind ≠ cstr "none" &&
      (info.kind = cstr "ipv4" && info.gw ≠ [] || info.iface ≠ [])
  | .inet6 => info.kind ≠ cstr "none" &&
      (info.kind = cstr "ipv6" && info.gw ≠ [] || info.iface ≠ [] && info.iface ≠ cstr "none")

/-- The stored backup calls for the step. -/
def RestoreStep.calledFor (h : Host) (store : Store) : RestoreStep → Bool
  | .globalIPv4 => (shownText h store .backupValid).any fun valid =>
      atParseScutilField valid (cstr "HasIPv4") 32 = cstr "true"
  | .globalDNS => (shownText h store .backupValid).any fun valid =>
      atParseScutilField valid (cstr "HasDNS") 32 = cstr "true"
  | .route => (shownText h store .backupValid).isSome &&
      (shownText h store .backupRoute).any fun text => (readRoute text .inet).adds .inet
  | .route6 => (shownText h store .backupValid).isSome &&
      (shownText h store .backupRoute).any fun text => (readRoute text .inet6).adds .inet6

/-! ## The results of the steps -/

/-- `restore_from_backup` up to the removal, with the result of each step: it was taken,
and its last command worked. -/
def restoreSteps (h : Host) (s : NetState) : NetState × (RestoreStep → Bool) :=
  let s := restoreWifiIfOurs h (restoreWifiFromBackup h s)
  let (s, rc, valid) := scutilShow h s .backupValid 2048
  if rc ≠ 0 then (s, fun _ => false)
  else
    let has4 := atParseScutilField valid (cstr "HasIPv4") 32
    let hasDns := atParseScutilField valid (cstr "HasDNS") 32
    let copied4 := (scutilCopyKey h s .backupIPv4 .globalIPv4).2
    let s := restoreGlobal h s has4 .backupIPv4 .globalIPv4
    let copiedDns := (scutilCopyKey h s .backupDNS .globalDNS).2
    let s := restoreGlobal h s hasDns .backupDNS .globalDNS
    let (shown, rc, text) := scutilShow h s .backupRoute 2048
    let (added, rc4) := restoreDefaultRoute h shown (readRoute text .inet)
    let (added6, rc6) := restoreDefaultRoute6 h added (readRoute text .inet6)
    let routes := if rc = 0 then added6 else (restoreDefaultRoute h shown ⟨cstr "none", [], []⟩).1
    (routes, fun
      | .globalIPv4 => has4 = cstr "true" && copied4
      | .globalDNS => hasDns = cstr "true" && copiedDns
      | .route => rc = 0 && rc4 = 0
      | .route6 => rc = 0 && rc6 = 0)

/-- The steps are those of `restore_from_backup`. -/
theorem restoreSteps_state (h : Host) (s : NetState) : (restoreSteps h s).1 = beforeRemoval h s := by
  rw [restoreSteps, beforeRemoval]
  rcases scutilShow h (restoreWifiIfOurs h (restoreWifiFromBackup h s)) .backupValid 2048 with
    ⟨next, rc, valid⟩
  dsimp only
  split
  · rfl
  · rfl

/-- The step was taken at the end of the session, and succeeded. -/
def stepDone (h : Host) (s : NetState) (step : RestoreStep) : Bool :=
  let (s, had) := hadSession h s
  had && (restoreSteps h s).2 step

/-! ## The removal -/

/-- The command of `at_net_end_session` that removes the key works, and there is
something to remove. -/
def Removed (h : Host) (s : NetState) (key : StoreKey) : Prop :=
  (hadSession h s).2 = true ∧
    h.ok ((beforeRemoval h (hadSession h s).1).tick + removedKeys.idxOf key) = true ∧
      s.store key ≠ none

section

variable {h : Host} {s : NetState}

theorem scutilRemoveKey_store (h : Host) (s : NetState) (key : StoreKey) :
    (scutilRemoveKey h s key).store =
      if h.ok s.tick then Function.update s.store key none else s.store := by
  rw [scutilRemoveKey, scutilRun, runCmd]
  split
  · rfl
  · rfl

theorem scutilRemoveKey_tick (h : Host) (s : NetState) (key : StoreKey) :
    (scutilRemoveKey h s key).tick = s.tick + 1 := by
  rw [scutilRemoveKey, scutilRun, runCmd]
  split
  · rfl
  · rfl

/-- A list of removals: each key has its own command. -/
theorem removeKeys_store {keys : List StoreKey} (distinct : keys.Nodup) {key : StoreKey}
    (mem : key ∈ keys) (s : NetState) :
    (keys.foldl (scutilRemoveKey h) s).store key =
      if h.ok (s.tick + keys.idxOf key) then none else s.store key := by
  induction keys generalizing s with
  | nil => contradiction
  | cons first keys ih =>
      rw [List.nodup_cons] at distinct
      rw [List.foldl_cons]
      by_cases same : first = key
      · subst same
        have rest : (keys.foldl (scutilRemoveKey h) (scutilRemoveKey h s first)).store first =
            (scutilRemoveKey h s first).store first :=
          (List.foldlRecOn keys (scutilRemoveKey h)
            (motive := fun after => Frame {first} (scutilRemoveKey h s first) after) (.refl _)
            fun next frame other otherMem => frame.trans <| scutilRemoveKey_frame h next fun kept =>
              distinct.1 (Set.mem_singleton_iff.mp kept ▸ otherMem)).stored first rfl
        rw [rest, List.idxOf_cons_self, Nat.add_zero, scutilRemoveKey_store]
        split
        · exact Function.update_self first none s.store
        · rfl
      · have later : key ∈ keys := (List.mem_cons.mp mem).resolve_left (Ne.symm same)
        have kept : (scutilRemoveKey h s first).store key = s.store key := by
          rw [scutilRemoveKey_store]
          split
          · exact Function.update_of_ne (Ne.symm same) none s.store
          · rfl
        rw [ih distinct.2 later, scutilRemoveKey_tick, kept, List.idxOf_cons_ne _ same,
          Nat.add_right_comm, Nat.add_assoc]

/-- What `at_net_end_session` leaves of the backup. -/
theorem atNetEndSession_backup {key : StoreKey} (mem : key ∈ removedKeys) :
    (atNetEndSession h s).store key = s.store key ↔ ¬ Removed h s key := by
  have apart : key ≠ .globalIPv4 ∧ key ≠ .globalDNS ∧
      ∀ part, .stateService part ≠ key ∧ .setupService part ≠ key := by
    simp only [removedKeys, List.mem_cons, List.not_mem_nil, or_false] at mem
    rcases mem with rfl | rfl | rfl | rfl | rfl | rfl | rfl <;> simp
  rcases apart with ⟨notIPv4, notDNS, notService⟩
  have service (t : NetState) :
      (atNetRemoveService h (atNetUnpublishPath h t)).store key = t.store key := by
    have frame : Frame {key} t (atNetRemoveService h (atNetUnpublishPath h t)) :=
      (atNetUnpublishPath_frame h t notService).trans
        (atNetRemoveService_frame h _ fun part => (notService part).2)
    exact frame.stored key rfl
  have looked : (hadSession h s).1.store = s.store := (hadSession_quiet h s).store
  rw [atNetEndSession, Removed]
  rcases had : hadSession h s with ⟨next, _ | _⟩
  · rw [had] at looked
    have marked : (if next.wifiMarker then (restoreWifiDevice h next []).1 else next).store =
        next.store := by
      split
      · exact (restoreWifiDevice_quiet h next []).store
      · rfl
    dsimp only
    rw [service, marked, looked]
    constructor
    · rintro - ⟨none, -⟩
      contradiction
    · exact fun _ => rfl
  · rw [had] at looked
    have before : (beforeRemoval h next).store key = s.store key := by
      have frame : Frame {key} next (beforeRemoval h next) :=
        beforeRemoval_frame h next ⟨Ne.symm notIPv4, Ne.symm notDNS⟩
      rw [frame.stored key rfl, looked]
    have removed := removeKeys_store (h := h) (by decide) mem (beforeRemoval h next)
    dsimp only
    rw [service, (restoreWifiIfOurs_quiet h _).store, restoreFromBackup_removal]
    change (removedKeys.foldl (scutilRemoveKey h) (beforeRemoval h next)).store key = s.store key ↔ _
    rw [removed, before]
    by_cases works : h.ok ((beforeRemoval h next).tick + removedKeys.idxOf key) = true
    · rw [if_pos works]
      constructor
      · rintro missing ⟨-, -, stored⟩
        exact stored missing.symm
      · intro kept
        by_contra stored
        exact kept ⟨rfl, works, Ne.symm stored⟩
    · rw [if_neg works]
      constructor
      · rintro - ⟨-, runs, -⟩
        exact works runs
      · exact fun _ => rfl

end

/-- If a step that the backup calls for fails, the backup and the data of the step are
still there behind `at_net_end_session`. -/
def FailedStepsKept (h : Host) (s : NetState) : Prop :=
  ∀ step : RestoreStep, step.calledFor h s.store = true → stepDone h s step = false →
    (atNetEndSession h s).store .backupValid = s.store .backupValid ∧
      (atNetEndSession h s).store step.key = s.store step.key

/-- The backup outlives a failed step only where its removal fails too. -/
theorem failedStepsKept_iff (h : Host) (s : NetState) :
    FailedStepsKept h s ↔
      ∀ step : RestoreStep, step.calledFor h s.store = true →
        stepDone h s step = true ∨ ¬ Removed h s .backupValid ∧ ¬ Removed h s step.key := by
  have kept (step : RestoreStep) :
      ((atNetEndSession h s).store .backupValid = s.store .backupValid ∧
        (atNetEndSession h s).store step.key = s.store step.key) ↔
          ¬ Removed h s .backupValid ∧ ¬ Removed h s step.key :=
    and_congr (atNetEndSession_backup (by decide))
      (atNetEndSession_backup (by cases step <;> decide))
  apply forall_congr'
  intro step
  rw [kept step]
  cases stepDone h s step <;> simp

/-- A laptop on which adding the IPv4 default route at the end of the session fails. -/
def unroutable : Host :=
  { laptop with ok := fun n => n ≠ 21 }

/-- The route is not added, and the backup is gone. -/
theorem route_lost : ¬ FailedStepsKept unroutable (atNetBeginSession unroutable online).1 := by
  have run : RestoreStep.route.calledFor unroutable
        (atNetBeginSession unroutable online).1.store = true ∧
      stepDone unroutable (atNetBeginSession unroutable online).1 .route = false ∧
      (atNetBeginSession unroutable online).1.store .backupValid ≠ none ∧
      (atNetEndSession unroutable (atNetBeginSession unroutable online).1).store
        .backupValid = none := by
    decide +kernel
  obtain ⟨called, failed, stored, gone⟩ := run
  intro kept
  have still := (kept .route called failed).1
  rw [gone] at still
  exact stored still.symm

end WiredTethering.Net
