import WiredTethering.Net.Leftover

/-!
# Starting and stopping the engine

`at_engine_start` and `at_engine_stop` of `tether_engine.c`, as far as they touch the
network.  What the other calls of a start return is given by `StartCalls`; a start that
fails behind the allocation of the engine stops it.
-/

namespace WiredTethering.Engine

open WiredTethering.Memory
open WiredTethering.Common
open WiredTethering.Net

/-- The results of the calls of `at_engine_start`: what is there, or works. -/
structure StartCalls where
  opts : Bool
  engine : Bool
  txq : Bool
  usb : Bool
  rndis : Bool
  /-- The name of the tunnel that `at_utun_open` opens. -/
  utun : Option Bytes
  dhcp : Bool
  workers : Bool
  maint : Bool

/-- The part of `at_engine_stop` in which the threads may still run, with what they do. -/
def engineStopping (h : Host) (s : NetState) (late : List SessionOp) : NetState :=
  late.foldl (SessionOp.exec h) (atNetRestoreWifi h s).1

/-- `at_engine_stop`; the engine may have a tunnel. -/
def atEngineStop (h : Host) (s : NetState) (utun : Option Bytes) (late : List SessionOp) :
    NetState :=
  let s := engineStopping h s late
  match utun with
  | some _ => atNetClearDhcp h s
  | none => atNetEndSession h s

/-- `fail_start` with an engine, whose maintenance thread has not been created. -/
def failStart (h : Host) (s : NetState) (utun : Option Bytes) : NetState × Option Bytes :=
  (atEngineStop h s utun [], none)

/-- `at_engine_start`: the tunnel of the engine, if it starts. -/
def atEngineStart (h : Host) (s : NetState) (calls : StartCalls) : NetState × Option Bytes :=
  if !calls.opts then (s, none)
  else if !calls.engine then (s, none)
  else if !calls.txq then failStart h s none
  else if !calls.usb then failStart h s none
  else if !calls.rndis then failStart h s none
  else
    match calls.utun with
    | none => failStart h s none
    | some ifname =>
        if !calls.dhcp then failStart h s (some ifname)
        else
          match atNetBeginSession h s with
          | (s, rc) =>
              if rc ≠ 0 then failStart h s (some ifname)
              else if !calls.workers then failStart h s (some ifname)
              else
                let s := atNetRegisterService h s ifname
                if !calls.maint then failStart h s (some ifname)
                else (s, some ifname)

/-- A start, and the stop of an engine that was started, with what its threads do in the
session. -/
def engineRun (h : Host) (s : NetState) (calls : StartCalls) (ops late : List SessionOp) :
    NetState :=
  match atEngineStart h s calls with
  | (s, none) => s
  | (s, some utun) => atEngineStop h (ops.foldl (SessionOp.exec h) s) (some utun) late

/-- The engine is allocated, and the start fails before `at_net_begin_session`. -/
def StartCalls.failsEarly (calls : StartCalls) : Bool :=
  calls.opts && calls.engine &&
    !(calls.txq && calls.usb && calls.rndis && calls.utun.isSome && calls.dhcp)

/-- The IPv4 default route is as it was behind the start, and behind the stop. -/
def RouteKept (h : Host) (s : NetState) (calls : StartCalls) (ops late : List SessionOp) : Prop :=
  (atEngineStart h s calls).1.route = s.route ∧ (engineRun h s calls ops late).route = s.route

/-- The backup in the store has another default route. -/
def LeftoverRoute (h : Host) (s : NetState) : Prop :=
  (shownText h s.store .backupValid).isSome = true ∧ backupRoute h s.store ≠ s.route

section

variable {h : Host} {s : NetState}

theorem atEngineStop_route (h : Host) (s : NetState) (utun : Option Bytes)
    (late : List SessionOp) :
    (atEngineStop h s utun late).route = (atNetEndSession h (engineStopping h s late)).route := by
  cases utun with
  | none => rfl
  | some ifname => exact atNetClearDhcp_route h _

/-- A stop without a session installs the route of a leftover backup. -/
theorem failStart_leftover (reliable : h.Reliable) (fresh : Fresh h s) (utun : Option Bytes) :
    (failStart h s utun).1.route =
      if (shownText h s.store .backupValid).isSome then backupRoute h s.store else s.route := by
  have wifi := atNetRestoreWifi_quiet h s
  have ours : (atNetRestoreWifi h s).1.wifiWeTurnedOff = false := by
    rw [Bool.eq_false_iff]
    intro turnedOff
    have before := wifi.frame.ours turnedOff
    rw [fresh.ours] at before
    contradiction
  rw [failStart, atEngineStop_route, engineStopping, List.foldl_nil,
    atNetEndSession_leftover reliable (wifi.frame.sessionOpen.trans fresh.closed) ours, wifi.store,
    wifi.route]

/-- A stop in a session installs the route of its snapshot. -/
theorem atEngineStop_snapped (reliable : h.Reliable) {before : Network}
    (shown : before.Shown h) (snapped : Snapped h before s) (utun : Option Bytes)
    (late : List SessionOp) : (atEngineStop h s utun late).route = before.route := by
  have restored : Snapped h before (atNetRestoreWifi h s).1 :=
    snapped.kept (atNetRestoreWifi_quiet h s).keeps.toKept
  have last : Snapped h before (engineStopping h s late) :=
    List.foldlRecOn late _ restored fun _ held op _ => op.exec_snapped held
  rw [atEngineStop_route]
  exact atNetEndSession_snapped reliable shown.route shown.route6 last

theorem registered_snapped {before : Network} (snapped : Snapped h before s) (ifname : Bytes) :
    Snapped h before (atNetRegisterService h s ifname) :=
  snapped.kept (atNetRegisterService_frame h s (by simp [snapshotKeys]) ifname).toKept

/-- Where a start ends: before anything was done to the network, behind a stop without a
session, or behind the start of a session. -/
theorem atEngineStart_cases (reliable : h.Reliable) (fresh : Fresh h s)
    (live : HasLiveRoute h s) (calls : StartCalls) :
    (calls.failsEarly = true ∧ ∃ utun, atEngineStart h s calls = failStart h s utun) ∨
    (calls.failsEarly = false ∧ (atEngineStart h s calls = (s, none) ∨
      ∃ begun ifname, Snapped h s.network begun ∧ begun.route = s.route ∧
        (atEngineStart h s calls = failStart h begun (some ifname) ∨
          atEngineStart h s calls = (begun, some ifname)))) := by
  rcases calls with ⟨opts, engine, txq, usb, rndis, utun, dhcp, workers, maint⟩
  rw [atEngineStart, StartCalls.failsEarly]
  cases opts with
  | false => exact .inr ⟨rfl, .inl rfl⟩
  | true =>
  cases engine with
  | false => exact .inr ⟨rfl, .inl rfl⟩
  | true =>
  cases txq with
  | false => exact .inl ⟨rfl, none, rfl⟩
  | true =>
  cases usb with
  | false => exact .inl ⟨rfl, none, rfl⟩
  | true =>
  cases rndis with
  | false => exact .inl ⟨rfl, none, rfl⟩
  | true =>
  cases utun with
  | none => exact .inl ⟨rfl, none, rfl⟩
  | some ifname =>
  cases dhcp with
  | false => exact .inl ⟨rfl, some ifname, rfl⟩
  | true =>
      obtain ⟨begun, began, same, opened⟩ := atNetBeginSession_live reliable fresh live
      have route : begun.route = s.route := congrArg Network.route same
      have registered : (atNetRegisterService h begun ifname).route = s.route :=
        (congrArg Network.route (atNetRegisterService_network h begun ifname)).trans route
      refine .inr ⟨rfl, .inr ?_⟩
      rw [began]
      cases workers with
      | false => exact ⟨begun, ifname, opened.snapped, route, .inl rfl⟩
      | true =>
          refine ⟨_, ifname, registered_snapped opened.snapped ifname, registered, ?_⟩
          cases maint with
          | false => exact .inl rfl
          | true => exact .inr rfl

end

/-- The default route is kept unless a start that fails early finds a leftover backup with
another one. -/
theorem routeKept_iff {h : Host} (reliable : h.Reliable) {s : NetState} (fresh : Fresh h s)
    (live : HasLiveRoute h s) (calls : StartCalls) (ops late : List SessionOp) :
    RouteKept h s calls ops late ↔ ¬ (calls.failsEarly = true ∧ LeftoverRoute h s) := by
  rw [RouteKept, engineRun]
  rcases atEngineStart_cases reliable fresh live calls with
    ⟨early, utun, failed⟩ | ⟨later, untouched | ⟨begun, ifname, snapped, route, started⟩⟩
  · have installed := failStart_leftover reliable fresh utun
    rw [failed, early, LeftoverRoute]
    change (failStart h s utun).1.route = s.route ∧ (failStart h s utun).1.route = s.route ↔ _
    rw [installed]
    by_cases shown : (shownText h s.store .backupValid).isSome = true
    · simp [shown]
    · simp [shown]
  · rw [untouched, later]
    simp
  · have stopped (s' : NetState) (held : Snapped h s.network s') (late : List SessionOp) :
        (atEngineStop h s' (some ifname) late).route = s.route :=
      atEngineStop_snapped reliable fresh.shown held (some ifname) late
    have ended : Snapped h s.network (ops.foldl (SessionOp.exec h) begun) :=
      List.foldlRecOn ops _ snapped fun _ held op _ => op.exec_snapped held
    rw [later]
    rcases started with failed | ran
    · rw [failed]
      have kept := stopped begun snapped []
      simp [failStart, kept]
    · rw [ran]
      simp [route, stopped _ ended late]

/-- The laptop in another network, after a process was killed in its session. -/
def moved : NetState :=
  { (atNetBeginSession laptop online).1.restarted with
    route := .gateway (cstr "10.0.0.1"), wifiPower := fun _ => false }

theorem moved_fresh : Fresh laptop moved where
  closed := rfl
  ours := rfl
  shown :=
    { route := (by decide +kernel : Gateway .inet (cstr "10.0.0.1"))
      route6 := en0_ifName
      keys := by
        have ipv4 : moved.store .globalIPv4 =
            some (record [(cstr "PrimaryInterface", cstr "en0")]) := rfl
        have dns : moved.store .globalDNS = none := rfl
        rintro d (stored | stored)
        · cases ipv4.symm.trans stored
          decide +kernel
        · cases dns.symm.trans stored }

/-- Every call works. -/
def allWork : StartCalls :=
  ⟨true, true, true, true, true, some (cstr "utun5"), true, true, true⟩

/-- A tunnel that takes the default route gives the new one back, not the leftover one. -/
theorem moved_kept :
    RouteKept laptop moved allWork
      [.preferDefaultRoute (cstr "utun5") (cstr "192.168.42.129")] [] :=
  (routeKept_iff laptop_reliable moved_fresh (by decide +kernel : liveOk _ = true) _ _ _).mpr
    fun early => absurd early.1 (by decide)

/-- The phone cannot be opened, and the leftover route replaces the working one. -/
theorem leftover_installed :
    Fresh laptop moved ∧ HasLiveRoute laptop moved ∧
      (atEngineStart laptop moved { allWork with usb := false }).1.route =
        .gateway (cstr "192.168.1.1") ∧
      ¬ RouteKept laptop moved { allWork with usb := false } [] [] := by
  have installed : (atEngineStart laptop moved { allWork with usb := false }).1.route =
      .gateway (cstr "192.168.1.1") := by
    decide +kernel
  refine ⟨moved_fresh, (by decide +kernel : liveOk _ = true), installed, ?_⟩
  rintro ⟨kept, -⟩
  rw [installed] at kept
  exact absurd kept (by decide)

end WiredTethering.Engine
