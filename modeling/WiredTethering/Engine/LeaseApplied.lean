import WiredTethering.Dhcp.Leftover
import WiredTethering.Engine.Gateway

/-!
# The applied settings and the lease

The lease has two copies: in the DHCP client, where an ACK changes it, and in the engine,
where `apply_lease_now` stores it.  `maint_thread` decides in each iteration whether they are
to be brought together again, by a comparison of the address alone.

`MaintApplies` says once what a step of the thread does to the settings; a run is then
watched from an ACK to the end of the first whole iteration behind it.
-/

namespace WiredTethering.Engine

open WiredTethering.Memory
open WiredTethering.Common
open WiredTethering.Dhcp
open WiredTethering.Transition

/-! ## The settings -/

/-- What the engine has applied. -/
structure Settings where
  net : AtNetInfo
  hostIp : UInt32
  gwIp : UInt32
deriving DecidableEq

def AtEngine.settings (e : AtEngine) : Settings :=
  ⟨e.net, e.hostIp, e.gwIp⟩

/-- The settings are those of a lease that the client `d` has. -/
structure AppliedFrom (s : Settings) (d : AtDhcp) : Prop where
  active : leaseActive d = true
  net : s.net = filledLease (atDhcpLease d)
  hostIp : s.hostIp = d.yiaddr
  gwIp : d.router ≠ 0 → s.gwIp = d.router

/-- The settings are those of some lease. -/
def Applied (e : AtEngine) : Prop :=
  ∃ d, AppliedFrom e.settings d

/-- The settings are those of the lease that the client has now.  A lease without a gateway
has the router 0. -/
structure FollowsLease (e : AtEngine) : Prop where
  net : e.net = filledLease (atDhcpLease e.dhcp)
  hostIp : e.hostIp = e.dhcp.yiaddr
  gwIp : e.gwIp = e.dhcp.router

theorem octetStr_ne_nil (b : UInt8) : octetStr b ≠ [] := by
  rw [octetStr]
  dsimp only
  split_ifs <;> rintro ⟨⟩

theorem ip4Str_ne_nil (addr : UInt32) : ip4Str addr ≠ [] := by
  simp [ip4Str, octetStr_ne_nil]

@[simp]
theorem filledLease_ip (lease : AtNetInfo) : (filledLease lease).ip = lease.ip := by
  rw [filledLease]
  split_ifs <;> rfl

@[simp]
theorem filledLease_gateway (lease : AtNetInfo) : (filledLease lease).gateway = lease.gateway := by
  rw [filledLease]
  split_ifs <;> rfl

theorem atDhcpLease_ip {d : AtDhcp} (active : leaseActive d = true) :
    (atDhcpLease d).ip = ip4Str d.yiaddr := by
  rw [atDhcpLease_active active]

theorem atDhcpLease_gateway {d : AtDhcp} (active : leaseActive d = true) :
    (atDhcpLease d).gateway = if d.router ≠ 0 then ip4Str d.router else [] := by
  rw [atDhcpLease_active active]

/-- `apply_lease_now` stores the lease; without a gateway it leaves `gw_ip`. -/
theorem storeLease_applies (e : AtEngine) {d : AtDhcp} (active : leaseActive d = true) :
    AppliedFrom (storeLease e (filledLease (atDhcpLease d))).settings d ∧
      (storeLease e (filledLease (atDhcpLease d))).gwIp =
        if d.router ≠ 0 then d.router else e.gwIp := by
  have gwIp : (storeLease e (filledLease (atDhcpLease d))).gwIp =
      if d.router ≠ 0 then d.router else e.gwIp := by
    dsimp only [storeLease]
    rw [filledLease_gateway, atDhcpLease_gateway active]
    by_cases routed : d.router ≠ 0
    · rw [if_pos routed, if_pos routed, if_pos (ip4Str_ne_nil _), inetAton_ip4Str]
      rfl
    · rw [if_neg routed, if_neg routed]
      rfl
  refine ⟨⟨active, rfl, ?_, ?_⟩, gwIp⟩
  · dsimp only [AtEngine.settings, storeLease]
    rw [filledLease_ip, atDhcpLease_ip active, inetAton_ip4Str]
    rfl
  · intro routed
    exact gwIp.trans (if_pos routed)

/-- Two leases with the same texts have the same address and, where they have one, the same
gateway. -/
theorem AppliedFrom.same {s : Settings} {d d' : AtDhcp} (applied : AppliedFrom s d)
    (active : leaseActive d' = true) (net : s.net = filledLease (atDhcpLease d')) :
    AppliedFrom s d' := by
  have texts := applied.net.symm.trans net
  have ip := congrArg AtNetInfo.ip texts
  have gateway := congrArg AtNetInfo.gateway texts
  rw [filledLease_ip, filledLease_ip, atDhcpLease_ip applied.active, atDhcpLease_ip active] at ip
  rw [filledLease_gateway, filledLease_gateway, atDhcpLease_gateway applied.active,
    atDhcpLease_gateway active] at gateway
  refine ⟨active, net, applied.hostIp.trans (ip4Str_injective ip), fun routed => ?_⟩
  rw [if_pos routed] at gateway
  split_ifs at gateway with had
  · rw [applied.gwIp had]
    exact ip4Str_injective gateway
  · exact absurd gateway.symm (ip4Str_ne_nil _)

theorem Applied.of_settings {e next : AtEngine} (applied : Applied e)
    (same : next.settings = e.settings) : Applied next := by
  rw [Applied, same]
  exact applied

/-! ## Steps that leave the lease alone -/

/-- Nothing is applied and no frame reaches the client. -/
structure Keeps (e next : AtEngine) : Prop where
  settings : next.settings = e.settings
  dhcp : next.dhcp = e.dhcp
  applied : next.leaseApplied = true → e.leaseApplied = true

theorem Keeps.refl (e : AtEngine) : Keeps e e :=
  ⟨rfl, rfl, id⟩

/-- The lease stays marked as applied, too. -/
structure SameLease (e next : AtEngine) : Prop where
  settings : next.settings = e.settings
  dhcp : next.dhcp = e.dhcp
  applied : next.leaseApplied = e.leaseApplied

theorem SameLease.refl (e : AtEngine) : SameLease e e :=
  ⟨rfl, rfl, rfl⟩

theorem SameLease.trans {e middle next : AtEngine} (first : SameLease e middle)
    (second : SameLease middle next) : SameLease e next :=
  ⟨second.settings.trans first.settings, second.dhcp.trans first.dhcp,
    second.applied.trans first.applied⟩

theorem SameLease.keeps {e next : AtEngine} (same : SameLease e next) : Keeps e next :=
  ⟨same.settings, same.dhcp, fun applied => same.applied ▸ applied⟩

theorem Call.step_keeps (e : AtEngine) (spurious : Bool) (c : Call) :
    Keeps e (c.step e spurious).1 := by
  cases c with
  | failLoad copy =>
      rw [Call.step]
      split_ifs <;> exact .refl e
  | failExchange copy cur =>
      rw [Call.step]
      split_ifs
      · exact ⟨rfl, rfl, id⟩
      · exact .refl e
  | pauseLease => exact ⟨rfl, rfl, (by rintro ⟨⟩)⟩
  | failRecord copy | failStop | pauseMac | pauseLoad | pauseStore => exact ⟨rfl, rfl, id⟩

/-- `engine_fail` leaves the mark of the lease alone, and does not go on to a pause. -/
theorem Call.step_failing (e : AtEngine) (spurious : Bool) {c : Call} (failing : ¬ c.Pausing) :
    SameLease e (c.step e spurious).1 ∧
      ∀ rest, (c.step e spurious).2 = some rest → ¬ rest.Pausing := by
  cases c with
  | failLoad copy =>
      rw [Call.step]
      split_ifs
      · exact ⟨.refl e, (by rintro rest ⟨⟩)⟩
      · refine ⟨.refl e, ?_⟩
        rintro _ ⟨⟩
        exact not_false
  | failExchange copy cur =>
      rw [Call.step]
      split_ifs
      · refine ⟨⟨rfl, rfl, rfl⟩, ?_⟩
        rintro _ ⟨⟩
        exact not_false
      · refine ⟨.refl e, ?_⟩
        rintro _ ⟨⟩
        exact not_false
  | failRecord copy =>
      refine ⟨⟨rfl, rfl, rfl⟩, ?_⟩
      rintro _ ⟨⟩
      exact not_false
  | failStop => exact ⟨⟨rfl, rfl, rfl⟩, (by rintro rest ⟨⟩)⟩
  | pauseLease | pauseMac | pauseLoad | pauseStore => exact absurd trivial failing

/-- The USB thread holds no frame and is in no pause. -/
def UsbPc.Idle : UsbPc → Prop
  | .notCreated | .allocate | .head | .check | .body | .exited => True
  | .call c => ¬ c.Pausing
  | .learnLoad _ | .learnRead _ | .learnStore _ _ | .learnDone _ | .dhcp _ => False

/-- The USB thread applies nothing. -/
theorem usbStep_settings {e next : AtEngine} {t after : UsbThread} {l : UsbLabel}
    (stepped : usbStep e t l = some (next, after)) :
    next.settings = e.settings ∧ (next.leaseApplied = true → e.leaseApplied = true) := by
  rcases t with ⟨pc, looping⟩
  cases l with
  | run env =>
      cases pc with
      | call c =>
          have keeps := Call.step_keeps e env.spurious c
          simp only [usbStep, UsbThread.call] at stepped
          split at stepped <;> cases stepped
          · exact ⟨keeps.settings, keeps.applied⟩
          · exact ⟨keeps.settings, keeps.applied⟩
      | allocate | check | learnLoad =>
          simp only [usbStep] at stepped
          split at stepped <;> cases stepped <;> exact ⟨rfl, id⟩
      | learnRead frame =>
          simp only [usbStep] at stepped
          split at stepped <;> cases stepped <;> exact ⟨rfl, id⟩
      | head | learnStore | learnDone =>
          cases stepped
          exact ⟨rfl, id⟩
      | notCreated | body | dhcp | exited => cases stepped
  | dhcpFrame now =>
      cases pc with
      | dhcp frame =>
          simp only [usbStep] at stepped
          split at stepped <;> cases stepped <;> exact ⟨rfl, id⟩
      | _ => cases stepped
  | goodRead | frame | hardFail | bodyDone =>
      cases pc with
      | body =>
          cases stepped
          exact ⟨rfl, id⟩
      | _ => cases stepped

/-- Without a frame an idle USB thread stays idle and leaves the lease alone. -/
theorem usbStep_idle {e next : AtEngine} {t after : UsbThread} {l : UsbLabel}
    (stepped : usbStep e t l = some (next, after)) (idle : t.pc.Idle)
    (noFrame : ∀ frame, l ≠ .frame frame) : SameLease e next ∧ after.pc.Idle := by
  rcases t with ⟨pc, looping⟩
  cases l with
  | run env =>
      cases pc with
      | call c =>
          have failing := Call.step_failing e env.spurious idle
          simp only [usbStep, UsbThread.call] at stepped
          split at stepped <;> rename_i found <;> cases stepped
          · exact ⟨failing.1, failing.2 _ found⟩
          · exact ⟨failing.1, trivial⟩
      | allocate =>
          simp only [usbStep] at stepped
          split at stepped <;> cases stepped
          · exact ⟨.refl e, trivial⟩
          · exact ⟨.refl e, not_false⟩
      | check =>
          simp only [usbStep] at stepped
          split at stepped <;> cases stepped
          · exact ⟨.refl e, not_false⟩
          · exact ⟨.refl e, trivial⟩
      | head =>
          cases stepped
          refine ⟨.refl e, ?_⟩
          cases e.running <;> trivial
      | learnLoad | learnRead | learnStore | learnDone => exact idle.elim
      | notCreated | body | dhcp | exited => cases stepped
  | dhcpFrame now =>
      cases pc with
      | dhcp frame => exact idle.elim
      | _ => cases stepped
  | frame frame => exact absurd rfl (noFrame frame)
  | goodRead =>
      cases pc with
      | body =>
          cases stepped
          exact ⟨⟨rfl, rfl, rfl⟩, trivial⟩
      | _ => cases stepped
  | hardFail env =>
      cases pc with
      | body =>
          cases stepped
          refine ⟨⟨rfl, rfl, rfl⟩, ?_⟩
          dsimp only
          split_ifs
          · trivial
          · exact not_false
      | _ => cases stepped
  | bodyDone =>
      cases pc with
      | body =>
          cases stepped
          refine ⟨.refl e, ?_⟩
          cases looping <;> trivial
      | _ => cases stepped

/-- The main thread applies nothing, and polls the client before it creates the maintenance
thread. -/
theorem mainStep_lease {s next : System} {l : MainLabel} (stepped : mainStep s l = some next) :
    next.e.settings = s.e.settings ∧ next.e.leaseApplied = s.e.leaseApplied ∧
      (¬ s.main.pc.Early → SameLease s.e next.e ∧ next.usb = s.usb ∧ next.maint = s.maint) := by
  rcases s with ⟨e, usb, utun, maint, ⟨pc, failed⟩⟩
  cases l with
  | run env =>
      cases pc with
      | createUsb | createUtun | createMaint =>
          cases stepped
          refine ⟨?_, ?_, fun late => absurd trivial late⟩
          · split <;> rfl
          · split <;> rfl
      | report | stopState | stopRunning =>
          cases stepped
          exact ⟨rfl, rfl, fun _ => ⟨⟨rfl, rfl, rfl⟩, rfl, rfl⟩⟩
      | join =>
          simp only [mainStep] at stepped
          split at stepped <;> cases stepped
          exact ⟨rfl, rfl, fun _ => ⟨⟨rfl, rfl, rfl⟩, rfl, rfl⟩⟩
      | firstTx | polling | done => cases stepped
  | firstTx now sent =>
      cases pc with
      | firstTx =>
          cases stepped
          exact ⟨rfl, rfl, fun late => absurd trivial late⟩
      | _ => cases stepped
  | poll quit =>
      cases pc with
      | polling =>
          cases stepped
          exact ⟨rfl, rfl, fun _ => ⟨⟨rfl, rfl, rfl⟩, rfl, rfl⟩⟩
      | _ => cases stepped

/-! ## Steps of the maintenance thread -/

/-- Where an iteration stands. -/
inductive Stage where
  | outside
  | polling
  | applying (filled : AtNetInfo)
  | storing (filled : AtNetInfo)
  | marking
  | settled
deriving DecidableEq

def MaintBack.stage : MaintBack → Stage
  | .loadLeased | .exited => .polling
  | .expiry | .lostSaw | .tail => .settled

def MaintPc.stage : MaintPc → Stage
  | .notCreated | .head | .exited => .outside
  | .check | .keepalive | .keepaliveLease | .loadLeased | .lock => .polling
  | .applyNet filled => .applying filled
  | .applyLock filled => .storing filled
  | .applyMac | .applyLease => .marking
  | .applySaw | .applyState | .applyRoute | .expiry | .lostSaw | .lostLease | .lostState
  | .tail => .settled
  | .call _ back => back.stage

/-- No pause is under way before the client is polled. -/
def MaintPc.Clean : MaintPc → Prop
  | .call c back => back.stage = .polling → ¬ c.Pausing
  | _ => True

/-- What a step of the maintenance thread does to the settings. -/
inductive MaintApplies (e next : AtEngine) (t after : MaintThread) : MaintLabel → Prop where
  | started (env : Env) (same : next = e) (here : t.pc = .head) (live : e.running = true)
      (goes : after.pc = .check) : MaintApplies e next t after (.run env)
  | ended (env : Env) (same : next = e) (here : t.pc = .head) (dead : e.running = false)
      (goes : after.pc = .exited) : MaintApplies e next t after (.run env)
  | polling (l : MaintLabel) (noLock : ∀ now sent, l ≠ .lock now sent) (same : SameLease e next)
      (here : t.pc.stage = .polling) (goes : after.pc.stage = .polling ∨ after.pc = .exited)
      (loaded : after.pc = .lock → after.leased = e.leaseApplied) : MaintApplies e next t after l
  | locked (now : Nat) (sent : Timeval) (here : t.pc = .lock)
      (polls : (next, after) = maintLock e t now sent) : MaintApplies e next t after (.lock now sent)
  | entered (env : Env) (filled : AtNetInfo) (same : next = e) (here : t.pc = .applyNet filled)
      (ok : env.ok = true) (goes : after.pc = .applyLock filled) :
      MaintApplies e next t after (.run env)
  | refused (env : Env) (filled : AtNetInfo) (same : next = e) (here : t.pc = .applyNet filled)
      (failed : env.ok = false) (goes : after.pc.stage = .settled) :
      MaintApplies e next t after (.run env)
  | stored (env : Env) (filled : AtNetInfo) (here : t.pc = .applyLock filled)
      (stores : next = storeLease e filled) (goes : after.pc.stage = .marking) :
      MaintApplies e next t after (.run env)
  | marked (env : Env) (here : t.pc.stage = .marking) (settings : next.settings = e.settings)
      (dhcp : next.dhcp = e.dhcp) (goes : after.pc.stage = .marking ∨ after.pc.stage = .settled) :
      MaintApplies e next t after (.run env)
  | settled (env : Env) (keeps : Keeps e next) (here : t.pc.stage = .settled) (inside : t.pc ≠ .tail)
      (goes : after.pc.stage = .settled) : MaintApplies e next t after (.run env)
  | returned (env : Env) (same : next = e) (here : t.pc = .tail) (goes : after.pc = .head) :
      MaintApplies e next t after (.run env)

theorem MaintThread.behindApply_stage (t : MaintThread) : t.behindApply.pc.stage = .settled := by
  rw [MaintThread.behindApply]
  split_ifs <;> rfl

theorem MaintBack.pc_stage (back : MaintBack) :
    back.pc.stage = back.stage ∨ back.pc = .exited ∧ back.stage = .polling := by
  cases back with
  | exited => exact .inr ⟨rfl, rfl⟩
  | _ => exact .inl rfl

theorem MaintBack.pc_ne_lock (back : MaintBack) : back.pc ≠ .lock := by
  cases back <;> nofun

theorem Env.run_ne_lock (env : Env) (now : Nat) (sent : Timeval) :
    MaintLabel.run env ≠ .lock now sent := by
  rintro ⟨⟩

theorem Env.traffic_ne_lock (env : Env) (idle : Bool) (now : Nat) (sent : Timeval) :
    MaintLabel.traffic idle env ≠ .lock now sent := by
  rintro ⟨⟩

theorem maintStep_applies {e next : AtEngine} {t after : MaintThread} {l : MaintLabel}
    (stepped : maintStep e t l = some (next, after)) (clean : t.pc.Clean) :
    MaintApplies e next t after l := by
  rcases t with ⟨pc, ticks, kaFails, lostTicks, leased, bound⟩
  cases l with
  | run env =>
      cases pc with
      | call c back =>
          have keeps := Call.step_keeps e env.spurious c
          simp only [maintStep, MaintThread.call] at stepped
          cases stage : back.stage with
          | polling =>
              have failing := Call.step_failing e env.spurious (clean stage)
              split at stepped <;> cases stepped
              · exact .polling _ env.run_ne_lock failing.1 stage (.inl stage) (by rintro ⟨⟩)
              · refine .polling _ env.run_ne_lock failing.1 stage ?_ fun lock =>
                  absurd lock back.pc_ne_lock
                rcases back.pc_stage with same | ⟨exited, -⟩
                · exact .inl (same.trans stage)
                · exact .inr exited
          | settled =>
              split at stepped <;> cases stepped
              · exact .settled env keeps stage (by rintro ⟨⟩) stage
              · refine .settled env keeps stage (by rintro ⟨⟩) ?_
                rcases back.pc_stage with same | ⟨-, polling⟩
                · exact same.trans stage
                · cases stage.symm.trans polling
          | outside | applying | storing | marking => cases back <;> cases stage
      | head =>
          cases stepped
          cases live : e.running with
          | true => exact .started env rfl rfl live rfl
          | false => exact .ended env rfl rfl live rfl
      | check =>
          simp only [maintStep] at stepped
          split at stepped <;> cases stepped
          · exact .polling _ env.run_ne_lock (.refl e) rfl (.inl rfl) (by rintro ⟨⟩)
          · refine .polling _ env.run_ne_lock (.refl e) rfl (.inl ?_) ?_
            · dsimp only
              split_ifs <;> rfl
            · dsimp only
              split_ifs <;> rintro ⟨⟩
      | keepalive =>
          simp only [maintStep] at stepped
          split at stepped <;> cases stepped
          · exact .polling _ env.run_ne_lock (.refl e) rfl (.inl rfl) (by rintro ⟨⟩)
          · exact .polling _ env.run_ne_lock (.refl e) rfl (.inl rfl) (by rintro ⟨⟩)
      | loadLeased =>
          cases stepped
          exact .polling _ env.run_ne_lock (.refl e) rfl (.inl rfl) fun _ => rfl
      | applyNet filled =>
          simp only [maintStep] at stepped
          split at stepped <;> rename_i ok <;> cases stepped
          · exact .entered env filled rfl rfl ok rfl
          · refine .refused env filled rfl rfl (Bool.eq_false_iff.mpr ok) ?_
            dsimp only [MaintThread.behindApply]
            split_ifs <;> rfl
      | applyLock filled =>
          cases stepped
          exact .stored env filled rfl rfl rfl
      | applyMac =>
          cases stepped
          exact .marked env rfl rfl rfl (.inl rfl)
      | applyLease =>
          cases stepped
          exact .marked env rfl rfl rfl (.inr rfl)
      | applySaw | applyState =>
          cases stepped
          exact .settled env ⟨rfl, rfl, id⟩ rfl (by rintro ⟨⟩) rfl
      | applyRoute =>
          cases stepped
          exact .settled env (.refl e) rfl (by rintro ⟨⟩) (MaintThread.behindApply_stage _)
      | expiry =>
          cases stepped
          refine .settled env (.refl e) rfl (by rintro ⟨⟩) ?_
          dsimp only
          split_ifs <;> rfl
      | lostSaw =>
          cases stepped
          refine .settled env (.refl e) rfl (by rintro ⟨⟩) ?_
          split_ifs <;> rfl
      | lostLease =>
          cases stepped
          refine .settled env (.refl e) rfl (by rintro ⟨⟩) ?_
          split_ifs <;> rfl
      | lostState =>
          simp only [maintStep] at stepped
          split at stepped <;> cases stepped
          · refine .settled env (.refl e) rfl (by rintro ⟨⟩) ?_
            dsimp only
            split_ifs <;> rfl
          · exact .settled env (.refl e) rfl (by rintro ⟨⟩) rfl
      | tail =>
          cases stepped
          exact .returned env rfl rfl rfl
      | notCreated | keepaliveLease | lock | exited => cases stepped
  | lock now sent =>
      cases pc with
      | lock =>
          simp only [maintStep, if_true] at stepped
          exact .locked now sent rfl (Option.some.inj stepped).symm
      | _ => cases stepped
  | traffic idle env =>
      cases pc with
      | keepaliveLease =>
          simp only [maintStep, if_true] at stepped
          cases stepped
          refine .polling _ (env.traffic_ne_lock idle) (.refl e) rfl (.inl ?_) ?_
          · dsimp only
            split_ifs <;> rfl
          · dsimp only
            split_ifs <;> rintro ⟨⟩
      | _ => cases stepped

theorem MaintBack.pc_clean (back : MaintBack) : back.pc.Clean := by
  cases back <;> trivial

/-- Pauses begin behind the poll of the client. -/
theorem maintStep_clean {e next : AtEngine} {t after : MaintThread} {l : MaintLabel}
    (stepped : maintStep e t l = some (next, after)) (clean : t.pc.Clean) : after.pc.Clean := by
  rcases t with ⟨pc, ticks, kaFails, lostTicks, leased, bound⟩
  cases l with
  | run env =>
      cases pc with
      | call c back =>
          simp only [maintStep, MaintThread.call] at stepped
          split at stepped <;> rename_i found <;> cases stepped
          · intro polling
            exact (Call.step_failing e env.spurious (clean polling)).2 _ found
          · exact back.pc_clean
      | head | lostSaw | lostLease =>
          cases stepped
          dsimp only [MaintThread.found]
          split_ifs <;> trivial
      | check =>
          simp only [maintStep] at stepped
          split at stepped <;> cases stepped
          · exact fun _ => not_false
          · dsimp only
            split_ifs <;> trivial
      | keepalive =>
          simp only [maintStep] at stepped
          split at stepped <;> cases stepped <;> trivial
      | applyNet =>
          simp only [maintStep] at stepped
          split at stepped <;> cases stepped
          · trivial
          · exact fun _ => not_false
      | lostState =>
          simp only [maintStep] at stepped
          split at stepped <;> cases stepped
          · dsimp only
            split_ifs
            · trivial
            · exact fun _ => not_false
          · trivial
      | expiry =>
          cases stepped
          dsimp only
          split_ifs
          · rintro ⟨⟩
          · trivial
      | loadLeased | applyLock | applyMac | applyLease | applySaw | applyState | tail =>
          cases stepped
          trivial
      | applyRoute =>
          cases stepped
          exact MaintBack.pc_clean _
      | notCreated | keepaliveLease | lock | exited => cases stepped
  | lock now sent =>
      cases pc with
      | lock =>
          simp only [maintStep, if_true, maintLock] at stepped
          split at stepped <;> cases stepped
          · trivial
          · exact MaintBack.pc_clean _
      | _ => cases stepped
  | traffic idle env =>
      cases pc with
      | keepaliveLease =>
          simp only [maintStep, if_true] at stepped
          cases stepped
          dsimp only
          split_ifs
          · exact fun _ => not_false
          · trivial
      | _ => cases stepped

/-! ## The decision to apply a lease -/

/-- The test of `maint_thread`: the client has a lease, and none is applied or its address is
another one. -/
def Reapplies (leased : Bool) (net : AtNetInfo) (d : AtDhcp) : Prop :=
  leaseActive d = true ∧ (leased = false ∨ net.ip ≠ (atDhcpLease d).ip)

/-- The region under `mu` polls the client and decides. -/
theorem maintLock_decides {e next : AtEngine} {t after : MaintThread} {now : Nat} {sent : Timeval}
    (polls : (next, after) = maintLock e t now sent) :
    next = { e with dhcp := (atDhcpWantTx e.dhcp 1518 now sent).1 } ∧
      (Reapplies t.leased e.net next.dhcp ∧
          after.pc = .applyNet (filledLease (atDhcpLease next.dhcp)) ∨
        ¬ Reapplies t.leased e.net next.dhcp ∧ after.pc.stage = .settled) := by
  rcases polled : atDhcpWantTx e.dhcp 1518 now sent with ⟨d, eth⟩
  simp only [maintLock, polled] at polls
  rcases Prod.mk.inj polls with ⟨rfl, rfl⟩
  refine ⟨rfl, ?_⟩
  by_cases decided : Reapplies t.leased e.net d
  · left
    refine ⟨decided, ?_⟩
    have test : (leaseActive d && (!t.leased ||
        ((atDhcpLease d).ip ≠ [] && e.net.ip ≠ (atDhcpLease d).ip))) = true := by
      rcases decided with ⟨active, fresh | other⟩
      · simp [active, fresh]
      · have some_ : (atDhcpLease d).ip ≠ [] := by
          rw [atDhcpLease_ip active]
          exact ip4Str_ne_nil _
        simp [active, other, some_]
    rw [if_pos test]
  · right
    refine ⟨decided, ?_⟩
    rw [if_neg]
    · exact MaintThread.behindApply_stage _
    · intro test
      apply decided
      simp only [Bool.and_eq_true, Bool.or_eq_true, Bool.not_eq_true', decide_eq_true_eq] at test
      exact ⟨test.1, test.2.imp_right And.right⟩

/-! ## What holds in every run -/

/-- A lease of some client, as it is applied. -/
def IsFilled (filled : AtNetInfo) : Prop :=
  ∃ d, leaseActive d = true ∧ filled = filledLease (atDhcpLease d)

/-- A lease that is marked as applied has been applied. -/
structure AppliedInv (s : System) : Prop where
  creation : CreationInv s
  clean : s.maint.pc.Clean
  applied : s.e.leaseApplied = true → Applied s.e
  marking : s.maint.pc.stage = .marking → Applied s.e
  applying : ∀ filled, s.maint.pc.stage = .applying filled → IsFilled filled
  storing : ∀ filled, s.maint.pc.stage = .storing filled → IsFilled filled

theorem AppliedInv.start (deviceMac : Mac) (xid : UInt32) :
    AppliedInv (System.start deviceMac xid) :=
  ⟨⟨fun _ => rfl, fun _ => rfl⟩, trivial, nofun, nofun, nofun, nofun⟩

/-- A step that applies nothing and leaves the maintenance thread where it is. -/
theorem AppliedInv.kept {s next : System} (inv : AppliedInv s) (creation : CreationInv next)
    (settings : next.e.settings = s.e.settings)
    (applied : next.e.leaseApplied = true → s.e.leaseApplied = true)
    (maint : next.maint = s.maint) : AppliedInv next := by
  refine ⟨creation, ?_, ?_, ?_, ?_, ?_⟩
  · rw [maint]
    exact inv.clean
  · exact fun marked => (inv.applied (applied marked)).of_settings settings
  · rw [maint]
    exact fun marking => (inv.marking marking).of_settings settings
  · rw [maint]
    exact inv.applying
  · rw [maint]
    exact inv.storing

/-- Away from the application of a lease only the mark matters. -/
theorem AppliedInv.away {s : System} {stage : Stage} (creation : CreationInv s)
    (clean : s.maint.pc.Clean) (here : s.maint.pc.stage = stage)
    (away : stage = .outside ∨ stage = .polling ∨ stage = .settled)
    (applied : s.e.leaseApplied = true → Applied s.e) : AppliedInv s := by
  subst here
  refine ⟨creation, clean, applied, ?_, ?_, ?_⟩
  · intro marking
    rw [marking] at away
    simp at away
  · intro filled applying
    rw [applying] at away
    simp at away
  · intro filled storing
    rw [storing] at away
    simp at away

/-- A step of the maintenance thread, in which the settings stay or a lease is stored. -/
theorem AppliedInv.moved {s next : System} (inv : AppliedInv s) {l : MaintLabel}
    (creation : CreationInv next) (clean : next.maint.pc.Clean)
    (moves : MaintApplies s.e next.e s.maint next.maint l) : AppliedInv next := by
  cases moves with
  | started env same here live goes =>
      apply AppliedInv.away creation clean (congrArg MaintPc.stage goes) (.inr (.inl rfl))
      rw [same]
      exact inv.applied
  | ended env same here dead goes =>
      apply AppliedInv.away creation clean (congrArg MaintPc.stage goes) (.inl rfl)
      rw [same]
      exact inv.applied
  | polling _ noLock same here goes =>
      have applied : next.e.leaseApplied = true → Applied next.e := fun marked =>
        (inv.applied (same.keeps.applied marked)).of_settings same.settings
      rcases goes with polling | exited
      · exact .away creation clean polling (.inr (.inl rfl)) applied
      · exact .away creation clean (congrArg MaintPc.stage exited) (.inl rfl) applied
  | locked now sent here polls =>
      rcases maintLock_decides polls with ⟨client, decides⟩
      have applied : next.e.leaseApplied = true → Applied next.e := by
        rw [client]
        exact fun marked => (inv.applied marked).of_settings rfl
      rcases decides with ⟨decided, goes⟩ | ⟨-, settled⟩
      · refine ⟨creation, clean, applied, ?_, ?_, ?_⟩
        · rw [goes]
          nofun
        · rw [goes]
          rintro filled ⟨⟩
          exact ⟨next.e.dhcp, decided.1, rfl⟩
        · rw [goes]
          nofun
      · exact .away creation clean settled (.inr (.inr rfl)) applied
  | entered env filled same here ok goes =>
      have known := inv.applying filled (by rw [here]; rfl)
      refine ⟨creation, clean, ?_, ?_, ?_, ?_⟩
      · rw [same]
        exact inv.applied
      · rw [goes]
        nofun
      · rw [goes]
        nofun
      · rw [goes]
        rintro _ ⟨⟩
        exact known
  | refused env filled same here failed goes =>
      apply AppliedInv.away creation clean goes (.inr (.inr rfl))
      rw [same]
      exact inv.applied
  | stored env filled here stores goes =>
      have applied : Applied next.e := by
        rcases inv.storing filled (by rw [here]; rfl) with ⟨d, active, rfl⟩
        rw [stores]
        exact ⟨d, (storeLease_applies s.e active).1⟩
      refine ⟨creation, clean, fun _ => applied, fun _ => applied, ?_, ?_⟩
      · rw [goes]
        nofun
      · rw [goes]
        nofun
  | marked env here settings dhcp goes =>
      have applied := (inv.marking here).of_settings settings
      rcases goes with marking | settled
      · refine ⟨creation, clean, fun _ => applied, fun _ => applied, ?_, ?_⟩
        · rw [marking]
          nofun
        · rw [marking]
          nofun
      · exact .away creation clean settled (.inr (.inr rfl)) fun _ => applied
  | settled env keeps here inside goes =>
      apply AppliedInv.away creation clean goes (.inr (.inr rfl))
      exact fun marked => (inv.applied (keeps.applied marked)).of_settings keeps.settings
  | returned env same here goes =>
      apply AppliedInv.away creation clean (congrArg MaintPc.stage goes) (.inl rfl)
      rw [same]
      exact inv.applied

theorem engineStep_appliedInv (s : System) (l : Label) (next : System) (inv : AppliedInv s)
    (stepped : engineStep s l = some next) : AppliedInv next := by
  have creation := engineStep_creationInv s l next inv.creation stepped
  cases l with
  | usb l =>
      rcases Option.map_eq_some_iff.mp stepped with ⟨⟨e, t⟩, moved, rfl⟩
      have same := usbStep_settings moved
      exact inv.kept creation same.1 same.2 rfl
  | utun =>
      rcases Option.map_eq_some_iff.mp stepped with ⟨pc, moved, rfl⟩
      exact inv.kept creation rfl id rfl
  | maint l =>
      rcases Option.map_eq_some_iff.mp stepped with ⟨⟨e, t⟩, moved, rfl⟩
      exact inv.moved creation (maintStep_clean moved inv.clean) (maintStep_applies moved inv.clean)
  | main l =>
      have lease := mainStep_lease stepped
      cases mainStep_path stepped with
      | quiet same usb maint | stopping sets usb maint =>
          exact inv.kept creation lease.1 (fun marked => lease.2.1 ▸ marked) maint
      | created early same usb maint =>
          refine ⟨creation, ?_, ?_, ?_, ?_, ?_⟩
          · rw [maint]
            trivial
          · exact fun marked => (inv.applied (lease.2.1 ▸ marked)).of_settings lease.1
          · rw [maint]
            nofun
          · rw [maint]
            nofun
          · rw [maint]
            nofun

/-! ## From an ACK to the end of an iteration -/

/-- How far the first whole iteration has come; it remembers the engine that it began with and
the clock reading that it polled the client with. -/
inductive Phase where
  | awaiting
  | inside (start : AtEngine)
  | polled (start : AtEngine) (now : Nat)
  | done (start : AtEngine) (now : Nat)
deriving DecidableEq

structure Observed where
  sys : System
  phase : Phase

def Phase.behind (s : System) (l : Label) : Phase → Phase
  | .awaiting =>
      match s.maint.pc, l with
      | .head, .maint (.run _) => if s.e.running then .inside s.e else .awaiting
      | _, _ => .awaiting
  | .inside start =>
      match l with
      | .maint (.lock now _) => .polled start now
      | _ => .inside start
  | .polled start now =>
      match s.maint.pc, l with
      | .tail, .maint (.run _) => .done start now
      | _, _ => .polled start now
  | .done start now => .done start now

/-- The engine is observed until the iteration is over. -/
def observedStep : Step Observed Label
  | ⟨_, .done _ _⟩, _ => none
  | ⟨s, phase⟩, l => (engineStep s l).map fun sys => ⟨sys, phase.behind s l⟩

/-- `at_net_apply_lease` succeeds where the iteration calls it. -/
def applySucceeds (o : Observed) (env : Env) : Bool :=
  match o.phase, o.sys.maint.pc with
  | .polled _ _, .applyNet _ => env.ok
  | _, _ => true

/-- No frame comes, and in the iteration `at_net_apply_lease` succeeds. -/
def Quiet (o : Observed) : Label → Prop
  | .usb (.frame _) => False
  | .maint (.run env) => applySucceeds o env = true
  | _ => True

/-- The condition under which the iteration brings the copies together: by its clock the lease
has not run out; it has a gateway, or none was ever stored; and the test of the thread finds it
new, or it is the applied one already. -/
def WillFollow (start : AtEngine) (now : Nat) : Prop :=
  leaseActive (advanceRenewState start.dhcp now) = true ∧
    (start.dhcp.router ≠ 0 ∨ start.gwIp = 0) ∧
    (start.leaseApplied = false ∨
      start.net.ip ≠ (atDhcpLease (advanceRenewState start.dhcp now)).ip ∨
      start.net = filledLease (atDhcpLease (advanceRenewState start.dhcp now)))

/-- The settings behind the decision. -/
def Decided (start : AtEngine) (s : Settings) (d : AtDhcp) : Prop :=
  Reapplies start.leaseApplied start.net d ∧ AppliedFrom s d ∧
      s.gwIp = (if d.router ≠ 0 then d.router else start.gwIp) ∨
    ¬ Reapplies start.leaseApplied start.net d ∧ s = start.settings

/-- The client as the iteration has polled it. -/
def PolledFrom (start : AtEngine) (now : Nat) (d : AtDhcp) : Prop :=
  ∃ sent, d = (atDhcpWantTx start.dhcp 1518 now sent).1

/-- What is known of the iteration. -/
def Phase.Inv (s : System) : Phase → Prop
  | .awaiting => True
  | .inside start =>
      Applied start ∧ SameLease start s.e ∧
        (s.maint.pc.stage = .polling ∨ s.maint.pc = .exited) ∧
        (s.maint.pc = .lock → s.maint.leased = start.leaseApplied)
  | .polled start now =>
      Applied start ∧ PolledFrom start now s.e.dhcp ∧
        (Reapplies start.leaseApplied start.net s.e.dhcp ∧ s.e.settings = start.settings ∧
            (s.maint.pc.stage = .applying (filledLease (atDhcpLease s.e.dhcp)) ∨
              s.maint.pc.stage = .storing (filledLease (atDhcpLease s.e.dhcp))) ∨
          Decided start s.e.settings s.e.dhcp ∧
            (s.maint.pc.stage = .marking ∨ s.maint.pc.stage = .settled))
  | .done start now => Applied start ∧ PolledFrom start now s.e.dhcp ∧
      Decided start s.e.settings s.e.dhcp

structure ObservedInv (o : Observed) : Prop where
  inv : AppliedInv o.sys
  applied : Applied o.sys.e
  idle : o.sys.usb.pc.Idle
  phase : o.phase.Inv o.sys

/-- The other threads leave the iteration where it is. -/
theorem Phase.Inv.kept {s next : System} {phase : Phase} (inv : phase.Inv s)
    (same : SameLease s.e next.e) (maint : next.maint = s.maint) : phase.Inv next := by
  cases phase with
  | awaiting => trivial
  | inside start =>
      rcases inv with ⟨applied, lease, here⟩
      rw [Phase.Inv, maint]
      exact ⟨applied, lease.trans same, here⟩
  | polled start now =>
      rw [Phase.Inv, maint, same.dhcp, same.settings]
      exact inv
  | done start now =>
      rw [Phase.Inv, same.dhcp, same.settings]
      exact inv

theorem atDhcpLease_idle {d : AtDhcp} (idle : leaseActive d = false) : atDhcpLease d = .empty :=
  if_pos (by rw [idle]; rfl)

/-- The iteration before its poll. -/
theorem Phase.Inv.inside {s next : System} {start : AtEngine} {l : MaintLabel}
    (inv : (Phase.inside start).Inv s)
    (moves : MaintApplies s.e next.e s.maint next.maint l) :
    ((Phase.inside start).behind s (.maint l)).Inv next := by
  rcases inv with ⟨applied, lease, here, loaded⟩
  have elsewhere {stage : Stage} (at_ : s.maint.pc.stage = stage) (other : stage ≠ .polling)
      (inside : stage ≠ .outside) : False := by
    rcases here with polling | exited
    · exact other (at_.symm.trans polling)
    · rw [exited] at at_
      exact inside at_.symm
  cases moves with
  | started env same at_ | ended env same at_ =>
      rw [at_] at here
      rcases here with polling | exited
      · cases polling
      · cases exited
  | polling _ noLock same at_ goes leased =>
      have stays : (Phase.inside start).behind s (.maint l) = .inside start := by
        cases l with
        | lock now sent => exact absurd rfl (noLock now sent)
        | run env | traffic idle env => rfl
      rw [stays]
      exact ⟨applied, lease.trans same, goes, fun lock => (leased lock).trans lease.applied⟩
  | locked now sent at_ polls =>
      rcases maintLock_decides polls with ⟨client, decides⟩
      have settings : next.e.settings = start.settings := by
        rw [client]
        exact lease.settings
      have net : s.e.net = start.net := congrArg Settings.net lease.settings
      rw [loaded at_, net] at decides
      refine ⟨applied, ⟨sent, ?_⟩, ?_⟩
      · rw [client, ← lease.dhcp]
      · rcases decides with ⟨decided, goes⟩ | ⟨refused, settled⟩
        · exact .inl ⟨decided, settings, .inl (congrArg MaintPc.stage goes)⟩
        · exact .inr ⟨.inr ⟨refused, settings⟩, .inr settled⟩
  | entered env filled same at_ | refused env filled same at_ =>
      exact (elsewhere (congrArg MaintPc.stage at_) nofun nofun).elim
  | stored env filled at_ | returned env same at_ =>
      exact (elsewhere (congrArg MaintPc.stage at_) nofun nofun).elim
  | marked env at_ => exact (elsewhere at_ nofun nofun).elim
  | settled env keeps at_ => exact (elsewhere at_ nofun nofun).elim

/-- The iteration behind its poll. -/
theorem Phase.Inv.polled {s next : System} {start : AtEngine} {now : Nat} {l : MaintLabel}
    (inv : (Phase.polled start now).Inv s)
    (quiet : Quiet ⟨s, .polled start now⟩ (.maint l))
    (moves : MaintApplies s.e next.e s.maint next.maint l) :
    ((Phase.polled start now).behind s (.maint l)).Inv next := by
  rcases inv with ⟨applied, client, here⟩
  have stays (inside : s.maint.pc ≠ .tail) :
      (Phase.polled start now).behind s (.maint l) = .polled start now := by
    rw [Phase.behind]
    exact fun _ tail _ => inside tail
  have elsewhere {stage : Stage} (at_ : s.maint.pc.stage = stage)
      (early : stage = .outside ∨ stage = .polling) : False := by
    rcases here with ⟨-, -, applying | storing⟩ | ⟨-, marking | settled⟩
    · rcases early with rfl | rfl <;> cases applying.symm.trans at_
    · rcases early with rfl | rfl <;> cases storing.symm.trans at_
    · rcases early with rfl | rfl <;> cases marking.symm.trans at_
    · rcases early with rfl | rfl <;> cases settled.symm.trans at_
  cases moves with
  | started env same at_ | ended env same at_ =>
      exact (elsewhere (congrArg MaintPc.stage at_) (.inl rfl)).elim
  | polling _ noLock same at_ => exact (elsewhere at_ (.inr rfl)).elim
  | locked now sent at_ => exact (elsewhere (congrArg MaintPc.stage at_) (.inr rfl)).elim
  | entered env filled same at_ ok goes =>
      rw [stays (by rw [at_]; nofun), Phase.Inv, same]
      refine ⟨applied, client, ?_⟩
      rw [at_] at here
      rcases here with ⟨decided, settings, applying | storing⟩ | ⟨-, marking | settled⟩
      · cases applying
        exact .inl ⟨decided, settings, .inr (congrArg MaintPc.stage goes)⟩
      · cases storing
      · cases marking
      · cases settled
  | refused env filled same at_ failed goes =>
      have ok : env.ok = true := by
        simpa [Quiet, applySucceeds, at_] using quiet
      cases ok.symm.trans failed
  | stored env filled at_ stores goes =>
      rw [stays (by rw [at_]; nofun), Phase.Inv, stores]
      refine ⟨applied, client, ?_⟩
      rw [at_] at here
      rcases here with ⟨decided, settings, applying | storing⟩ | ⟨-, marking | settled⟩
      · cases applying
      · cases storing
        right
        have applies := storeLease_applies s.e decided.1
        refine ⟨.inl ⟨decided, applies.1, ?_⟩, .inl goes⟩
        have gwIp : s.e.gwIp = start.gwIp := congrArg Settings.gwIp settings
        rw [← gwIp]
        exact applies.2
      · cases marking
      · cases settled
  | marked env at_ settings dhcp goes =>
      have inside : s.maint.pc ≠ .tail := by
        intro tail
        rw [tail] at at_
        cases at_
      rw [stays inside, Phase.Inv, dhcp, settings]
      refine ⟨applied, client, ?_⟩
      rcases here with ⟨-, -, applying | storing⟩ | ⟨decided, -⟩
      · cases applying.symm.trans at_
      · cases storing.symm.trans at_
      · exact .inr ⟨decided, goes⟩
  | settled env keeps at_ inside goes =>
      rw [stays inside, Phase.Inv, keeps.dhcp, keeps.settings]
      refine ⟨applied, client, ?_⟩
      rcases here with ⟨-, -, applying | storing⟩ | ⟨decided, -⟩
      · cases applying.symm.trans at_
      · cases storing.symm.trans at_
      · exact .inr ⟨decided, .inr goes⟩
  | returned env same at_ =>
      have isOver : (Phase.polled start now).behind s (.maint (.run env)) = .done start now := by
        rw [Phase.behind]
        exact at_
      rw [isOver, Phase.Inv, same]
      refine ⟨applied, client, ?_⟩
      rw [at_] at here
      rcases here with ⟨-, -, applying | storing⟩ | ⟨decided, -⟩
      · cases applying
      · cases storing
      · exact decided

theorem MaintApplies.applied {s next : System} {l : MaintLabel} (inv : AppliedInv s)
    (applied : Applied s.e) (moves : MaintApplies s.e next.e s.maint next.maint l) :
    Applied next.e := by
  cases moves with
  | started env same | ended env same | entered env filled same | refused env filled same
  | returned env same =>
      rw [same]
      exact applied
  | polling _ noLock same => exact applied.of_settings same.settings
  | locked now sent here polls =>
      rw [(maintLock_decides polls).1]
      exact applied.of_settings rfl
  | stored env filled here stores =>
      rcases inv.storing filled (by rw [here]; rfl) with ⟨d, active, rfl⟩
      rw [stores]
      exact ⟨d, (storeLease_applies s.e active).1⟩
  | marked env here settings => exact applied.of_settings settings
  | settled env keeps => exact applied.of_settings keeps.settings

/-- An iteration begins in a step from the head of the loop. -/
theorem Phase.behind_awaiting (s : System) (l : Label) :
    Phase.awaiting.behind s l = .awaiting ∨
      Phase.awaiting.behind s l = .inside s.e ∧ s.maint.pc = .head := by
  unfold Phase.behind
  dsimp only
  split
  · split_ifs
    · exact .inr ⟨rfl, ‹_›⟩
    · exact .inl rfl
  · exact .inl rfl

/-- The iteration begins with what is applied. -/
theorem Phase.Inv.awaiting {s next : System} {l : MaintLabel} (applied : Applied s.e)
    (moves : MaintApplies s.e next.e s.maint next.maint l) :
    (Phase.awaiting.behind s (.maint l)).Inv next := by
  rcases Phase.behind_awaiting s (.maint l) with waits | ⟨begins, head⟩
  · rw [waits]
    trivial
  · rw [begins]
    cases moves with
    | started env same here live goes =>
        rw [Phase.Inv, goes, same]
        exact ⟨applied, .refl s.e, .inl rfl, nofun⟩
    | ended env same here dead goes =>
        rw [Phase.Inv, goes, same]
        exact ⟨applied, .refl s.e, .inr rfl, nofun⟩
    | locked now sent here | entered env filled same here | refused env filled same here
    | stored env filled here | returned env same here => cases head.symm.trans here
    | polling _ noLock same here | marked env here | settled env keeps here =>
        rw [head] at here
        cases here

/-- Behind the start of an iteration all threads exist. -/
theorem Phase.Inv.created {s : System} {phase : Phase} (inv : phase.Inv s)
    (begun : phase ≠ .awaiting) (open_ : ∀ start now, phase ≠ .done start now) :
    s.maint.pc ≠ .notCreated := by
  intro missing
  cases phase with
  | awaiting => exact begun rfl
  | inside start =>
      rw [Phase.Inv, missing] at inv
      rcases inv with ⟨-, -, polling | exited, -⟩
      · cases polling
      · cases exited
  | polled start now =>
      rw [Phase.Inv, missing] at inv
      rcases inv with ⟨-, -, ⟨-, -, applying | storing⟩ | ⟨-, marking | settled⟩⟩
      · cases applying
      · cases storing
      · cases marking
      · cases settled
  | done start now => exact open_ start now rfl

/-- Each step of the observation keeps what is known. -/
theorem observedStep_inv (o : Observed) (l : Label) (next : Observed) (known : ObservedInv o)
    (quiet : Quiet o l) (stepped : observedStep o l = some next) : ObservedInv next := by
  rcases o with ⟨s, phase⟩
  have open_ : ∀ start now, phase ≠ .done start now := by
    rintro start now rfl
    cases stepped
  have observed : (engineStep s l).map (fun sys => (⟨sys, phase.behind s l⟩ : Observed)) =
      some next := by
    cases phase with
    | done start now => exact absurd rfl (open_ start now)
    | _ => exact stepped
  rcases Option.map_eq_some_iff.mp observed with ⟨sys, step, rfl⟩
  rcases known with ⟨inv, applied, idle, known⟩
  have kept := engineStep_appliedInv s l sys inv step
  cases l with
  | usb l =>
      rcases Option.map_eq_some_iff.mp step with ⟨⟨e, t⟩, moved, rfl⟩
      have same := usbStep_idle moved idle (by rintro frame rfl; exact quiet)
      have stays : phase.behind s (.usb l) = phase := by
        cases phase <;> simp [Phase.behind]
      rw [stays]
      exact ⟨kept, applied.of_settings same.1.settings, same.2, known.kept same.1 rfl⟩
  | utun =>
      rcases Option.map_eq_some_iff.mp step with ⟨pc, moved, rfl⟩
      have stays : phase.behind s .utun = phase := by
        cases phase <;> simp [Phase.behind]
      rw [stays]
      exact ⟨kept, applied, idle, known.kept (.refl s.e) rfl⟩
  | maint l =>
      rcases Option.map_eq_some_iff.mp step with ⟨⟨e, t⟩, moved, rfl⟩
      have moves := maintStep_applies moved inv.clean
      have after : (phase.behind s (.maint l)).Inv { s with e := e, maint := t } := by
        cases phase with
        | awaiting => exact .awaiting applied moves
        | inside start => exact known.inside moves
        | polled start now => exact known.polled quiet moves
        | done start now => exact absurd rfl (open_ start now)
      exact ⟨kept, moves.applied inv applied, idle, after⟩
  | main l =>
      have lease := mainStep_lease step
      have usb : sys.usb.pc.Idle := by
        rcases (mainStep_path step).gateway.2 with same | started
        · rw [same]
          exact idle
        · rw [started]
          trivial
      have stays : phase.behind s (.main l) = phase := by
        cases phase <;> simp [Phase.behind]
      rw [stays]
      refine ⟨kept, applied.of_settings lease.1, usb, ?_⟩
      by_cases waits : phase = .awaiting
      · rw [waits]
        trivial
      · have late : ¬ s.main.pc.Early := fun early =>
          known.created waits open_ (inv.creation.maint early)
        rcases lease.2.2 late with ⟨same, -, maint⟩
        exact known.kept same maint

/-! ## The law -/

theorem transmit_lease (d : AtDhcp) (cap now : Nat) (sent : Timeval) :
    leaseActive (transmit d cap now sent).1 = leaseActive d ∧
      atDhcpLease (transmit d cap now sent).1 = atDhcpLease d ∧
      (transmit d cap now sent).1.router = d.router := by
  rcases transmit_spec d cap now sent with same | ⟨-, sends⟩
  · rw [same]
    exact ⟨rfl, rfl, rfl⟩
  · rw [sends]
    have active : leaseActive { d with
        lastTx := sent
        state := if d.state = .init then .selecting else d.state
        backoffMs := nextBackoff d.backoffMs } = leaseActive d := by
      by_cases first : d.state = .init
      · simp [leaseActive, first]
      · rw [if_neg first]
        rfl
    refine ⟨active, ?_, rfl⟩
    rw [atDhcpLease, atDhcpLease, active]
    rfl

theorem advanceRenewState_router (d : AtDhcp) (now : Nat) :
    (advanceRenewState d now).router = d.router := by
  rcases advanceRenewState_cases d now with same | ⟨-, reset⟩ | ⟨-, state, -, renewing⟩
  · rw [same]
  · rw [reset]
    rfl
  · rw [renewing]

/-- An address that is applied does not come from an empty lease. -/
theorem AppliedFrom.ip_ne_nil {s : Settings} {d : AtDhcp} (applied : AppliedFrom s d) :
    s.net.ip ≠ [] := by
  rw [applied.net, filledLease_ip, atDhcpLease_ip applied.active]
  exact ip4Str_ne_nil _

/-- The settings behind the decision follow the lease exactly under the condition. -/
theorem Decided.follows_iff {start e : AtEngine} {now : Nat} (applied : Applied start)
    (client : PolledFrom start now e.dhcp) (decided : Decided start e.settings e.dhcp) :
    FollowsLease e ↔ WillFollow start now := by
  rcases client with ⟨sent, client⟩
  have lease := transmit_lease (advanceRenewState start.dhcp now) 1518 now sent
  rw [← atDhcpWantTx, ← client, advanceRenewState_router] at lease
  rcases lease with ⟨active, texts, router⟩
  rw [WillFollow, ← active, ← texts, ← router]
  rcases decided with ⟨⟨live, test⟩, from_, gwIp⟩ | ⟨refused, same⟩
  · constructor
    · intro follows
      refine ⟨live, ?_, test.imp_right .inl⟩
      have stored := follows.gwIp.symm.trans gwIp
      split_ifs at stored with routed
      · exact .inl routed
      · exact .inr (stored.symm.trans (not_not.mp routed))
    · rintro ⟨-, routed, -⟩
      refine ⟨from_.net, from_.hostIp, gwIp.trans ?_⟩
      split_ifs with some_
      · rfl
      · exact (routed.resolve_left some_).trans (not_not.mp some_).symm
  · have net : e.net = start.net := congrArg Settings.net same
    have gwIp : e.gwIp = start.gwIp := congrArg Settings.gwIp same
    rcases applied with ⟨d, from_⟩
    constructor
    · intro follows
      have filled := net.symm.trans follows.net
      cases live : leaseActive e.dhcp with
      | false =>
          rw [atDhcpLease_idle live] at filled
          exact absurd (congrArg AtNetInfo.ip filled) from_.ip_ne_nil
      | true =>
          refine ⟨rfl, ?_, .inr (.inr filled)⟩
          by_cases routed : e.dhcp.router = 0
          · exact .inr (gwIp.symm.trans (follows.gwIp.trans routed))
          · exact .inl routed
    · rintro ⟨live, routed, test⟩
      have filled : start.net = filledLease (atDhcpLease e.dhcp) := by
        rcases test with fresh | other | filled
        · exact absurd ⟨live, .inl fresh⟩ refused
        · exact absurd ⟨live, .inr other⟩ refused
        · exact filled
      have current := from_.same live filled
      refine ⟨net.trans filled, (congrArg Settings.hostIp same).trans current.hostIp, ?_⟩
      rw [gwIp]
      by_cases some_ : e.dhcp.router = 0
      · exact (routed.resolve_left (not_not.mpr some_)).trans some_.symm
      · exact current.gwIp some_

/-- Behind an accepted ACK the USB thread goes back to its loop. -/
theorem usbStep_acked {e next : AtEngine} {t after : UsbThread} {frame : Bytes} {r : Reply}
    {now : Nat} (stepped : usbStep e t (.dhcpFrame now) = some (next, after))
    (here : t.pc = .dhcp frame) (reply : replyOf e.dhcp.xid frame = some r)
    (ack : r.msg = dhcpAck) (named : r.yiaddr ≠ 0) :
    next.settings = e.settings ∧ after.pc = .body := by
  have sign : ¬ (atDhcpOnFrame e.dhcp frame now).2 < 0 := by
    have other : ¬ (dhcpAck = dhcpOffer ∧ r.yiaddr ≠ 0) := fun offer => absurd offer.1 (by decide)
    rw [atDhcpOnFrame_some reply, onReply, ack, if_neg other, if_pos ⟨rfl, named⟩, onAck]
    dsimp only
    split_ifs <;> decide
  rcases t with ⟨pc, looping⟩
  cases here
  simp only [usbStep, if_neg sign] at stepped
  split at stepped <;> cases stepped <;> exact ⟨rfl, rfl⟩

/-- **The applied settings follow the lease.**  An ACK is accepted while a lease is applied;
behind the first whole iteration of the maintenance thread, with no further frame, the applied
settings are those of the client's lease exactly if the condition holds of the state in which
the iteration began. -/
theorem applied_lease_followed_iff {deviceMac : Mac} {xid : UInt32} {before after : List Label}
    {s acked t : System} {frame : Bytes} {r : Reply} {now clock : Nat} {start : AtEngine}
    (reached : run engineStep (System.start deviceMac xid) before = some s)
    (applied : s.e.leaseApplied = true) (here : s.usb.pc = .dhcp frame)
    (reply : replyOf s.e.dhcp.xid frame = some r) (ack : r.msg = dhcpAck) (named : r.yiaddr ≠ 0)
    (received : engineStep s (.usb (.dhcpFrame now)) = some acked)
    (quiet : Guarded observedStep Quiet ⟨acked, .awaiting⟩ after)
    (iterated : run observedStep ⟨acked, .awaiting⟩ after = some ⟨t, .done start clock⟩) :
    FollowsLease t.e ↔ WillFollow start clock := by
  have inv := run_invariant engineStep_appliedInv (AppliedInv.start deviceMac xid) reached
  have inv' := engineStep_appliedInv _ _ _ inv received
  rcases Option.map_eq_some_iff.mp received with ⟨⟨e, usb⟩, moved, rfl⟩
  rcases usbStep_acked moved here reply ack named with ⟨settings, body⟩
  have first : ObservedInv ⟨{ s with e := e, usb := usb }, .awaiting⟩ := by
    refine ⟨inv', (inv.applied applied).of_settings settings, ?_, trivial⟩
    change usb.pc.Idle
    rw [body]
    trivial
  have known := run_guarded_invariant observedStep_inv first quiet iterated
  rcases known.phase with ⟨applied, client, decided⟩
  exact decided.follows_iff applied client

/-! ## A renewal with another router -/

instance (start : AtEngine) (now : Nat) : Decidable (WillFollow start now) :=
  inferInstanceAs (Decidable (_ ∧ (_ ∨ _) ∧ (_ ∨ _ ∨ _)))

instance (o : Observed) : DecidablePred (Quiet o)
  | .usb (.frame _) => .isFalse id
  | .usb (.run _) | .usb .goodRead | .usb (.dhcpFrame _) | .usb (.hardFail _) | .usb .bodyDone
  | .utun | .main _ | .maint (.lock _ _) | .maint (.traffic _ _) => .isTrue trivial
  | .maint (.run _) => inferInstanceAs (Decidable (_ = true))

/-- The reply to a renewal. -/
def renewal (yiaddr router : UInt32) : Bytes :=
  buildReply (atDhcpCreate (hostMacOf sampleMac) 7) dhcpAck yiaddr router [0, 0, 0x0e, 0x10]

/-- The first lease is up, and a reply has come. -/
def renewing (ack : Bytes) : List Label :=
  leasing ++ List.replicate 6 fineMaint ++ [.usb (.frame ack), fineUsb, fineUsb]

/-- An iteration, with `rest` steps behind the poll of the client. -/
def iterating (rest : Nat) : List Label :=
  [fineMaint, fineMaint, fineMaint, .maint (.lock 2500 ⟨2, 500000⟩)] ++
    List.replicate rest fineMaint

/-- The engine with the reply, behind its ACK and behind the iteration. -/
def renewed (ack : Bytes) (rest : Nat) : Option (System × System × Observed) :=
  (run engineStep (System.start sampleMac 7) (renewing ack)).bind fun s =>
    (engineStep s (.usb (.dhcpFrame 2100))).bind fun acked =>
      (run observedStep ⟨acked, .awaiting⟩ (iterating rest)).map fun o => (s, acked, o)

theorem renewed_eq_some {ack : Bytes} {rest : Nat} {s acked : System} {o : Observed}
    (found : renewed ack rest = some (s, acked, o)) :
    run engineStep (System.start sampleMac 7) (renewing ack) = some s ∧
      engineStep s (.usb (.dhcpFrame 2100)) = some acked ∧
      run observedStep ⟨acked, .awaiting⟩ (iterating rest) = some o := by
  rcases Option.bind_eq_some_iff.mp found with ⟨s', reached, found⟩
  rcases Option.bind_eq_some_iff.mp found with ⟨acked', received, found⟩
  rcases Option.map_eq_some_iff.mp found with ⟨o', iterated, same⟩
  cases same
  exact ⟨reached, received, iterated⟩

def Phase.verdict : Phase → Option Bool
  | .done start now => some (decide (WillFollow start now))
  | _ => none

theorem Phase.exists_of_verdict {phase : Phase} {verdict : Bool}
    (found : phase.verdict = some verdict) :
    ∃ start now, phase = .done start now ∧ decide (WillFollow start now) = verdict := by
  cases phase with
  | done start now => exact ⟨start, now, rfl, Option.some.inj found⟩
  | awaiting | inside start | polled start now => cases found

/-- A reply with another address is applied as a whole. -/
theorem new_address_followed :
    ∃ s acked t start clock, renewed (renewal 0x05e20b0a 0x03e20b0a) 10 =
      some (s, acked, ⟨t, .done start clock⟩) ∧ FollowsLease t.e := by
  have facts : (renewed (renewal 0x05e20b0a 0x03e20b0a) 10).map (fun (s, acked, o) =>
      (s.e.leaseApplied, s.usb.pc, s.e.dhcp.xid,
        decide (Guarded observedStep Quiet ⟨acked, .awaiting⟩ (iterating 10)), o.phase.verdict)) =
      some (true, .dhcp (renewal 0x05e20b0a 0x03e20b0a), 7, true, some true) := by
    decide +kernel
  have reply : (replyOf 7 (renewal 0x05e20b0a 0x03e20b0a)).map (fun r => (r.msg, r.yiaddr)) =
      some (dhcpAck, 0x05e20b0a) := by
    decide +kernel
  rcases Option.map_eq_some_iff.mp facts with ⟨⟨s, acked, ⟨t, phase⟩⟩, found, fields⟩
  rcases Option.map_eq_some_iff.mp reply with ⟨r, read, parts⟩
  simp only [Prod.mk.injEq, decide_eq_true_eq] at fields parts
  rcases fields with ⟨applied, here, xid, quiet, verdict⟩
  rcases Phase.exists_of_verdict verdict with ⟨start, clock, rfl, will⟩
  rcases renewed_eq_some found with ⟨reached, received, iterated⟩
  refine ⟨s, acked, t, start, clock, found, ?_⟩
  rw [← xid] at read
  apply (applied_lease_followed_iff reached applied here read parts.1 _ received quiet
    iterated).mpr
  · exact of_decide_eq_true will
  · rw [parts.2]
    decide

/-- A reply with the same address and another router is not applied: the gateway stays the
old one. -/
theorem new_router_not_followed :
    ¬ ∀ deviceMac xid before after s acked t frame r now clock start,
      run engineStep (System.start deviceMac xid) before = some s → s.e.leaseApplied = true →
      s.usb.pc = .dhcp frame → replyOf s.e.dhcp.xid frame = some r → r.msg = dhcpAck →
      r.yiaddr ≠ 0 → engineStep s (.usb (.dhcpFrame now)) = some acked →
      Guarded observedStep Quiet ⟨acked, .awaiting⟩ after →
      run observedStep ⟨acked, .awaiting⟩ after = some ⟨t, .done start clock⟩ →
      FollowsLease t.e := by
  intro claimed
  have facts : (renewed (renewal 0x02e20b0a 0x03e20b0a) 3).map (fun (s, acked, o) =>
      (s.e.leaseApplied && decide (Guarded observedStep Quiet ⟨acked, .awaiting⟩ (iterating 3)),
        s.usb.pc, s.e.dhcp.xid, o.phase.verdict,
        decide (o.sys.e.gwIp = o.sys.e.dhcp.router))) =
      some (true, .dhcp (renewal 0x02e20b0a 0x03e20b0a), 7, some false, false) := by
    decide +kernel
  have reply : (replyOf 7 (renewal 0x02e20b0a 0x03e20b0a)).map (fun r => (r.msg, r.yiaddr)) =
      some (dhcpAck, 0x02e20b0a) := by
    decide +kernel
  rcases Option.map_eq_some_iff.mp facts with ⟨⟨s, acked, ⟨t, phase⟩⟩, found, fields⟩
  rcases Option.map_eq_some_iff.mp reply with ⟨r, read, parts⟩
  simp only [Prod.mk.injEq, Bool.and_eq_true, decide_eq_true_eq, decide_eq_false_iff_not]
    at fields parts
  rcases fields with ⟨⟨applied, quiet⟩, here, xid, verdict, other⟩
  rcases Phase.exists_of_verdict verdict with ⟨start, clock, rfl, -⟩
  rcases renewed_eq_some found with ⟨reached, received, iterated⟩
  rw [← xid] at read
  have named : r.yiaddr ≠ 0 := by
    rw [parts.2]
    decide
  have follows := claimed sampleMac 7 _ _ s acked t _ r 2100 clock start reached applied here read
    parts.1 named received quiet iterated
  exact other follows.gwIp

end WiredTethering.Engine
