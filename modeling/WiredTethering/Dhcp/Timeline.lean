import WiredTethering.Dhcp.Frame

/-!
# The timeline of a lease

From an accepted ACK on, the state of a client that receives nothing is decided
by the age of the lease at its last poll (`Timeline`): bound up to T1, renewing
up to T2, rebinding up to the expiry, searching from then on.  Each poll keeps
this, however many times the polls skip over T1 or T2.
-/

namespace WiredTethering.Dhcp

open WiredTethering.Memory
open WiredTethering.Tlv

/-! ## The timers -/

/-- T1 behind the first check of `apply_lease_timers`. -/
def halfLease (lease t1 : UInt32) : UInt32 :=
  if t1 = 0 ∨ lease ≤ t1 then lease / 2 else t1

/-- T2 behind the second check. -/
def mostLease (lease t1 t2 : UInt32) : UInt32 :=
  if t2 = 0 ∨ t2 ≤ t1 ∨ lease ≤ t2 then lease - lease / 8 else t2

/-- T1 as `apply_lease_timers` leaves it. -/
def renewAt (lease t1 : UInt32) : UInt32 :=
  if halfLease lease t1 = 0 then 1 else halfLease lease t1

/-- T2 as `apply_lease_timers` leaves it. -/
def rebindAt (lease t1 t2 : UInt32) : UInt32 :=
  if mostLease lease (halfLease lease t1) t2 ≤ renewAt lease t1 then renewAt lease t1 + 1
  else mostLease lease (halfLease lease t1) t2

/-- The timers of a finite lease are ordered and, when the lease has two seconds,
end with it. -/
theorem timers_ordered {lease : UInt32} (t1 t2 : UInt32) (some_time : lease ≠ 0)
    (finite : lease ≠ leaseInfinite) :
    1 ≤ renewAt lease t1 ∧ renewAt lease t1 < rebindAt lease t1 t2 ∧
      (rebindAt lease t1 t2 ≤ lease ∨ rebindAt lease t1 t2 ≤ 2) := by
  have half : halfLease lease t1 < lease := by grind [halfLease]
  have most : mostLease lease (halfLease lease t1) t2 ≤ lease := by grind [mostLease]
  have positive : 1 ≤ renewAt lease t1 := by grind [renewAt]
  have renew_le : renewAt lease t1 ≤ lease := by grind [renewAt]
  have renew_lt : renewAt lease t1 < lease ∨ lease = 1 := by grind [renewAt]
  grind [rebindAt, leaseInfinite]

/-- The lease length of an ACK: an absent or zero option means one hour. -/
def leaseOf (d : AtDhcp) : UInt32 :=
  if d.leaseSecs = 0 then defaultLease else d.leaseSecs

theorem leaseOf_ne_zero (d : AtDhcp) : leaseOf d ≠ 0 := by
  unfold leaseOf
  split_ifs with none_given
  · decide
  · exact none_given

theorem applyLeaseTimers_infinite {d : AtDhcp} (now : Nat)
    (infinite : leaseOf d = leaseInfinite) :
    applyLeaseTimers d now =
      { d with boundMs := now, leaseSecs := leaseOf d, t1Secs := 0, t2Secs := 0 } :=
  if_pos infinite

theorem applyLeaseTimers_finite {d : AtDhcp} (now : Nat) (finite : leaseOf d ≠ leaseInfinite) :
    applyLeaseTimers d now =
      { d with
        boundMs := now
        leaseSecs := leaseOf d
        t1Secs := renewAt (leaseOf d) d.t1Secs
        t2Secs := rebindAt (leaseOf d) d.t1Secs d.t2Secs } :=
  if_neg finite

/-! ## One poll -/

/-- The state of a lease of a given age in milliseconds. -/
def stateAt (lease : AtDhcp) (age : Nat) : DhcpState :=
  if lease.t2Secs.toNat * 1000 ≤ age then .rebinding
  else if lease.t1Secs.toNat * 1000 ≤ age then .renewing
  else .bound

/-- `d` is what the client `lease`, bound at `lease.boundMs`, has become at the
given age, its transmission times aside. -/
structure Held (lease : AtDhcp) (age : Nat) (d : AtDhcp) : Prop where
  same : ∃ lastTx backoffMs, d =
    { lease with state := stateAt lease age, lastTx := lastTx, backoffMs := backoffMs }

/-- The client has given its lease up and looks for a new one. -/
structure Searching (d : AtDhcp) : Prop where
  state : d.state = .init ∨ d.state = .selecting
  yiaddr : d.yiaddr = 0
  server : d.server = 0

/-- A finite lease with ordered timers. -/
structure Finite (lease : AtDhcp) : Prop where
  finite : lease.leaseSecs ≠ leaseInfinite
  some_time : lease.leaseSecs ≠ 0
  t1_pos : 1 ≤ lease.t1Secs.toNat
  t1_lt_t2 : lease.t1Secs.toNat < lease.t2Secs.toNat

/-- Where a client stands whose lease has a given age. -/
def Timeline (lease : AtDhcp) (age : Nat) (d : AtDhcp) : Prop :=
  if lease.leaseSecs.toNat * 1000 ≤ age then Searching d else Held lease age d

theorem leaseActive_stateAt (lease : AtDhcp) (age : Nat) (lastTx : Timeval) (backoffMs : Nat) :
    leaseActive
      { lease with state := stateAt lease age, lastTx := lastTx, backoffMs := backoffMs } =
        true := by
  simp only [leaseActive, stateAt]
  split_ifs <;> rfl

theorem Searching.not_active {d : AtDhcp} (searching : Searching d) : leaseActive d = false := by
  rcases searching.state with init | selecting
  · simp [leaseActive, init]
  · simp [leaseActive, selecting]

theorem Held.active {lease d : AtDhcp} {age : Nat} (held : Held lease age d) :
    leaseActive d = true := by
  obtain ⟨lastTx, backoffMs, rfl⟩ := held.same
  exact leaseActive_stateAt lease age lastTx backoffMs

theorem stateAt_rebinding {lease : AtDhcp} {age : Nat}
    (reached : lease.t2Secs.toNat * 1000 ≤ age) : stateAt lease age = .rebinding :=
  if_pos reached

theorem stateAt_renewing {lease : AtDhcp} {age : Nat}
    (early : ¬ lease.t2Secs.toNat * 1000 ≤ age) (reached : lease.t1Secs.toNat * 1000 ≤ age) :
    stateAt lease age = .renewing :=
  (if_neg early).trans (if_pos reached)

theorem stateAt_bound {lease : AtDhcp} {age : Nat}
    (early : ¬ lease.t2Secs.toNat * 1000 ≤ age)
    (first : ¬ lease.t1Secs.toNat * 1000 ≤ age) : stateAt lease age = .bound :=
  (if_neg early).trans (if_neg first)

/-- The checks of `advance_renew_state` for a held lease that has not expired:
the states of all ages between two polls may be skipped. -/
theorem advance_held {lease : AtDhcp} {age later : Nat} (finite : Finite lease)
    (elapsed : age ≤ later) (lastTx : Timeval) (backoffMs : Nat) :
    Held lease later
      (if stateAt lease age ≠ .rebinding ∧ lease.t2Secs.toNat * 1000 ≠ 0 ∧
          lease.t2Secs.toNat * 1000 ≤ later then
        { lease with state := .rebinding, lastTx := ⟨0, 0⟩, backoffMs := 1000 }
      else if stateAt lease age = .bound ∧ lease.t1Secs.toNat * 1000 ≠ 0 ∧
          lease.t1Secs.toNat * 1000 ≤ later then
        { lease with state := .renewing, lastTx := ⟨0, 0⟩, backoffMs := 1000 }
      else { lease with state := stateAt lease age, lastTx := lastTx, backoffMs := backoffMs }) := by
  have t1_pos := finite.t1_pos
  have t1_lt_t2 := finite.t1_lt_t2
  by_cases rebind : lease.t2Secs.toNat * 1000 ≤ later
  · by_cases already : lease.t2Secs.toNat * 1000 ≤ age
    · rw [stateAt_rebinding already]
      exact ⟨lastTx, backoffMs, by simp [stateAt_rebinding rebind]⟩
    · have not_yet : stateAt lease age ≠ .rebinding := by
        unfold stateAt
        split_ifs <;> simp
      rw [if_pos ⟨not_yet, by omega, rebind⟩]
      exact ⟨⟨0, 0⟩, 1000, by rw [stateAt_rebinding rebind]⟩
  · have early : ¬ lease.t2Secs.toNat * 1000 ≤ age :=
      fun reached => rebind (Nat.le_trans reached elapsed)
    rw [if_neg (fun reached => rebind reached.2.2)]
    by_cases renew : lease.t1Secs.toNat * 1000 ≤ later
    · by_cases already : lease.t1Secs.toNat * 1000 ≤ age
      · rw [stateAt_renewing early already]
        exact ⟨lastTx, backoffMs, by simp [stateAt_renewing rebind renew]⟩
      · rw [if_pos ⟨stateAt_bound early already, by omega, renew⟩]
        exact ⟨⟨0, 0⟩, 1000, by rw [stateAt_renewing rebind renew]⟩
    · have first : ¬ lease.t1Secs.toNat * 1000 ≤ age :=
        fun reached => renew (Nat.le_trans reached elapsed)
      rw [if_neg (fun reached => renew reached.2.2), stateAt_bound early first]
      exact ⟨lastTx, backoffMs, by rw [stateAt_bound rebind renew]⟩

/-- Advancing brings the client to the age of the poll. -/
theorem advanceRenewState_timeline {lease d : AtDhcp} {age : Nat} (finite : Finite lease)
    (before : Timeline lease age d) (later : Nat) (elapsed : age ≤ later) :
    Timeline lease later (advanceRenewState d (lease.boundMs + later)) := by
  unfold Timeline at before ⊢
  by_cases ranOut : lease.leaseSecs.toNat * 1000 ≤ age
  · rw [if_pos ranOut] at before
    rw [if_pos (Nat.le_trans ranOut elapsed)]
    simpa [advanceRenewState, before.not_active] using before
  · rw [if_neg ranOut] at before
    have active := before.active
    obtain ⟨lastTx, backoffMs, rfl⟩ := before.same
    have some_time : lease.leaseSecs.toNat * 1000 ≠ 0 := by
      intro zero
      apply finite.some_time
      apply UInt32.toNat_inj.mp
      exact (Nat.mul_eq_zero.mp zero).resolve_right (Nat.succ_ne_zero 999)
    unfold advanceRenewState
    rw [active, Bool.not_true, if_neg Bool.false_ne_true, if_neg finite.finite]
    dsimp only
    rw [if_pos (Nat.le_add_right _ _), Nat.add_sub_cancel_left]
    by_cases expired : lease.leaseSecs.toNat * 1000 ≤ later
    · rw [if_pos expired, if_pos ⟨some_time, expired⟩]
      exact ⟨.inl rfl, rfl, rfl⟩
    · rw [if_neg expired, if_neg (fun reached => expired reached.2)]
      exact advance_held finite elapsed lastTx backoffMs

/-- The waiting time behind one of `backoffMs`. -/
def nextBackoff (backoffMs : Nat) : Nat :=
  if backoffMs < 4000 then backoffMs * 2 else 8000

/-- What a transmission needs: it waits for the one before, unless none is noted. -/
structure MaySend (d : AtDhcp) (cap now : Nat) : Prop where
  unbound : d.state ≠ .bound
  finite : ¬ (d.leaseSecs = leaseInfinite ∧ leaseActive d = true)
  waits : d.lastTx ≠ ⟨0, 0⟩ → d.lastTx.ms + d.backoffMs ≤ now
  frame : wantedFrame d cap ≠ []

/-- A transmission changes the send time and the backoff, and the state only from
`INIT`; what it sends is the frame for the state. -/
theorem transmit_spec (d : AtDhcp) (cap now : Nat) (sent : Timeval) :
    transmit d cap now sent = (d, []) ∨
      MaySend d cap now ∧ transmit d cap now sent =
        ({ d with
            lastTx := sent
            state := if d.state = .init then .selecting else d.state
            backoffMs := nextBackoff d.backoffMs }, wantedFrame d cap) := by
  unfold transmit
  by_cases bound : d.state = .bound
  · exact .inl (if_pos bound)
  rw [if_neg bound]
  by_cases infinite : d.leaseSecs = leaseInfinite ∧ leaseActive d = true
  · exact .inl (if_pos infinite)
  rw [if_neg infinite]
  by_cases waiting : (d.lastTx.sec ≠ 0 ∨ d.lastTx.usec ≠ 0) ∧ now < d.lastTx.ms + d.backoffMs
  · exact .inl (if_pos waiting)
  rw [if_neg waiting]
  by_cases unsent : (wantedFrame d cap).length = 0
  · exact .inl (if_pos unsent)
  · refine .inr ⟨⟨bound, infinite, fun noted => ?_, fun empty => ?_⟩, if_neg unsent⟩
    · by_contra early
      apply waiting
      constructor
      · by_contra zero
        push Not at zero
        exact noted (Timeval.ext zero.1 zero.2)
      · exact Nat.not_le.mp early
    · exact unsent (List.length_eq_zero_iff.mpr empty)

/-- What a poll at a given age may send. -/
structure Sends (lease : AtDhcp) (age : Nat) (eth : Bytes) : Prop where
  not_early : age < lease.leaseSecs.toNat * 1000 → lease.t1Secs.toNat * 1000 ≤ age
  renew : age < lease.leaseSecs.toNat * 1000 → age < lease.t2Secs.toNat * 1000 →
    IsRequest eth lease.yiaddr (if lease.server ≠ 0 then lease.server else 0xffffffff) false
  rebind : age < lease.leaseSecs.toNat * 1000 → lease.t2Secs.toNat * 1000 ≤ age →
    IsRequest eth lease.yiaddr 0xffffffff true
  discover : lease.leaseSecs.toNat * 1000 ≤ age → frameMessage eth = some dhcpDiscover

/-- Sending keeps the timeline, and sends what it calls for. -/
theorem transmit_timeline {lease d : AtDhcp} {age : Nat} (finite : Finite lease)
    (here : Timeline lease age d) (cap now : Nat) (sent : Timeval) :
    Timeline lease age (transmit d cap now sent).1 ∧
      ((transmit d cap now sent).2 ≠ [] → Sends lease age (transmit d cap now sent).2) := by
  rcases transmit_spec d cap now sent with silent | ⟨⟨not_bound, -, -, room⟩, sends⟩
  · rw [silent]
    exact ⟨here, fun frame => absurd rfl frame⟩
  · rw [sends]
    dsimp only
    unfold Timeline at here ⊢
    by_cases ranOut : lease.leaseSecs.toNat * 1000 ≤ age
    · rw [if_pos ranOut] at here ⊢
      refine ⟨⟨?_, here.yiaddr, here.server⟩, fun _ => ?_⟩
      · rcases here.state with init | selecting
        · simp [init]
        · simp [selecting]
      · have dead : ¬ age < lease.leaseSecs.toNat * 1000 := Nat.not_lt.mpr ranOut
        exact ⟨fun live => (dead live).elim, fun live => (dead live).elim,
          fun live => (dead live).elim, fun _ => wantedFrame_discover here.state room⟩
    · rw [if_neg ranOut] at here ⊢
      obtain ⟨lastTx, oldBackoff, rfl⟩ := here.same
      dsimp only at not_bound
      have not_init : stateAt lease age ≠ .init := by
        unfold stateAt
        split_ifs <;> simp
      rw [if_neg not_init]
      refine ⟨⟨sent, _, rfl⟩, fun _ => ⟨fun _ => ?_, fun _ early => ?_,
        fun _ reached => ?_, fun expired => absurd expired ranOut⟩⟩
      · by_contra first
        by_cases rebind : lease.t2Secs.toNat * 1000 ≤ age
        · have ordered := finite.t1_lt_t2
          omega
        · exact not_bound (stateAt_bound rebind first)
      · by_cases first : lease.t1Secs.toNat * 1000 ≤ age
        · exact wantedFrame_renewing (stateAt_renewing (Nat.not_le.mpr early) first) room
        · exact absurd (stateAt_bound (Nat.not_le.mpr early) first) not_bound
      · exact wantedFrame_rebinding (stateAt_rebinding reached) room

/-! ## Polls without a message in between -/

/-- The client after a sequence of polls. -/
def afterPolls (d : AtDhcp) (polls : List Poll) : AtDhcp :=
  polls.foldl (fun d p => (p.call d).1) d

/-- One poll moves the client along the timeline of its lease. -/
theorem Poll.call_timeline {lease d : AtDhcp} {age : Nat} (finite : Finite lease)
    (here : Timeline lease age d) (p : Poll) (ordered : lease.boundMs + age ≤ p.now) :
    Timeline lease (p.now - lease.boundMs) (p.call d).1 ∧
      ((p.call d).2 ≠ [] → Sends lease (p.now - lease.boundMs) (p.call d).2) := by
  have advanced := advanceRenewState_timeline finite here (p.now - lease.boundMs) (by omega)
  rw [Nat.add_sub_cancel' (by omega)] at advanced
  exact transmit_timeline finite advanced p.cap p.now p.sent

/-- A sequence of polls does so, too. -/
theorem afterPolls_timeline {lease d : AtDhcp} {age : Nat} (finite : Finite lease)
    (here : Timeline lease age d) {polls : List Poll}
    (ordered : ((lease.boundMs + age) :: polls.map Poll.now).Pairwise (· ≤ ·)) :
    ∃ later, Timeline lease later (afterPolls d polls) ∧
      ∀ t, (∀ now ∈ (lease.boundMs + age) :: polls.map Poll.now, now ≤ t) →
        lease.boundMs + later ≤ t := by
  induction polls generalizing d age with
  | nil => exact ⟨age, here, fun t latest => latest _ List.mem_cons_self⟩
  | cons p polls ih =>
      rw [List.map_cons, List.pairwise_cons] at ordered
      have after := ordered.1 p.now List.mem_cons_self
      have sum : lease.boundMs + (p.now - lease.boundMs) = p.now := by omega
      obtain ⟨later, moved, bound⟩ := ih (p.call_timeline finite here after).1
        (by rw [sum]; exact ordered.2)
      refine ⟨later, moved, fun t latest => bound t fun now member => ?_⟩
      rw [sum, ← List.map_cons] at member
      exact latest now (List.mem_cons_of_mem _ member)

/-- A client with an infinite lease neither changes nor sends. -/
theorem Poll.call_infinite {d : AtDhcp} (bound : d.state = .bound)
    (infinite : d.leaseSecs = leaseInfinite) (p : Poll) : p.call d = (d, []) := by
  have active : leaseActive d = true := by simp [leaseActive, bound]
  have kept : advanceRenewState d p.now = d := by
    simp [advanceRenewState, active, infinite]
  rw [Poll.call, atDhcpWantTx, kept]
  exact if_pos bound

theorem afterPolls_infinite {d : AtDhcp} (bound : d.state = .bound)
    (infinite : d.leaseSecs = leaseInfinite) (polls : List Poll) : afterPolls d polls = d := by
  induction polls with
  | nil => rfl
  | cons p polls ih =>
      change afterPolls (p.call d).1 polls = d
      rw [Poll.call_infinite bound infinite]
      exact ih

/-! ## From the ACK on -/

/-- The frame is an ACK with an address for this client. -/
def AcceptsAck (d : AtDhcp) (eth : Bytes) (yiaddr leaseSecs : UInt32) : Prop :=
  ∃ bootp, bootpReplyAt d.xid eth = some bootp ∧
    (parseOptions d (eth.drop (bootp + dhcpFixed))).2 = dhcpAck ∧
    rd32le eth (bootp + 16) = yiaddr ∧ yiaddr ≠ 0 ∧
    (parseOptions d (eth.drop (bootp + dhcpFixed))).1.leaseSecs = leaseSecs

/-- The client that an accepted ACK leaves. -/
structure Acked (lease : AtDhcp) (now : Nat) (yiaddr leaseSecs : UInt32) : Prop where
  state : lease.state = .bound
  boundMs : lease.boundMs = now
  yiaddr : lease.yiaddr = yiaddr
  leaseSecs : lease.leaseSecs = if leaseSecs = 0 then 3600 else leaseSecs
  timers : lease.leaseSecs ≠ leaseInfinite →
    1 ≤ lease.t1Secs.toNat ∧ lease.t1Secs.toNat < lease.t2Secs.toNat ∧
      lease.t2Secs.toNat ≤ max lease.leaseSecs.toNat 2

theorem onAck_acked (d : AtDhcp) (yiaddr : UInt32) (now : Nat) :
    Acked (onAck d yiaddr now).1 now yiaddr d.leaseSecs := by
  obtain ⟨e, addressed, lease, acked⟩ : ∃ e : AtDhcp, e.yiaddr = yiaddr ∧
      leaseOf e = leaseOf d ∧ (onAck d yiaddr now).1 =
        { applyLeaseTimers e now with state := .bound, backoffMs := 500, lastTx := ⟨0, 0⟩ } := by
    refine ⟨_, ?_, ?_, rfl⟩
    · dsimp only
      split_ifs <;> rfl
    · unfold leaseOf
      dsimp only
      split_ifs <;> rfl
  rw [acked]
  by_cases infinite : leaseOf e = leaseInfinite
  · rw [applyLeaseTimers_infinite now infinite]
    refine ⟨rfl, rfl, addressed, lease, fun finite => absurd infinite finite⟩
  · rw [applyLeaseTimers_finite now infinite]
    refine ⟨rfl, rfl, addressed, lease, fun _ => ?_⟩
    obtain ⟨positive, ordered, inside⟩ :=
      timers_ordered e.t1Secs e.t2Secs (leaseOf_ne_zero e) infinite
    simp only [UInt32.le_iff_toNat_le, UInt32.lt_iff_toNat_lt, UInt32.reduceToNat]
      at positive ordered inside
    refine ⟨positive, ordered, ?_⟩
    rcases inside with in_lease | tiny
    · exact Nat.le_trans in_lease (Nat.le_max_left _ 2)
    · exact Nat.le_trans tiny (Nat.le_max_right _ 2)

theorem atDhcpOnFrame_acked {d : AtDhcp} {eth : Bytes} {yiaddr leaseSecs : UInt32}
    (ack : AcceptsAck d eth yiaddr leaseSecs) (now : Nat) :
    Acked (atDhcpOnFrame d eth now).1 now yiaddr leaseSecs := by
  obtain ⟨bootp, reply, message, address, nonzero, lease⟩ := ack
  have not_offer : ¬ (dhcpAck = dhcpOffer ∧ yiaddr ≠ 0) := fun offer => absurd offer.1 (by decide)
  have acked : (atDhcpOnFrame d eth now).1 =
      (onAck (parseOptions d (eth.drop (bootp + dhcpFixed))).1 yiaddr now).1 := by
    unfold atDhcpOnFrame
    rw [reply]
    dsimp only
    rw [message, address, if_neg not_offer, if_pos ⟨rfl, nonzero⟩]
  rw [acked, ← lease]
  exact onAck_acked _ yiaddr now

theorem Acked.finite {lease : AtDhcp} {now : Nat} {yiaddr leaseSecs : UInt32}
    (acked : Acked lease now yiaddr leaseSecs) (finite : lease.leaseSecs ≠ leaseInfinite) :
    Finite lease := by
  obtain ⟨positive, ordered, _⟩ := acked.timers finite
  refine ⟨finite, ?_, positive, ordered⟩
  rw [acked.leaseSecs]
  split_ifs with none_given
  · decide
  · exact none_given

/-- T1 is within the lease. -/
theorem Acked.t1_le {lease : AtDhcp} {now : Nat} {yiaddr leaseSecs : UInt32}
    (acked : Acked lease now yiaddr leaseSecs) (finite : lease.leaseSecs ≠ leaseInfinite) :
    lease.t1Secs.toNat * 1000 ≤ lease.leaseSecs.toNat * 1000 := by
  obtain ⟨_, some_time, _, _⟩ := acked.finite finite
  obtain ⟨_, ordered, inside⟩ := acked.timers finite
  have lease_pos : 0 < lease.leaseSecs.toNat :=
    Nat.pos_of_ne_zero fun zero => some_time (UInt32.toNat_inj.mp zero)
  apply Nat.mul_le_mul_right
  omega

/-- A fresh lease stands at the start of its timeline. -/
theorem Acked.timeline_zero {lease : AtDhcp} {now : Nat} {yiaddr leaseSecs : UInt32}
    (acked : Acked lease now yiaddr leaseSecs) (finite : lease.leaseSecs ≠ leaseInfinite) :
    Timeline lease 0 lease := by
  obtain ⟨_, some_time, positive, ordered⟩ := acked.finite finite
  have lease_pos : 0 < lease.leaseSecs.toNat :=
    Nat.pos_of_ne_zero fun zero => some_time (UInt32.toNat_inj.mp zero)
  unfold Timeline
  rw [if_neg (by omega)]
  refine ⟨lease.lastTx, lease.backoffMs, ?_⟩
  rw [stateAt_bound (by omega) (by omega), ← acked.state]

/-- **The timeline of a lease.**  After an accepted ACK the timers are ordered.  In
any nondecreasing sequence of polls without a message in between, the last poll
(`next`) finds the lease active while its age is below the lease length, sends
nothing before T1, a unicast renewal between T1 and T2 and a broadcast rebinding
from T2 on; at the lease length it gives the lease up, and sends only DISCOVERs
from there.  An infinite lease stays active and silent. -/
theorem lease_timeline {d : AtDhcp} {eth : Bytes} {now : Nat} {yiaddr leaseSecs : UInt32}
    (ack : AcceptsAck d eth yiaddr leaseSecs) (polls : List Poll) (next : Poll)
    (ordered : (now :: (polls ++ [next]).map Poll.now).Pairwise (· ≤ ·)) :
    let lease := (atDhcpOnFrame d eth now).1
    let L := lease.leaseSecs.toNat * 1000
    let T1 := lease.t1Secs.toNat * 1000
    let T2 := lease.t2Secs.toNat * 1000
    let age := next.now - now
    let client := (next.call (afterPolls lease polls)).1
    let frame := (next.call (afterPolls lease polls)).2
    Acked lease now yiaddr leaseSecs ∧
      (lease.leaseSecs ≠ leaseInfinite →
        (age < L → leaseActive client = true ∧ client.yiaddr = yiaddr ∧
          client.server = lease.server) ∧
        (age < T1 → frame = []) ∧
        (T1 ≤ age → age < min T2 L → frame ≠ [] →
          IsRequest frame yiaddr (if lease.server ≠ 0 then lease.server else 0xffffffff) false) ∧
        (T2 ≤ age → age < L → frame ≠ [] → IsRequest frame yiaddr 0xffffffff true) ∧
        (L ≤ age → leaseActive client = false ∧ client.yiaddr = 0 ∧ client.server = 0 ∧
          (frame ≠ [] → frameMessage frame = some dhcpDiscover))) ∧
      (lease.leaseSecs = leaseInfinite → client = lease ∧ leaseActive client = true ∧
        frame = []) := by
  intro lease L T1 T2 age client frame
  have acked := atDhcpOnFrame_acked ack now
  refine ⟨acked, fun finite => ?_, fun infinite => ?_⟩
  · have start := acked.timeline_zero finite
    rw [List.map_append, ← List.cons_append, List.pairwise_append] at ordered
    obtain ⟨polls_ordered, _, polls_before⟩ := ordered
    have from_ack : ((lease.boundMs + 0) :: polls.map Poll.now).Pairwise (· ≤ ·) := by
      rw [acked.boundMs]
      exact polls_ordered
    obtain ⟨later, moved, bound⟩ := afterPolls_timeline (acked.finite finite) start from_ack
    have before : lease.boundMs + later ≤ next.now := by
      refine bound next.now fun t member => ?_
      rw [acked.boundMs] at member
      exact polls_before t member next.now (List.mem_singleton_self _)
    obtain ⟨here, sends⟩ := next.call_timeline (acked.finite finite) moved before
    rw [acked.boundMs] at here sends
    change Timeline lease age client at here
    change frame ≠ [] → Sends lease age frame at sends
    have t1_le : T1 ≤ L := acked.t1_le finite
    rw [← acked.yiaddr]
    refine ⟨fun live => ?_, fun early => ?_, fun _ early sent => ?_, fun reached live sent => ?_,
      fun ranOut => ?_⟩
    · rw [Timeline, if_neg (Nat.not_le.mpr live)] at here
      obtain ⟨lastTx, backoffMs, same⟩ := here.same
      refine ⟨here.active, ?_, ?_⟩
      · rw [same]
      · rw [same]
    · by_contra sent
      have first := (sends sent).not_early (Nat.lt_of_lt_of_le early t1_le)
      exact absurd early (Nat.not_lt.mpr first)
    · exact (sends sent).renew (Nat.lt_of_lt_of_le early (Nat.min_le_right T2 L))
        (Nat.lt_of_lt_of_le early (Nat.min_le_left T2 L))
    · exact (sends sent).rebind live reached
    · rw [Timeline, if_pos ranOut] at here
      exact ⟨here.not_active, here.yiaddr, here.server, fun sent => (sends sent).discover ranOut⟩
  · have silent : afterPolls lease polls = lease :=
      afterPolls_infinite acked.state infinite polls
    have call : next.call lease = (lease, []) := Poll.call_infinite acked.state infinite next
    simp only [client, frame, silent, call, and_true, true_and]
    simp [leaseActive, lease, acked.state]

/-- A lease of an hour whose client is polled ten seconds after it was bound and
again behind T2, without a poll between T1 and T2. -/
theorem lease_timeline_rebinds :
    let d : AtDhcp :=
      { atDhcpCreate #v[0x82, 0x5f, 0x77, 0xbe, 0x99, 0xb3] 7 with
        state := .requesting
        yiaddr := 0x02e20b0a
        server := 0x01e20b0a }
    let ack := buildReply d dhcpAck 0x02e20b0a 0x01e20b0a [0, 0, 0x0e, 0x10]
    let lease := (atDhcpOnFrame d ack 5000).1
    let next : Poll := ⟨3155050, ⟨3155, 50000⟩, 1518⟩
    IsRequest (next.call (afterPolls lease [⟨15000, ⟨15, 0⟩, 1518⟩])).2 0x02e20b0a 0xffffffff
      true := by
  intro d ack lease next
  have accepted : AcceptsAck d ack 0x02e20b0a 3600 :=
    ⟨42, by decide +kernel, by decide +kernel, by decide +kernel, by decide, by decide +kernel⟩
  have timeline := (lease_timeline accepted [⟨15000, ⟨15, 0⟩, 1518⟩] next
    (show List.Pairwise (· ≤ ·) [5000, 15000, 3155050] by decide)).2.1 (by decide +kernel)
  exact timeline.2.2.2.1 (by decide +kernel) (by decide +kernel) (by decide +kernel)

end WiredTethering.Dhcp
