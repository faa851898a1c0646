import WiredTethering.Dhcp.Leftover

/-!
# Where the timers of a lease come from

`apply_lease_timers` computes the timers from three fields that `parse_options`
writes one by one and that no ACK clears before.  An option that an ACK lacks is
so replaced by what an OFFER or an earlier lease left in its field.  `NothingHeld`
says which values left there make no difference.
-/

namespace WiredTethering.Dhcp

open WiredTethering.Memory
open WiredTethering.Tlv
open WiredTethering.Transition

/-- The lease length, T1 and T2, in seconds. -/
structure LeaseTimers where
  lease : Nat
  t1 : Nat
  t2 : Nat
deriving DecidableEq, Repr

/-- The timers in force. -/
def AtDhcp.timers (d : AtDhcp) : LeaseTimers :=
  ⟨d.leaseSecs.toNat, d.t1Secs.toNat, d.t2Secs.toNat⟩

/-! ## The timers of an ACK -/

/-- The seconds that options give a field, 0 when none does. -/
def ownSeconds (write : Item → Option UInt32) (items : List Item) : Nat :=
  ((lastWrite write items).getD 0).toNat

/-- The lease length that options give. -/
def ownLease (items : List Item) : Nat :=
  if ownSeconds leaseOptionOf items = 0 then 3600 else ownSeconds leaseOptionOf items

/-- T1 of a finite lease: a nonzero value below the lease, or half the lease. -/
def ownRenew (lease t1 : Nat) : Nat :=
  if t1 ≠ 0 ∧ t1 < lease then t1 else max (lease / 2) 1

/-- T2 of a finite lease: a value between T1 and the lease, or seven eighths of the
lease, rounded up. -/
def ownRebind (lease t1 t2 : Nat) : Nat :=
  if t1 < t2 ∧ t2 < lease then t2 else max ((7 * lease + 7) / 8) (t1 + 1)

/-- The timers that options give by themselves. -/
def ownTimers (items : List Item) : LeaseTimers :=
  let lease := ownLease items
  if lease = leaseInfinite.toNat then ⟨lease, 0, 0⟩
  else
    let t1 := ownRenew lease (ownSeconds t1Of items)
    ⟨lease, t1, ownRebind lease t1 (ownSeconds t2Of items)⟩

/-! ## The timers of the code -/

theorem half_toNat (lease : UInt32) : (lease / 2).toNat = lease.toNat / 2 :=
  UInt32.toNat_div lease 2

theorem sevenEighths_toNat (lease : UInt32) :
    (lease - lease / 8).toNat = (7 * lease.toNat + 7) / 8 := by
  have part : (lease / 8).toNat = lease.toNat / 8 := UInt32.toNat_div lease 8
  have le : lease / 8 ≤ lease := by
    rw [UInt32.le_iff_toNat_le, part]
    exact Nat.div_le_self _ _
  rw [UInt32.toNat_sub_of_le _ _ le, part]
  omega

theorem halfLease_toNat (lease t1 : UInt32) :
    (halfLease lease t1).toNat =
      if t1.toNat ≠ 0 ∧ t1.toNat < lease.toNat then t1.toNat else lease.toNat / 2 := by
  rw [halfLease, apply_ite UInt32.toNat, half_toNat]
  simp only [← UInt32.toNat_inj, UInt32.le_iff_toNat_le, UInt32.toNat_zero]
  split_ifs <;> omega

/-- T1 as the code leaves it. -/
theorem renewAt_toNat (lease t1 : UInt32) (some_time : lease ≠ 0) :
    (renewAt lease t1).toNat = ownRenew lease.toNat t1.toNat := by
  have positive : lease.toNat ≠ 0 := fun zero => some_time (UInt32.toNat_inj.mp zero)
  rw [renewAt, apply_ite UInt32.toNat, ownRenew]
  simp only [← UInt32.toNat_inj, halfLease_toNat, UInt32.toNat_zero, UInt32.toNat_one]
  split_ifs <;> omega

theorem mostLease_toNat (lease t1 t2 : UInt32) :
    (mostLease lease t1 t2).toNat =
      if t1.toNat < t2.toNat ∧ t2.toNat < lease.toNat then t2.toNat
      else (7 * lease.toNat + 7) / 8 := by
  rw [mostLease, apply_ite UInt32.toNat, sevenEighths_toNat]
  simp only [← UInt32.toNat_inj, UInt32.le_iff_toNat_le, UInt32.toNat_zero]
  split_ifs <;> omega

/-- T2 as the code leaves it. -/
theorem rebindAt_toNat (lease t1 t2 : UInt32) (some_time : lease ≠ 0)
    (finite : lease ≠ leaseInfinite) :
    (rebindAt lease t1 t2).toNat =
      ownRebind lease.toNat (ownRenew lease.toNat t1.toNat) t2.toNat := by
  have positive : lease.toNat ≠ 0 := fun zero => some_time (UInt32.toNat_inj.mp zero)
  have other : lease.toNat ≠ 0xFFFFFFFF := fun same => finite (UInt32.toNat_inj.mp same)
  have bound := lease.toNat_lt
  have renew := renewAt_toNat lease t1 some_time
  have inside : (renewAt lease t1).toNat ≤ lease.toNat := by
    rw [renew, ownRenew]
    split_ifs <;> omega
  have next : (renewAt lease t1 + 1).toNat = ownRenew lease.toNat t1.toNat + 1 := by
    rw [UInt32.toNat_add, UInt32.toNat_one, Nat.mod_eq_of_lt (by omega), renew]
  rw [rebindAt, apply_ite UInt32.toNat, next]
  simp only [UInt32.le_iff_toNat_le, mostLease_toNat, halfLease_toNat, renew]
  rw [ownRebind, ownRenew]
  split_ifs <;> omega

/-! ## What the fields still hold -/

/-- What an ACK without an option reads in the field makes no difference: the lease
length in force is an hour in any case, T1 and T2 lie outside of the range in which they
are used or are the values that stand in for them. -/
structure NothingHeld (d : AtDhcp) (items : List Item) : Prop where
  lease : lastWrite leaseOptionOf items = none →
    d.leaseSecs = 0 ∨ d.leaseSecs = defaultLease
  t1 : ownLease items ≠ leaseInfinite.toNat → lastWrite t1Of items = none →
    d.t1Secs = 0 ∨ ownLease items ≤ d.t1Secs.toNat ∨
      d.t1Secs.toNat = max (ownLease items / 2) 1
  t2 : ownLease items ≠ leaseInfinite.toNat → lastWrite t2Of items = none →
    d.t2Secs.toNat ≤ (ownTimers items).t1 ∨ ownLease items ≤ d.t2Secs.toNat ∨
      d.t2Secs.toNat = max ((7 * ownLease items + 7) / 8) ((ownTimers items).t1 + 1)

/-- The lease length that an ACK leaves. -/
theorem leaseOf_toNat (d : AtDhcp) :
    (leaseOf d).toNat = if d.leaseSecs.toNat = 0 then 3600 else d.leaseSecs.toNat := by
  rw [leaseOf, apply_ite UInt32.toNat]
  simp only [← UInt32.toNat_inj, UInt32.toNat_zero]
  rfl

/-- The timers that an ACK leaves. -/
theorem onAck_timers (d : AtDhcp) (yiaddr : UInt32) (now : Nat) :
    (onAck d yiaddr now).1.timers =
      if (leaseOf d).toNat = leaseInfinite.toNat then ⟨(leaseOf d).toNat, 0, 0⟩
      else
        ⟨(leaseOf d).toNat, ownRenew (leaseOf d).toNat d.t1Secs.toNat,
          ownRebind (leaseOf d).toNat (ownRenew (leaseOf d).toNat d.t1Secs.toNat)
            d.t2Secs.toNat⟩ := by
  rw [onAck_eq]
  simp only [AtDhcp.timers, UInt32.toNat_inj]
  by_cases infinite : leaseOf d = leaseInfinite
  · simp only [if_pos infinite, UInt32.toNat_zero]
  · simp only [if_neg infinite, renewAt_toNat _ _ (leaseOf_ne_zero d),
      rebindAt_toNat _ _ _ (leaseOf_ne_zero d) infinite]

/-- The lease length is the option's, or what was held. -/
theorem lease_own_iff (d : AtDhcp) (r : Reply) :
    (leaseOf (d.stored r)).toNat = ownLease r.items ↔
      (lastWrite leaseOptionOf r.items = none →
        d.leaseSecs = 0 ∨ d.leaseSecs = defaultLease) := by
  have stored : (d.stored r).leaseSecs =
      (lastWrite leaseOptionOf r.items).getD d.leaseSecs := rfl
  rw [leaseOf_toNat, stored, ownLease, ownSeconds]
  cases lastWrite leaseOptionOf r.items with
  | some secs => simp
  | none =>
      simp only [Option.getD_none, UInt32.toNat_zero, if_true, true_implies,
        ← UInt32.toNat_inj, show defaultLease.toNat = 3600 from rfl]
      split_ifs <;> omega

theorem ownRenew_own_iff (lease : Nat) (option : Option UInt32) (held : UInt32) :
    ownRenew lease (option.getD held).toNat = ownRenew lease (option.getD 0).toNat ↔
      (option = none → held = 0 ∨ lease ≤ held.toNat ∨ held.toNat = max (lease / 2) 1) := by
  cases option with
  | some secs => simp
  | none =>
      simp only [Option.getD_none, UInt32.toNat_zero, true_implies, ownRenew,
        ← UInt32.toNat_inj]
      split_ifs <;> omega

theorem ownRebind_own_iff (lease t1 : Nat) (option : Option UInt32) (held : UInt32) :
    ownRebind lease t1 (option.getD held).toNat = ownRebind lease t1 (option.getD 0).toNat ↔
      (option = none → held.toNat ≤ t1 ∨ lease ≤ held.toNat ∨
        held.toNat = max ((7 * lease + 7) / 8) (t1 + 1)) := by
  cases option with
  | some secs => simp
  | none =>
      simp only [Option.getD_none, UInt32.toNat_zero, true_implies, ownRebind]
      split_ifs <;> omega

theorem ownTimers_finite {items : List Item} (finite : ownLease items ≠ leaseInfinite.toNat) :
    ownTimers items =
      ⟨ownLease items, ownRenew (ownLease items) (ownSeconds t1Of items),
        ownRebind (ownLease items) (ownRenew (ownLease items) (ownSeconds t1Of items))
          (ownSeconds t2Of items)⟩ :=
  if_neg finite

/-- An ACK leaves the timers of its own options exactly if nothing held made a
difference. -/
theorem onAck_own_iff (d : AtDhcp) (r : Reply) (now : Nat) :
    (onAck (d.stored r) r.yiaddr now).1.timers = ownTimers r.items ↔ NothingHeld d r.items := by
  have t1_stored : (d.stored r).t1Secs = (lastWrite t1Of r.items).getD d.t1Secs := rfl
  have t2_stored : (d.stored r).t2Secs = (lastWrite t2Of r.items).getD d.t2Secs := rfl
  have t1_iff := ownRenew_own_iff (ownLease r.items) (lastWrite t1Of r.items) d.t1Secs
  have t2_iff := ownRebind_own_iff (ownLease r.items)
    (ownRenew (ownLease r.items) (ownSeconds t1Of r.items)) (lastWrite t2Of r.items) d.t2Secs
  rw [onAck_timers, t1_stored, t2_stored]
  constructor
  · intro own
    have lease : (leaseOf (d.stored r)).toNat = ownLease r.items := by
      have same := congrArg LeaseTimers.lease own
      simpa only [ownTimers, apply_ite LeaseTimers.lease, ite_self] using same
    have lease_held := (lease_own_iff d r).mp lease
    rw [lease] at own
    by_cases infinite : ownLease r.items = leaseInfinite.toNat
    · exact ⟨lease_held, fun finite => absurd infinite finite,
        fun finite => absurd infinite finite⟩
    · rw [if_neg infinite, ownTimers_finite infinite, LeaseTimers.mk.injEq] at own
      rcases own with ⟨-, t1, t2⟩
      rw [t1] at t2
      constructor
      · exact lease_held
      · intro _
        exact t1_iff.mp t1
      · intro _
        rw [ownTimers_finite infinite]
        exact t2_iff.mp t2
  · rintro ⟨lease, t1, t2⟩
    rw [(lease_own_iff d r).mpr lease]
    by_cases infinite : ownLease r.items = leaseInfinite.toNat
    · rw [if_pos infinite, ownTimers, if_pos infinite]
    · have t1_same : ownRenew _ _ = ownRenew _ (ownSeconds t1Of r.items) :=
        t1_iff.mpr (t1 infinite)
      have t2_held := t2 infinite
      rw [ownTimers_finite infinite] at t2_held
      rw [if_neg infinite, ownTimers_finite infinite, t1_same, t2_iff.mpr t2_held]
      rfl

/-! ## Runs -/

/-- An accepted ACK leaves the timers of its own options. -/
def TimersOwn : AtDhcp → ClientEvent → Prop
  | _, .poll _ => True
  | d, .frame eth now =>
      ∀ r, replyOf d.xid eth = some r → r.msg = dhcpAck → r.yiaddr ≠ 0 →
        (atDhcpOnFrame d eth now).1.timers = ownTimers r.items

/-- Nothing that the client holds stands in for an option that an accepted ACK lacks. -/
def AcksNothingHeld : AtDhcp → ClientEvent → Prop
  | _, .poll _ => True
  | d, .frame eth _ =>
      ∀ r, replyOf d.xid eth = some r → r.msg = dhcpAck → r.yiaddr ≠ 0 → NothingHeld d r.items

theorem atDhcpOnFrame_ack {d : AtDhcp} {eth : Bytes} {r : Reply}
    (found : replyOf d.xid eth = some r) (isAck : r.msg = dhcpAck) (named : r.yiaddr ≠ 0)
    (now : Nat) : atDhcpOnFrame d eth now = onAck (d.stored r) r.yiaddr now := by
  have other : dhcpAck ≠ dhcpOffer := by decide
  rw [atDhcpOnFrame_some found, onReply, if_neg (fun offer => other (isAck.symm.trans offer.1)),
    if_pos ⟨isAck, named⟩]

theorem timersOwn_iff (d : AtDhcp) (ev : ClientEvent) : TimersOwn d ev ↔ AcksNothingHeld d ev := by
  cases ev with
  | poll p => exact Iff.rfl
  | frame eth now =>
      constructor
      · intro own r found isAck named
        have timers := own r found isAck named
        rw [atDhcpOnFrame_ack found isAck named] at timers
        exact (onAck_own_iff d r now).mp timers
      · intro held r found isAck named
        rw [atDhcpOnFrame_ack found isAck named]
        exact (onAck_own_iff d r now).mpr (held r found isAck named)

/-- **Timers.**  In a run each accepted ACK leaves the timers of its own options exactly
if none of them meets a value that an OFFER or an earlier lease left where the ACK has no
option and that lies in the range of that timer. -/
theorem run_timersOwn_iff (mac : Vector UInt8 6) (xid : UInt32) (events : List ClientEvent) :
    Guarded clientStep TimersOwn (atDhcpCreate mac xid) events ↔
      Guarded clientStep AcksNothingHeld (atDhcpCreate mac xid) events :=
  guarded_congr timersOwn_iff _ events

/-- A client whose OFFER names a T1 of one minute is bound by an ACK without the option:
the minute stays, where half of the lease of an hour would be its T1. -/
theorem offered_t1_survives :
    ¬ ∀ mac xid events, Guarded clientStep TimersOwn (atDhcpCreate mac xid) events := by
  intro claimed
  let offer := replyFrame 7 0x0200000a
    [optType, 1, dhcpOffer, optServer, 4, 10, 0, 0, 1, optLease, 4, 0, 0, 14, 16,
      optT1, 4, 0, 0, 0, 60]
  let ack := replyFrame 7 0x0200000a
    [optType, 1, dhcpAck, optServer, 4, 10, 0, 0, 1, optLease, 4, 0, 0, 14, 16]
  let requested := (Poll.call (atDhcpOnFrame (Poll.call (atDhcpCreate #v[2, 0, 0, 0, 0, 1] 7)
    ⟨1000, ⟨1, 0⟩, 1518⟩).1 offer 1100).1 ⟨1200, ⟨1, 200000⟩, 1518⟩).1
  have own := (claimed #v[2, 0, 0, 0, 0, 1] 7 ([.poll ⟨1000, ⟨1, 0⟩, 1518⟩, .frame offer 1100,
    .poll ⟨1200, ⟨1, 200000⟩, 1518⟩] ++ [.frame ack 1300])).last
      (rfl : run clientStep _ _ = some requested)
  obtain ⟨r, found, accepted⟩ := (Option.any_eq_true _ _).mp
    (by decide +kernel : (replyOf requested.xid ack).any
      (fun r => r.msg = dhcpAck ∧ r.yiaddr ≠ 0 ∧ (ownTimers r.items).t1 = 1800) = true)
  obtain ⟨isAck, named, half⟩ := of_decide_eq_true accepted
  have kept : (atDhcpOnFrame requested ack 1300).1.timers.t1 = 60 := by decide +kernel
  rw [own r found isAck named, half] at kept
  exact absurd kept (by decide)

end WiredTethering.Dhcp
