import WiredTethering.Dhcp.Ignored
import WiredTethering.Dhcp.Timeline

/-!
# What a reply and a poll do to the client

`at_dhcp_on_frame` reads three things of a reply: its message type, its address and
its options.  The client behind it is one of five (`atDhcpOnFrame_outcome`); the
client behind a poll is one of four, up to the times of transmission.
-/

namespace WiredTethering.Dhcp

open WiredTethering.Memory
open WiredTethering.Tlv

/-- What the client reads of a reply. -/
structure Reply where
  msg : UInt8
  yiaddr : UInt32
  items : List Item

/-- The reply to `xid` in a frame. -/
def replyOf (xid : UInt32) (eth : Bytes) : Option Reply :=
  (bootpReplyAt xid eth).map fun bootp =>
    ⟨replyType eth bootp, rd32le eth (bootp + 16), replyItems eth bootp⟩

/-- The client with the options of a reply stored. -/
def AtDhcp.stored (d : AtDhcp) (r : Reply) : AtDhcp :=
  storeWrites d fun write => lastWrite write r.items

/-- `at_dhcp_on_frame` behind its checks. -/
def onReply (d : AtDhcp) (r : Reply) (now : Nat) : AtDhcp × Int :=
  if r.msg = dhcpOffer ∧ r.yiaddr ≠ 0 then onOffer (d.stored r) r.yiaddr
  else if r.msg = dhcpAck ∧ r.yiaddr ≠ 0 then onAck (d.stored r) r.yiaddr now
  else if r.msg = dhcpNak then onNak (d.stored r)
  else (d.stored r, 0)

theorem atDhcpOnFrame_none {d : AtDhcp} {eth : Bytes} (found : replyOf d.xid eth = none)
    (now : Nat) : atDhcpOnFrame d eth now = (d, 0) := by
  rw [replyOf, Option.map_eq_none_iff] at found
  rw [atDhcpOnFrame, found]

theorem atDhcpOnFrame_some {d : AtDhcp} {eth : Bytes} {r : Reply}
    (found : replyOf d.xid eth = some r) (now : Nat) :
    atDhcpOnFrame d eth now = onReply d r now := by
  obtain ⟨bootp, reply, rfl⟩ := Option.map_eq_some_iff.mp found
  rw [atDhcpOnFrame, reply]
  dsimp only
  rw [parseOptions_eq]
  simp only [onReply, AtDhcp.stored, replyType, replyItems]
  rfl

/-- The client behind a frame. -/
inductive Outcome (d : AtDhcp) (eth : Bytes) (now : Nat) : AtDhcp → Prop where
  | noReply (found : replyOf d.xid eth = none) : Outcome d eth now d
  | offered (r : Reply) (found : replyOf d.xid eth = some r) (offer : r.msg = dhcpOffer)
      (named : r.yiaddr ≠ 0) (free : leaseActive d = false) :
      Outcome d eth now (onOffer (d.stored r) r.yiaddr).1
  | acked (r : Reply) (found : replyOf d.xid eth = some r) (ack : r.msg = dhcpAck)
      (named : r.yiaddr ≠ 0) : Outcome d eth now (onAck (d.stored r) r.yiaddr now).1
  | naked (r : Reply) (found : replyOf d.xid eth = some r) (nak : r.msg = dhcpNak) :
      Outcome d eth now (resetSelect (d.stored r))
  | ignored (r : Reply) (found : replyOf d.xid eth = some r)
      (notAck : ¬ (r.msg = dhcpAck ∧ r.yiaddr ≠ 0)) (notNak : r.msg ≠ dhcpNak) :
      Outcome d eth now (d.stored r)

theorem atDhcpOnFrame_outcome (d : AtDhcp) (eth : Bytes) (now : Nat) :
    Outcome d eth now (atDhcpOnFrame d eth now).1 := by
  cases found : replyOf d.xid eth with
  | none =>
      rw [atDhcpOnFrame_none found]
      exact .noReply found
  | some r =>
      rw [atDhcpOnFrame_some found, onReply]
      split_ifs with offer ack nak
      · cases active : leaseActive d with
        | false => exact .offered r found offer.1 offer.2 active
        | true =>
            have same : (onOffer (d.stored r) r.yiaddr).1 = d.stored r :=
              congrArg Prod.fst (if_pos active)
            have other : dhcpOffer ≠ dhcpAck ∧ dhcpOffer ≠ dhcpNak := by decide
            rw [same]
            exact .ignored r found (fun ack => other.1 (offer.1.symm.trans ack.1))
              fun nak => other.2 (offer.1.symm.trans nak)
      · exact .acked r found ack.1 ack.2
      · exact .naked r found nak
      · exact .ignored r found ack nak

/-! ## An accepted ACK -/

/-- The client to which an ACK gives an address: a missing DNS server is the router,
a missing router is the server. -/
def ackFilled (d : AtDhcp) (yiaddr : UInt32) : AtDhcp :=
  { d with
    yiaddr := yiaddr
    dns0 := if d.dnsN = 0 ∧ d.router ≠ 0 then d.router else d.dns0
    dnsN := if d.dnsN = 0 ∧ d.router ≠ 0 then 1 else d.dnsN
    router := if d.router = 0 ∧ d.server ≠ 0 then d.server else d.router }

theorem applyLeaseTimers_eq (d : AtDhcp) (now : Nat) :
    applyLeaseTimers d now =
      { d with
        boundMs := now
        leaseSecs := leaseOf d
        t1Secs := if leaseOf d = leaseInfinite then 0 else renewAt (leaseOf d) d.t1Secs
        t2Secs :=
          if leaseOf d = leaseInfinite then 0 else rebindAt (leaseOf d) d.t1Secs d.t2Secs } := by
  by_cases infinite : leaseOf d = leaseInfinite
  · rw [applyLeaseTimers_infinite now infinite, if_pos infinite, if_pos infinite]
  · rw [applyLeaseTimers_finite now infinite, if_neg infinite, if_neg infinite]

/-- The client that an ACK leaves. -/
theorem onAck_eq (d : AtDhcp) (yiaddr : UInt32) (now : Nat) :
    (onAck d yiaddr now).1 =
      { ackFilled d yiaddr with
        state := .bound
        boundMs := now
        leaseSecs := leaseOf d
        t1Secs := if leaseOf d = leaseInfinite then 0 else renewAt (leaseOf d) d.t1Secs
        t2Secs :=
          if leaseOf d = leaseInfinite then 0 else rebindAt (leaseOf d) d.t1Secs d.t2Secs
        backoffMs := 500
        lastTx := ⟨0, 0⟩ } := by
  have filled : (onAck d yiaddr now).1 =
      { applyLeaseTimers (ackFilled d yiaddr) now with
        state := .bound
        backoffMs := 500
        lastTx := ⟨0, 0⟩ } := by
    rw [onAck, ackFilled]
    dsimp only
    by_cases dns : d.dnsN = 0 ∧ d.router ≠ 0
    · have routed : ¬ (d.router = 0 ∧ d.server ≠ 0) := fun missing => dns.2 missing.1
      simp only [if_pos dns, if_neg routed]
    · by_cases router : d.router = 0 ∧ d.server ≠ 0
      · simp only [if_neg dns, if_pos router]
      · simp only [if_neg dns, if_neg router]
  rw [filled, applyLeaseTimers_eq]
  rfl

theorem onAck_xid (d : AtDhcp) (yiaddr : UInt32) (now : Nat) :
    (onAck d yiaddr now).1.xid = d.xid := by
  rw [onAck_eq]
  rfl

theorem atDhcpOnFrame_xid (d : AtDhcp) (eth : Bytes) (now : Nat) :
    (atDhcpOnFrame d eth now).1.xid = d.xid := by
  have outcome := atDhcpOnFrame_outcome d eth now
  generalize (atDhcpOnFrame d eth now).1 = d' at outcome ⊢
  cases outcome with
  | noReply found => rfl
  | offered r found offer named free =>
      rw [onOffer]
      split_ifs <;> rfl
  | acked r found ack named => exact onAck_xid (d.stored r) r.yiaddr now
  | naked r found nak => rfl
  | ignored r found notAck notNak => rfl

/-! ## A poll -/

theorem advanceRenewState_cases (d : AtDhcp) (now : Nat) :
    advanceRenewState d now = d ∨
      leaseActive d = true ∧ advanceRenewState d now = resetSelect d ∨
      leaseActive d = true ∧ ∃ state, (state = .renewing ∨ state = .rebinding) ∧
        advanceRenewState d now =
          { d with state := state, backoffMs := 1000, lastTx := ⟨0, 0⟩ } := by
  unfold advanceRenewState
  dsimp only
  generalize (if d.boundMs ≤ now then now - d.boundMs else 0) = age
  split_ifs with free infinite expired rebind renew
  · exact .inl rfl
  · exact .inl rfl
  · exact .inr (.inl ⟨by simpa using free, rfl⟩)
  · exact .inr (.inr ⟨by simpa using free, _, .inr rfl, rfl⟩)
  · exact .inr (.inr ⟨by simpa using free, _, .inl rfl, rfl⟩)
  · exact .inl rfl

end WiredTethering.Dhcp
