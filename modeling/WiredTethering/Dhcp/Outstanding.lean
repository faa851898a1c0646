import Mathlib.Order.WithBot
import WiredTethering.Dhcp.Reply
import WiredTethering.Dhcp.Timeline

/-!
# ACKs and NAKs without a request

The branches of `at_dhcp_on_frame` for an ACK and a NAK do not look at the state.
A trace remembers which addresses the client has asked for and which ACKs it has
taken; a run handles every ACK and NAK as an answer to an outstanding request
exactly if each of them comes as one.
-/

namespace WiredTethering.Dhcp

open WiredTethering.Memory
open WiredTethering.Tlv
open WiredTethering.Transition

/-! ## Traces -/

/-- A client, the addresses it has requested since its last reset, and the ACKs it
has accepted. -/
structure Trace where
  client : AtDhcp
  requested : List UInt32
  accepted : List Bytes

def Trace.start (mac : Vector UInt8 6) (xid : UInt32) : Trace :=
  ⟨atDhcpCreate mac xid, [], []⟩

def Trace.polled (t : Trace) (p : Poll) : Trace :=
  let (d, eth) := p.call t.client
  let kept := if leaseActive t.client && !leaseActive d then [] else t.requested
  { t with
    client := d
    requested := if frameMessage eth = some dhcpRequest then d.yiaddr :: kept else kept }

def Trace.received (t : Trace) (eth : Bytes) (now : Nat) : Trace :=
  let t' := { t with client := (atDhcpOnFrame t.client eth now).1 }
  match replyOf t.client.xid eth with
  | none => t'
  | some r =>
      if r.msg = dhcpAck ∧ r.yiaddr ≠ 0 then { t' with accepted := eth :: t.accepted }
      else if r.msg = dhcpNak then { t' with requested := [] }
      else t'

def traceStep : Step Trace ClientEvent
  | t, .poll p => some (t.polled p)
  | t, .frame eth now => some (t.received eth now)

/-! ## The law -/

/-- When the lease ends; 0 without a lease. -/
def expiresAt (d : AtDhcp) : WithTop Nat :=
  if leaseActive d = false then WithTop.some 0
  else if d.leaseSecs = leaseInfinite then ⊤
  else WithTop.some (d.boundMs + d.leaseSecs.toNat * 1000)

/-- No REQUEST is outstanding. -/
def Unasked (d : AtDhcp) : Prop :=
  d.state = .init ∨ d.state = .selecting ∨ d.state = .bound

/-- A frame is handled as it should be: an ACK or NAK that answers no request changes
nothing that matters, a copy of an accepted ACK does not prolong the lease, and the
client is bound to an address that it has requested. -/
structure Lawful (t : Trace) (eth : Bytes) (d' : AtDhcp) : Prop where
  unasked : ∀ r, replyOf t.client.xid eth = some r → r.msg = dhcpAck ∨ r.msg = dhcpNak →
    Unasked t.client →
      d'.state = t.client.state ∧ d'.yiaddr = t.client.yiaddr ∧
        d'.boundMs = t.client.boundMs ∧ expiresAt d' = expiresAt t.client
  duplicate : eth ∈ t.accepted → expiresAt d' ≤ expiresAt t.client
  requested : leaseActive d' = true →
    leaseActive t.client = true ∧ d'.yiaddr = t.client.yiaddr ∨ d'.yiaddr ∈ t.requested

def LawfulEvent (t : Trace) : ClientEvent → Prop
  | .poll _ => True
  | .frame eth now => Lawful t eth (atDhcpOnFrame t.client eth now).1

/-! ## The condition -/

/-- The lease that an ACK grants, in seconds. -/
def grantedSecs (d : AtDhcp) (r : Reply) : UInt32 :=
  let lease := (lastWrite leaseOptionOf r.items).getD d.leaseSecs
  if lease = 0 then defaultLease else lease

/-- When a lease that an ACK grants ends. -/
def grantedUntil (d : AtDhcp) (r : Reply) (now : Nat) : WithTop Nat :=
  if grantedSecs d r = leaseInfinite then ⊤
  else WithTop.some (now + (grantedSecs d r).toNat * 1000)

/-- An ACK comes as the answer to a request, or grants a bound client what it has. -/
structure AckExpected (t : Trace) (eth : Bytes) (r : Reply) (now : Nat) : Prop where
  asked : Unasked t.client →
    t.client.state = .bound ∧ r.yiaddr = t.client.yiaddr ∧ now = t.client.boundMs ∧
      grantedUntil t.client r now = expiresAt t.client
  fresh : eth ∈ t.accepted → grantedUntil t.client r now ≤ expiresAt t.client
  requested : leaseActive t.client = true ∧ r.yiaddr = t.client.yiaddr ∨
    r.yiaddr ∈ t.requested

/-- The ACK or NAK in a frame comes when it is expected; an ACK without an address
repeats the lease of a bound client. -/
structure Expected (t : Trace) (eth : Bytes) (r : Reply) (now : Nat) : Prop where
  ack : r.msg = dhcpAck → r.yiaddr ≠ 0 → AckExpected t eth r now
  empty : r.msg = dhcpAck → r.yiaddr = 0 → t.client.state = .bound →
    ∀ secs ∈ lastWrite leaseOptionOf r.items, secs = t.client.leaseSecs
  nak : r.msg = dhcpNak → t.client.state ≠ .selecting ∧ t.client.state ≠ .bound

def ExpectedEvent (t : Trace) : ClientEvent → Prop
  | .poll _ => True
  | .frame eth now => ∀ r, replyOf t.client.xid eth = some r → Expected t eth r now

/-! ## What holds in every trace -/

/-- Without an offer there is no address, and the ACKs taken are ACKs of an address. -/
structure Trace.Sound (t : Trace) : Prop where
  idle : t.client.state = .init ∨ t.client.state = .selecting →
    t.client.yiaddr = 0 ∧ t.client.boundMs = 0
  accepted : ∀ eth ∈ t.accepted,
    ∃ r, replyOf t.client.xid eth = some r ∧ r.msg = dhcpAck ∧ r.yiaddr ≠ 0

/-- The client behind a poll: nothing but its state and the times of transmission has
changed, or its lease has expired. -/
theorem Poll.call_cases (d : AtDhcp) (p : Poll) :
    (p.call d).1.xid = d.xid ∧
      ((p.call d).1.state = .init ∨ (p.call d).1.state = .selecting →
        ((p.call d).1.yiaddr = 0 ∧ (p.call d).1.boundMs = 0) ∨
          (d.state = .init ∨ d.state = .selecting) ∧
            (p.call d).1.yiaddr = d.yiaddr ∧ (p.call d).1.boundMs = d.boundMs) := by
  have advance : (advanceRenewState d p.now).xid = d.xid ∧
      ((advanceRenewState d p.now).state = .init ∨ (advanceRenewState d p.now).state = .selecting →
        ((advanceRenewState d p.now).yiaddr = 0 ∧ (advanceRenewState d p.now).boundMs = 0) ∨
          (d.state = .init ∨ d.state = .selecting) ∧
            (advanceRenewState d p.now).yiaddr = d.yiaddr ∧
            (advanceRenewState d p.now).boundMs = d.boundMs) := by
    rcases advanceRenewState_cases d p.now with
      same | ⟨-, reset⟩ | ⟨-, state, rfl | rfl, moved⟩
    · rw [same]
      exact ⟨rfl, fun idle => .inr ⟨idle, rfl, rfl⟩⟩
    · rw [reset]
      exact ⟨rfl, fun _ => .inl ⟨rfl, rfl⟩⟩
    · rw [moved]
      exact ⟨rfl, by rintro (state | state) <;> contradiction⟩
    · rw [moved]
      exact ⟨rfl, by rintro (state | state) <;> contradiction⟩
  rw [Poll.call, atDhcpWantTx]
  rcases transmit_spec (advanceRenewState d p.now) p.cap p.now p.sent with
    silent | ⟨-, sends⟩
  · rw [silent]
    exact advance
  · rw [sends]
    refine ⟨advance.1, fun idle => advance.2 ?_⟩
    dsimp only at idle
    split_ifs at idle with init
    · exact .inl init
    · exact idle

theorem Trace.start_sound (mac : Vector UInt8 6) (xid : UInt32) : (Trace.start mac xid).Sound where
  idle := fun _ => ⟨rfl, rfl⟩
  accepted := nofun

theorem Trace.polled_sound {t : Trace} (sound : t.Sound) (p : Poll) : (t.polled p).Sound where
  idle := by
    intro idle
    rcases (Poll.call_cases t.client p).2 idle with reset | ⟨before, yiaddr, boundMs⟩
    · exact reset
    · exact ⟨yiaddr.trans (sound.idle before).1, boundMs.trans (sound.idle before).2⟩
  accepted := by
    intro eth mem
    change ∃ r, replyOf (p.call t.client).1.xid eth = some r ∧ _
    rw [(Poll.call_cases t.client p).1]
    exact sound.accepted eth mem

theorem Trace.received_client (t : Trace) (eth : Bytes) (now : Nat) :
    (t.received eth now).client = (atDhcpOnFrame t.client eth now).1 := by
  rw [Trace.received]
  split
  · rfl
  · split_ifs <;> rfl

theorem Trace.received_sound {t : Trace} (sound : t.Sound) (eth : Bytes) (now : Nat) :
    (t.received eth now).Sound where
  idle := by
    have outcome := atDhcpOnFrame_outcome t.client eth now
    rw [Trace.received_client]
    generalize (atDhcpOnFrame t.client eth now).1 = d' at outcome ⊢
    cases outcome with
    | noReply found => exact sound.idle
    | offered r found offer named free =>
        have free' : leaseActive (t.client.stored r) = false := free
        rw [onOffer, if_neg (by rw [free']; decide)]
        rintro (state | state) <;> contradiction
    | acked r found ack named =>
        rw [(onAck_acked (t.client.stored r) r.yiaddr now).state]
        rintro (state | state) <;> contradiction
    | naked r found nak => exact fun _ => ⟨rfl, rfl⟩
    | ignored r found notAck notNak => exact sound.idle
  accepted := by
    rw [Trace.received_client, atDhcpOnFrame_xid]
    intro old mem
    rw [Trace.received] at mem
    split at mem
    · exact sound.accepted old mem
    · rename_i r found
      split_ifs at mem with ack nak
      · rcases List.mem_cons.mp mem with rfl | mem
        · exact ⟨r, found, ack⟩
        · exact sound.accepted old mem
      · exact sound.accepted old mem
      · exact sound.accepted old mem

theorem traceStep_sound (t : Trace) (ev : ClientEvent) (next : Trace) (sound : t.Sound)
    (stepped : traceStep t ev = some next) : next.Sound := by
  cases ev with
  | poll p =>
      cases stepped
      exact Trace.polled_sound sound p
  | frame eth now =>
      cases stepped
      exact Trace.received_sound sound eth now

/-! ## The law and the condition -/

theorem expiresAt_free {d : AtDhcp} (free : leaseActive d = false) : expiresAt d = WithTop.some 0 :=
  if_pos free

theorem expiresAt_active {d : AtDhcp} (active : leaseActive d = true) :
    expiresAt d = if d.leaseSecs = leaseInfinite then ⊤ else
      WithTop.some (d.boundMs + d.leaseSecs.toNat * 1000) :=
  if_neg (by simp [active])

theorem expiresAt_onAck (d : AtDhcp) (r : Reply) (now : Nat) :
    expiresAt (onAck (d.stored r) r.yiaddr now).1 = grantedUntil d r now := by
  have acked := onAck_acked (d.stored r) r.yiaddr now
  have granted : (onAck (d.stored r) r.yiaddr now).1.leaseSecs = grantedSecs d r := acked.leaseSecs
  have active : leaseActive (onAck (d.stored r) r.yiaddr now).1 = true := by
    simp [leaseActive, acked.state]
  rw [expiresAt_active active, granted, acked.boundMs]
  rfl

/-- The length of a lease is told by its end. -/
theorem leaseSecs_of_expiresAt {d d' : AtDhcp} (active : leaseActive d = true)
    (active' : leaseActive d' = true) (boundMs : d'.boundMs = d.boundMs)
    (same : expiresAt d' = expiresAt d) : d'.leaseSecs = d.leaseSecs := by
  rw [expiresAt_active active, expiresAt_active active', boundMs] at same
  split_ifs at same with infinite' infinite infinite
  · rw [infinite', infinite]
  · exact absurd same.symm WithTop.coe_ne_top
  · exact absurd same WithTop.coe_ne_top
  · have secs := WithTop.coe_inj.mp same
    apply UInt32.toNat_inj.mp
    omega

section

variable {t : Trace} {eth : Bytes} {now : Nat} {r : Reply}

/-- An ACK of an address. -/
theorem lawful_ack_iff (found : replyOf t.client.xid eth = some r)
    (ack : r.msg = dhcpAck) :
    Lawful t eth (onAck (t.client.stored r) r.yiaddr now).1 ↔ AckExpected t eth r now := by
  have acked := onAck_acked (t.client.stored r) r.yiaddr now
  have until' := expiresAt_onAck t.client r now
  have active : leaseActive (onAck (t.client.stored r) r.yiaddr now).1 = true := by
    simp [leaseActive, acked.state]
  constructor
  · intro law
    refine ⟨fun unasked => ?_, fun copy => ?_, ?_⟩
    · obtain ⟨state, yiaddr, boundMs, expires⟩ := law.unasked r found (.inl ack) unasked
      rw [acked.state] at state
      rw [acked.yiaddr] at yiaddr
      rw [acked.boundMs] at boundMs
      rw [until'] at expires
      exact ⟨state.symm, yiaddr, boundMs, expires⟩
    · rw [← until']
      exact law.duplicate copy
    · have requested := law.requested active
      rw [acked.yiaddr] at requested
      exact requested
  · intro expected
    refine ⟨fun other same _ unasked => ?_, fun copy => ?_, fun _ => ?_⟩
    · obtain ⟨bound, yiaddr, boundMs, expires⟩ := expected.asked unasked
      rw [acked.state, acked.yiaddr, acked.boundMs, until']
      exact ⟨bound.symm, yiaddr, boundMs, expires⟩
    · rw [until']
      exact expected.fresh copy
    · rw [acked.yiaddr]
      exact expected.requested

/-- A NAK. -/
theorem lawful_nak_iff (sound : t.Sound) (found : replyOf t.client.xid eth = some r)
    (nak : r.msg = dhcpNak) :
    Lawful t eth (resetSelect (t.client.stored r)) ↔
      t.client.state ≠ .selecting ∧ t.client.state ≠ .bound := by
  constructor
  · intro law
    constructor
    · intro selecting
      have state := (law.unasked r found (.inr nak) (.inr (.inl selecting))).1
      rw [selecting] at state
      contradiction
    · intro bound
      have state := (law.unasked r found (.inr nak) (.inr (.inr bound))).1
      rw [bound] at state
      contradiction
  · rintro ⟨notSelecting, notBound⟩
    refine ⟨fun other same _ unasked => ?_, fun copy => ?_, nofun⟩
    · have init : t.client.state = .init := by
        rcases unasked with init | selecting | bound
        · exact init
        · exact absurd selecting notSelecting
        · exact absurd bound notBound
      obtain ⟨yiaddr, boundMs⟩ := sound.idle (.inl init)
      have free : leaseActive t.client = false := by simp [leaseActive, init]
      rw [init, yiaddr, boundMs, expiresAt_free free]
      exact ⟨rfl, rfl, rfl, rfl⟩
    · obtain ⟨other, same, ack, -⟩ := sound.accepted eth copy
      obtain rfl := Option.some.inj (found.symm.trans same)
      rw [nak] at ack
      contradiction

/-- A reply that is not acted on. -/
theorem lawful_ignored_iff (sound : t.Sound) (found : replyOf t.client.xid eth = some r)
    (notAck : ¬ (r.msg = dhcpAck ∧ r.yiaddr ≠ 0)) (notNak : r.msg ≠ dhcpNak) :
    Lawful t eth (t.client.stored r) ↔
      (r.msg = dhcpAck → t.client.state = .bound →
        ∀ secs ∈ lastWrite leaseOptionOf r.items, secs = t.client.leaseSecs) := by
  have stored : (t.client.stored r).leaseSecs =
      (lastWrite leaseOptionOf r.items).getD t.client.leaseSecs := rfl
  constructor
  · intro law ack bound
    have active : leaseActive t.client = true := by simp [leaseActive, bound]
    obtain ⟨-, -, -, expires⟩ := law.unasked r found (.inl ack) (.inr (.inr bound))
    have active' : leaseActive (t.client.stored r) = true := active
    have secs := leaseSecs_of_expiresAt active active' rfl expires
    exact getD_eq_iff.mp (stored.symm.trans secs)
  · intro repeats
    refine ⟨fun other same message unasked => ⟨rfl, rfl, rfl, ?_⟩, fun copy => ?_, fun active =>
      .inl ⟨active, rfl⟩⟩
    · obtain rfl := Option.some.inj (found.symm.trans same)
      have ack : r.msg = dhcpAck := message.resolve_right notNak
      by_cases bound : t.client.state = .bound
      · have secs := getD_eq_iff.mpr (repeats ack bound)
        have active : leaseActive t.client = true := by simp [leaseActive, bound]
        have active' : leaseActive (t.client.stored r) = true := active
        rw [expiresAt_active active, expiresAt_active active', stored, secs]
        rfl
      · have free : leaseActive t.client = false := by
          rcases unasked with init | selecting | isBound
          · simp [leaseActive, init]
          · simp [leaseActive, selecting]
          · exact absurd isBound bound
        have free' : leaseActive (t.client.stored r) = false := free
        rw [expiresAt_free free, expiresAt_free free']
    · obtain ⟨other, same, ack⟩ := sound.accepted eth copy
      obtain rfl := Option.some.inj (found.symm.trans same)
      exact absurd ack notAck

/-- A frame is handled lawfully exactly if what it holds is expected. -/
theorem lawful_iff_expected (sound : t.Sound) (eth : Bytes) (now : Nat) :
    Lawful t eth (atDhcpOnFrame t.client eth now).1 ↔
      ∀ r, replyOf t.client.xid eth = some r → Expected t eth r now := by
  have outcome := atDhcpOnFrame_outcome t.client eth now
  generalize (atDhcpOnFrame t.client eth now).1 = d' at outcome ⊢
  cases outcome with
  | noReply found =>
      refine ⟨fun _ r some => ?_, fun _ => ⟨fun r some => ?_, fun _ => le_refl _, fun active =>
        .inl ⟨active, rfl⟩⟩⟩
      · rw [found] at some
        contradiction
      · rw [found] at some
        contradiction
  | offered r found offer named free =>
      have other : dhcpOffer ≠ dhcpAck ∧ dhcpOffer ≠ dhcpNak := by decide
      have requesting : (onOffer (t.client.stored r) r.yiaddr).1.state = .requesting := by
        have free' : leaseActive (t.client.stored r) = false := free
        rw [onOffer, if_neg (by rw [free']; decide)]
      have free' : leaseActive (onOffer (t.client.stored r) r.yiaddr).1 = false := by
        simp [leaseActive, requesting]
      refine ⟨fun _ r' some => ?_, fun _ => ⟨fun r' some message => ?_, fun copy => ?_, ?_⟩⟩
      · obtain rfl := Option.some.inj (found.symm.trans some)
        exact ⟨fun ack => absurd (offer.symm.trans ack) other.1,
          fun ack => absurd (offer.symm.trans ack) other.1,
          fun nak => absurd (offer.symm.trans nak) other.2⟩
      · obtain rfl := Option.some.inj (found.symm.trans some)
        rcases message with ack | nak
        · exact absurd (offer.symm.trans ack) other.1
        · exact absurd (offer.symm.trans nak) other.2
      · obtain ⟨r', some, ack, -⟩ := sound.accepted eth copy
        obtain rfl := Option.some.inj (found.symm.trans some)
        exact absurd (offer.symm.trans ack) other.1
      · intro active
        rw [free'] at active
        contradiction
  | acked r found ack named =>
      rw [lawful_ack_iff found ack]
      constructor
      · intro expected r' some
        obtain rfl := Option.some.inj (found.symm.trans some)
        exact ⟨fun _ _ => expected, fun _ empty => absurd empty named,
          fun nak => absurd (ack.symm.trans nak) (by decide)⟩
      · exact fun expected => (expected r found).ack ack named
  | naked r found nak =>
      rw [lawful_nak_iff sound found nak]
      constructor
      · intro expected r' some
        obtain rfl := Option.some.inj (found.symm.trans some)
        exact ⟨fun ack => absurd (nak.symm.trans ack) (by decide),
          fun ack => absurd (nak.symm.trans ack) (by decide), fun _ => expected⟩
      · exact fun expected => (expected r found).nak nak
  | ignored r found notAck notNak =>
      rw [lawful_ignored_iff sound found notAck notNak]
      constructor
      · intro repeats r' some
        obtain rfl := Option.some.inj (found.symm.trans some)
        exact ⟨fun ack named => absurd ⟨ack, named⟩ notAck, fun ack _ => repeats ack,
          fun nak => absurd nak notNak⟩
      · intro expected ack
        have empty : r.yiaddr = 0 := by
          by_contra named
          exact notAck ⟨ack, named⟩
        exact (expected r found).empty ack empty

end

/-- **ACKs and NAKs answer requests.**  In a run of a client, every ACK and NAK is handled
as the answer to an outstanding request exactly if each comes when it is expected. -/
theorem acks_answer_requests_iff (mac : Vector UInt8 6) (xid : UInt32)
    (events : List ClientEvent) :
    Guarded traceStep LawfulEvent (Trace.start mac xid) events ↔
      Guarded traceStep ExpectedEvent (Trace.start mac xid) events := by
  refine guarded_iff traceStep_sound (fun t ev sound => ?_) (Trace.start_sound mac xid)
  cases ev with
  | poll p => exact Iff.rfl
  | frame eth now => exact lawful_iff_expected sound eth now

/-- The events that bind the client of the tests, and its ACK. -/
def boundEvents : List ClientEvent :=
  let d := atDhcpCreate (sixBytes 0x82 0x5f 0x77 0xbe 0x99 0xb3) 7
  [.poll ⟨1000, ⟨1, 0⟩, 1518⟩,
    .frame (buildReply d dhcpOffer 0x02e20b0a 0x01e20b0a [0, 0, 0x0e, 0x10]) 1100,
    .poll ⟨1200, ⟨1, 200000⟩, 1518⟩,
    .frame (buildReply d dhcpAck 0x02e20b0a 0x01e20b0a [0, 0, 0x0e, 0x10]) 1300]

def boundAck : Bytes :=
  buildReply (atDhcpCreate (sixBytes 0x82 0x5f 0x77 0xbe 0x99 0xb3) 7) dhcpAck 0x02e20b0a
    0x01e20b0a [0, 0, 0x0e, 0x10]

/-- A copy of its ACK that arrives later prolongs the lease of a bound client. -/
theorem ack_copy_prolongs :
    ¬ ∀ mac xid events, Guarded traceStep LawfulEvent (Trace.start mac xid) events := by
  intro lawful
  have guarded := lawful (sixBytes 0x82 0x5f 0x77 0xbe 0x99 0xb3) 7
    (boundEvents ++ [.frame boundAck 2000])
  obtain ⟨t, ran, state, ack, boundMs⟩ : ∃ t, run traceStep
      (Trace.start (sixBytes 0x82 0x5f 0x77 0xbe 0x99 0xb3) 7) boundEvents = some t ∧
      t.client.state = .bound ∧
      (replyOf t.client.xid boundAck).any (·.msg = dhcpAck) = true ∧
      (atDhcpOnFrame t.client boundAck 2000).1.boundMs ≠ t.client.boundMs := by
    refine ⟨_, rfl, ?_, ?_, ?_⟩
    · decide +kernel
    · decide +kernel
    · decide +kernel
  have law : Lawful t boundAck _ := guarded.last ran
  obtain ⟨r, found, message⟩ := (Option.any_eq_true _ _).mp ack
  have ack : r.msg = dhcpAck := of_decide_eq_true message
  exact boundMs (law.unasked r found (.inl ack) (.inr (.inr state))).2.2.1

end WiredTethering.Dhcp
