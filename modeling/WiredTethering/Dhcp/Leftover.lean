import WiredTethering.Dhcp.Lease
import WiredTethering.Dhcp.Reply

/-!
# What a lease owes to the one before

`reset_select` leaves the netmask, the router and the DNS servers of the lease that
ended.  Two histories of a client that end in a reset therefore differ in these
fields only, and the same messages lead both to the same lease exactly if the
messages supply all three.
-/

namespace WiredTethering.Dhcp

open WiredTethering.Memory
open WiredTethering.Common
open WiredTethering.Tlv
open WiredTethering.Transition

/-! ## Histories -/

/-- The event makes the client give up its lease or its search: the lease expires, or a
NAK arrives. -/
def Resets (d : AtDhcp) : ClientEvent → Prop
  | .poll p => leaseActive d = true ∧ leaseActive (p.call d).1 = false
  | .frame eth _ => ∃ r, replyOf d.xid eth = some r ∧ r.msg = dhcpNak

/-- The client behind a history that ends with a reset. -/
def ResetHistory (mac : Vector UInt8 6) (xid : UInt32) (d : AtDhcp) : Prop :=
  ∃ events before ev, run clientStep (atDhcpCreate mac xid) events = some before ∧
    Resets before ev ∧ clientStep before ev = some d

/-- The options that a frame stores in the client. -/
def eventItems (xid : UInt32) : ClientEvent → List Item
  | .poll _ => []
  | .frame eth _ => ((replyOf xid eth).map Reply.items).getD []

/-- The options of all replies among the events. -/
def received (xid : UInt32) (events : List ClientEvent) : List Item :=
  events.flatMap (eventItems xid)

/-- The lease that the events lead to is the same behind every history. -/
def OwesNothing (mac : Vector UInt8 6) (xid : UInt32) (events : List ClientEvent) : Prop :=
  ∀ a b, ResetHistory mac xid a → ResetHistory mac xid b →
    ∀ a' b', run clientStep a events = some a' → run clientStep b events = some b' →
      atDhcpLease a' = atDhcpLease b'

/-- The options supply a netmask, a router and a DNS server. -/
structure Supplied (items : List Item) : Prop where
  netmask : (lastWrite netmaskOf items).isSome = true
  router : (lastWrite routerOf items).isSome = true
  dns : (lastWrite dnsOf items).isSome = true

/-! ## Events one by one -/

section

variable {d d' : AtDhcp} {ev : ClientEvent}

/-- A field that neither a transmission nor a reset touches is kept by a poll. -/
theorem Poll.call_field {β : Type} (field : AtDhcp → β)
    (sends : ∀ d state lastTx backoffMs, field
      { d with state := state, lastTx := lastTx, backoffMs := backoffMs } = field d)
    (resets : ∀ d, field (resetSelect d) = field d) (d : AtDhcp) (p : Poll) :
    field (p.call d).1 = field d := by
  have advance : field (advanceRenewState d p.now) = field d := by
    rcases advanceRenewState_cases d p.now with same | ⟨-, reset⟩ | ⟨-, state, -, moved⟩
    · rw [same]
    · rw [reset, resets]
    · rw [moved]
      exact sends d state ⟨0, 0⟩ 1000
  rw [Poll.call, atDhcpWantTx, ← advance]
  rcases transmit_spec (advanceRenewState d p.now) p.cap p.now p.sent with
    silent | ⟨-, sent⟩
  · rw [silent]
  · rw [sent]
    exact sends _ _ _ _

/-- The leftovers, and the id of the client. -/
def leftovers (d : AtDhcp) : UInt32 × UInt32 × UInt32 × UInt32 × UInt32 × Nat :=
  (d.xid, d.netmask, d.router, d.dns0, d.dns1, d.dnsN)

theorem Poll.call_leftovers (d : AtDhcp) (p : Poll) : leftovers (p.call d).1 = leftovers d :=
  Poll.call_field leftovers (fun _ _ _ _ => rfl) (fun _ => rfl) d p

theorem onOffer_leftovers (d : AtDhcp) (yiaddr : UInt32) :
    leftovers (onOffer d yiaddr).1 = leftovers d := by
  rw [onOffer]
  split_ifs <;> rfl

/-- The client with some options stored. -/
def AtDhcp.withOptions (d : AtDhcp) (items : List Item) : AtDhcp :=
  storeWrites d fun write => lastWrite write items

/-- An event stores its options, and an ACK fills in what is missing. -/
theorem clientStep_leftovers (stepped : clientStep d ev = some d') :
    leftovers d' = leftovers (d.withOptions (eventItems d.xid ev)) ∨
      ∃ yiaddr,
        leftovers d' = leftovers (ackFilled (d.withOptions (eventItems d.xid ev)) yiaddr) := by
  cases ev with
  | poll p =>
      cases stepped
      exact .inl (Poll.call_leftovers d p)
  | frame eth now =>
      cases stepped
      have outcome := atDhcpOnFrame_outcome d eth now
      generalize (atDhcpOnFrame d eth now).1 = d' at outcome ⊢
      have items {r : Reply} (found : replyOf d.xid eth = some r) :
          d.withOptions (eventItems d.xid (.frame eth now)) = d.stored r := by
        rw [eventItems, found]
        rfl
      cases outcome with
      | noReply found =>
          left
          rw [eventItems, found]
          rfl
      | offered r found offer named free =>
          rw [items found]
          exact .inl (onOffer_leftovers _ _)
      | acked r found ack named =>
          rw [items found, onAck_eq]
          exact .inr ⟨r.yiaddr, rfl⟩
      | naked r found nak =>
          rw [items found]
          exact .inl rfl
      | ignored r found notAck notNak =>
          rw [items found]
          exact .inl rfl

theorem clientStep_xid (stepped : clientStep d ev = some d') : d'.xid = d.xid := by
  rcases clientStep_leftovers stepped with same | ⟨yiaddr, same⟩
  · exact congrArg (·.1) same
  · exact congrArg (·.1) same

end

/-- What each event keeps, with the options it brings, holds behind a run. -/
theorem run_received_from {xid : UInt32} {P : List Item → AtDhcp → Prop}
    (kept : ∀ items d ev d', d.xid = xid → P items d → clientStep d ev = some d' →
      P (items ++ eventItems xid ev) d')
    {events : List ClientEvent} {items : List Item} {d d' : AtDhcp} (same : d.xid = xid)
    (holds : P items d) (ran : run clientStep d events = some d') :
    P (items ++ received xid events) d' := by
  induction events generalizing items d with
  | nil =>
      cases ran
      rw [received, List.flatMap_nil, List.append_nil]
      exact holds
  | cons ev events ih =>
      obtain ⟨next, stepped, rest⟩ := run_cons_eq_some_iff.mp ran
      have behind := kept items d ev next same holds stepped
      have started := (clientStep_xid stepped).trans same
      rw [received, List.flatMap_cons, ← List.append_assoc]
      exact ih started behind rest

theorem run_received {P : List Item → AtDhcp → Prop} {events : List ClientEvent} {d d' : AtDhcp}
    (kept : ∀ items e ev e', e.xid = d.xid → P items e → clientStep e ev = some e' →
      P (items ++ eventItems d.xid ev) e')
    (holds : P [] d) (ran : run clientStep d events = some d') : P (received d.xid events) d' := by
  have behind := run_received_from kept rfl holds ran
  rw [List.nil_append] at behind
  exact behind

/-! ## What no option replaces -/

section

variable {d d' : AtDhcp} {events : List ClientEvent}

theorem run_netmask_kept (ran : run clientStep d events = some d')
    (unwritten : lastWrite netmaskOf (received d.xid events) = none) :
    d'.netmask = d.netmask := by
  refine run_received (P := fun items e => lastWrite netmaskOf items = none →
    e.netmask = d.netmask) ?_ (fun _ => rfl) ran unwritten
  intro items e ev e' same holds stepped unwritten
  rw [lastWrite_append, Option.or_eq_none_iff] at unwritten
  have stored : (e.withOptions (eventItems e.xid ev)).netmask = d.netmask := by
    change (lastWrite netmaskOf (eventItems e.xid ev)).getD e.netmask = d.netmask
    rw [same, unwritten.1]
    exact holds unwritten.2
  rcases clientStep_leftovers stepped with left | ⟨yiaddr, left⟩
  · exact (congrArg (·.2.1) left).trans stored
  · exact (congrArg (·.2.1) left).trans stored

theorem run_router_kept (ran : run clientStep d events = some d') (routed : d.router ≠ 0)
    (unwritten : lastWrite routerOf (received d.xid events) = none) : d'.router = d.router := by
  refine run_received (P := fun items e => lastWrite routerOf items = none →
    e.router = d.router) ?_ (fun _ => rfl) ran unwritten
  intro items e ev e' same holds stepped unwritten
  rw [lastWrite_append, Option.or_eq_none_iff] at unwritten
  have stored : (e.withOptions (eventItems e.xid ev)).router = d.router := by
    change (lastWrite routerOf (eventItems e.xid ev)).getD e.router = d.router
    rw [same, unwritten.1]
    exact holds unwritten.2
  rcases clientStep_leftovers stepped with left | ⟨yiaddr, left⟩
  · exact (congrArg (·.2.2.1) left).trans stored
  · have filled : (ackFilled (e.withOptions (eventItems e.xid ev)) yiaddr).router =
        (e.withOptions (eventItems e.xid ev)).router :=
      if_neg fun missing => routed (stored.symm.trans missing.1)
    exact (congrArg (·.2.2.1) left).trans (filled.trans stored)

/-- An option that counts DNS servers writes the first. -/
theorem dnsCountOf_none_of_dnsOf {item : Item} (unwritten : dnsOf item = none) :
    dnsCountOf item = none := by
  rw [dnsOf, wordOf, ite_eq_right_iff] at unwritten
  exact if_neg fun written => Option.some_ne_none _ (unwritten written)

theorem lastWrite_dnsCountOf_none {items : List Item} (unwritten : lastWrite dnsOf items = none) :
    lastWrite dnsCountOf items = none := by
  rw [lastWrite, List.findSome?_eq_none_iff] at unwritten ⊢
  exact fun item mem => dnsCountOf_none_of_dnsOf (unwritten item mem)

theorem run_dns_kept (ran : run clientStep d events = some d') (named : d.dnsN = 1)
    (unwritten : lastWrite dnsOf (received d.xid events) = none) :
    d'.dnsN = 1 ∧ d'.dns0 = d.dns0 := by
  refine run_received (P := fun items e => lastWrite dnsOf items = none →
    e.dnsN = 1 ∧ e.dns0 = d.dns0) ?_ (fun _ => ⟨named, rfl⟩) ran unwritten
  intro items e ev e' same holds stepped unwritten
  rw [lastWrite_append, Option.or_eq_none_iff] at unwritten
  obtain ⟨count, first⟩ := holds unwritten.2
  have storedCount : (e.withOptions (eventItems e.xid ev)).dnsN = 1 := by
    change (lastWrite dnsCountOf (eventItems e.xid ev)).getD e.dnsN = 1
    rw [same, lastWrite_dnsCountOf_none unwritten.1]
    exact count
  have storedFirst : (e.withOptions (eventItems e.xid ev)).dns0 = d.dns0 := by
    change (lastWrite dnsOf (eventItems e.xid ev)).getD e.dns0 = d.dns0
    rw [same, unwritten.1]
    exact first
  rcases clientStep_leftovers stepped with left | ⟨yiaddr, left⟩
  · exact ⟨(congrArg (·.2.2.2.2.2) left).trans storedCount,
      (congrArg (·.2.2.2.1) left).trans storedFirst⟩
  · have missing : ¬ ((e.withOptions (eventItems e.xid ev)).dnsN = 0 ∧
        (e.withOptions (eventItems e.xid ev)).router ≠ 0) := by
      rw [storedCount]
      exact fun empty => nomatch empty.1
    exact ⟨(congrArg (·.2.2.2.2.2) left).trans ((if_neg missing).trans storedCount),
      (congrArg (·.2.2.2.1) left).trans ((if_neg missing).trans storedFirst)⟩

end

/-! ## Two histories -/

/-- Two clients in the same phase: all that decides what they do next agrees, except for
the times of transmission. -/
structure Alike (a b : AtDhcp) : Prop where
  xid : a.xid = b.xid
  state : a.state = b.state ∨
    (a.state = .init ∨ a.state = .selecting) ∧ (b.state = .init ∨ b.state = .selecting)
  yiaddr : a.yiaddr = b.yiaddr
  server : a.server = b.server
  leaseSecs : a.leaseSecs = b.leaseSecs
  t1Secs : a.t1Secs = b.t1Secs
  t2Secs : a.t2Secs = b.t2Secs
  boundMs : a.boundMs = b.boundMs

/-- Two clients that have stored the same options since their last resets. -/
structure Agree (items : List Item) (a b : AtDhcp) : Prop where
  alike : Alike a b
  netmask : (lastWrite netmaskOf items).isSome = true → a.netmask = b.netmask
  router : (lastWrite routerOf items).isSome = true → a.router = b.router
  dns : (lastWrite dnsOf items).isSome = true →
    a.dnsN = b.dnsN ∧ a.dnsN ≠ 0 ∧ a.dns0 = b.dns0 ∧ (¬ a.dnsN < 2 → a.dns1 = b.dns1)

section

variable {a b : AtDhcp}

theorem Alike.active (alike : Alike a b) : leaseActive a = leaseActive b := by
  rcases alike.state with same | ⟨init | selecting, init' | selecting'⟩
  · simp only [leaseActive, same]
  · simp [leaseActive, init, init']
  · simp [leaseActive, init, selecting']
  · simp [leaseActive, selecting, init']
  · simp [leaseActive, selecting, selecting']

theorem Alike.state_of_active (alike : Alike a b) (active : leaseActive a = true) :
    a.state = b.state := by
  rcases alike.state with same | ⟨init | selecting, -⟩
  · exact same
  · simp [leaseActive, init] at active
  · simp [leaseActive, selecting] at active

theorem Alike.reset (alike : Alike a b) : Alike (resetSelect a) (resetSelect b) :=
  ⟨alike.xid, .inl rfl, rfl, rfl, rfl, rfl, rfl, rfl⟩

theorem Alike.advance (alike : Alike a b) (now : Nat) :
    Alike (advanceRenewState a now) (advanceRenewState b now) := by
  cases active : leaseActive a with
  | false =>
      have active' : leaseActive b = false := alike.active.symm.trans active
      simpa [advanceRenewState, active, active'] using alike
  | true =>
      have active' : leaseActive b = true := alike.active.symm.trans active
      have state := alike.state_of_active active
      unfold advanceRenewState
      rw [active, active', ← state, ← alike.leaseSecs, ← alike.t1Secs, ← alike.t2Secs,
        ← alike.boundMs]
      dsimp only
      generalize (if a.boundMs ≤ now then now - a.boundMs else 0) = age
      split_ifs with free infinite expired rebind renew
      · exact alike
      · exact alike
      · exact alike.reset
      · exact ⟨alike.xid, .inl rfl, alike.yiaddr, alike.server, rfl, rfl, rfl, rfl⟩
      · exact ⟨alike.xid, .inl rfl, alike.yiaddr, alike.server, rfl, rfl, rfl, rfl⟩
      · exact alike

/-- A transmission brings a client that searches no further. -/
theorem Alike.transmit_left (alike : Alike a b) (cap now : Nat) (sent : Timeval) :
    Alike (transmit a cap now sent).1 b := by
  rcases transmit_spec a cap now sent with silent | ⟨-, sends⟩
  · rw [silent]
    exact alike
  · rw [sends]
    refine ⟨alike.xid, ?_, alike.yiaddr, alike.server, alike.leaseSecs, alike.t1Secs,
      alike.t2Secs, alike.boundMs⟩
    dsimp only
    split_ifs with init
    · right
      refine ⟨.inr rfl, ?_⟩
      rcases alike.state with same | ⟨-, searching⟩
      · exact .inl (same.symm.trans init)
      · exact searching
    · exact alike.state

theorem Alike.symm (alike : Alike a b) : Alike b a :=
  ⟨alike.xid.symm, alike.state.imp Eq.symm And.symm, alike.yiaddr.symm, alike.server.symm,
    alike.leaseSecs.symm, alike.t1Secs.symm, alike.t2Secs.symm, alike.boundMs.symm⟩

theorem Alike.poll (alike : Alike a b) (p : Poll) : Alike (p.call a).1 (p.call b).1 := by
  have left := (alike.advance p.now).transmit_left p.cap p.now p.sent
  exact (left.symm.transmit_left p.cap p.now p.sent).symm

theorem getD_congr {β : Type} {write : Option β} {x y : β} (same : x = y) :
    write.getD x = write.getD y :=
  congrArg write.getD same

theorem Alike.stored (alike : Alike a b) (r : Reply) : Alike (a.stored r) (b.stored r) :=
  ⟨alike.xid, alike.state, alike.yiaddr, getD_congr alike.server, getD_congr alike.leaseSecs,
    getD_congr alike.t1Secs, getD_congr alike.t2Secs, alike.boundMs⟩

theorem Alike.filled (alike : Alike a b) (yiaddr : UInt32) :
    Alike (ackFilled a yiaddr) (ackFilled b yiaddr) :=
  ⟨alike.xid, alike.state, rfl, alike.server, alike.leaseSecs, alike.t1Secs, alike.t2Secs,
    alike.boundMs⟩

theorem Alike.onAck (alike : Alike a b) (yiaddr : UInt32) (now : Nat) :
    Alike (onAck a yiaddr now).1 (onAck b yiaddr now).1 := by
  have lease : leaseOf a = leaseOf b := by rw [leaseOf, leaseOf, alike.leaseSecs]
  rw [onAck_eq, onAck_eq, lease, alike.t1Secs, alike.t2Secs]
  exact ⟨alike.xid, .inl rfl, rfl, alike.server, rfl, rfl, rfl, rfl⟩

end

theorem isSome_lastWrite_append {β : Type} {write : Item → Option β} {first second : List Item} :
    (lastWrite write (first ++ second)).isSome = true ↔
      (lastWrite write second).isSome = true ∨ (lastWrite write first).isSome = true := by
  rw [lastWrite_append, Option.isSome_or, Bool.or_eq_true]

/-- A field that a word is stored in agrees behind the store if it agreed before, or if
the word is there. -/
theorem getD_agree {β : Type} {write : Option β} {x y : β}
    (agree : write.isSome = true ∨ x = y) : write.getD x = write.getD y := by
  cases write with
  | none =>
      rcases agree with absent | same
      · contradiction
      · exact same
  | some word => rfl

/-- The last DNS option counts its servers, and writes as many. -/
theorem lastWrite_dns {items : List Item} (written : (lastWrite dnsOf items).isSome = true) :
    lastWrite dnsCountOf items = some 1 ∨
      lastWrite dnsCountOf items = some 2 ∧ (lastWrite secondDnsOf items).isSome = true := by
  induction items with
  | nil => contradiction
  | cons item items ih =>
      rw [lastWrite_cons] at written
      rw [lastWrite_cons, lastWrite_cons]
      cases later : lastWrite dnsOf items with
      | some word =>
          rcases ih (by rw [later]; rfl) with one | ⟨two, second⟩
          · left
            rw [one]
            rfl
          · right
            rw [two, Option.isSome_or, second]
            exact ⟨rfl, rfl⟩
      | none =>
          rw [later, Option.none_or] at written
          rw [lastWrite_dnsCountOf_none later, Option.none_or]
          by_cases dns : item.tag = optDns ∧ 4 ≤ item.value.length
          · by_cases long : 8 ≤ item.value.length
            · right
              rw [dnsCountOf, if_pos dns, if_pos long, secondDnsOf, if_pos ⟨dns.1, long⟩,
                Option.isSome_or, Option.isSome_some, Bool.or_true]
              exact ⟨rfl, rfl⟩
            · left
              rw [dnsCountOf, if_pos dns, if_neg long]
          · rw [dnsOf, wordOf, if_neg dns] at written
            contradiction

section

variable {a b a' b' : AtDhcp} {items : List Item}

theorem Agree.of_leftovers (agree : Agree items a b) (alike : Alike a' b')
    (left : leftovers a' = leftovers a) (right : leftovers b' = leftovers b) :
    Agree items a' b' := by
  simp only [leftovers, Prod.mk.injEq] at left right
  obtain ⟨-, netmask, router, dns0, dns1, dnsN⟩ := left
  obtain ⟨-, netmask', router', dns0', dns1', dnsN'⟩ := right
  refine ⟨alike, ?_, ?_, ?_⟩
  · rw [netmask, netmask']
    exact agree.netmask
  · rw [router, router']
    exact agree.router
  · rw [dnsN, dnsN', dns0, dns0', dns1, dns1']
    exact agree.dns

theorem Agree.stored (agree : Agree items a b) (r : Reply) :
    Agree (items ++ r.items) (a.stored r) (b.stored r) := by
  refine ⟨agree.alike.stored r, fun written => ?_, fun written => ?_, fun written => ?_⟩
  · rw [isSome_lastWrite_append] at written
    exact getD_agree (written.imp_right agree.netmask)
  · rw [isSome_lastWrite_append] at written
    exact getD_agree (written.imp_right agree.router)
  · change (lastWrite dnsCountOf r.items).getD a.dnsN = (lastWrite dnsCountOf r.items).getD b.dnsN ∧
      (lastWrite dnsCountOf r.items).getD a.dnsN ≠ 0 ∧
      (lastWrite dnsOf r.items).getD a.dns0 = (lastWrite dnsOf r.items).getD b.dns0 ∧
      (¬ (lastWrite dnsCountOf r.items).getD a.dnsN < 2 →
        (lastWrite secondDnsOf r.items).getD a.dns1 = (lastWrite secondDnsOf r.items).getD b.dns1)
    rw [isSome_lastWrite_append] at written
    by_cases now : (lastWrite dnsOf r.items).isSome = true
    · have first := getD_agree (x := a.dns0) (y := b.dns0) (.inl now)
      rcases lastWrite_dns now with one | ⟨two, second⟩
      · rw [one]
        exact ⟨rfl, nofun, first, fun long => absurd Nat.one_lt_two long⟩
      · rw [two]
        exact ⟨rfl, nofun, first, fun _ => getD_agree (.inl second)⟩
    · obtain ⟨count, some, first, second⟩ := agree.dns (written.resolve_left now)
      rw [Option.not_isSome_iff_eq_none] at now
      rw [now, lastWrite_dnsCountOf_none now]
      exact ⟨count, some, first, fun long => getD_agree (.inr (second long))⟩

theorem Agree.filled (agree : Agree items a b) (yiaddr : UInt32) :
    Agree items (ackFilled a yiaddr) (ackFilled b yiaddr) := by
  refine ⟨agree.alike.filled yiaddr, agree.netmask, fun written => ?_, fun written => ?_⟩
  · change (if a.router = 0 ∧ a.server ≠ 0 then a.server else a.router) =
      if b.router = 0 ∧ b.server ≠ 0 then b.server else b.router
    rw [agree.router written, agree.alike.server]
  · obtain ⟨count, some, first, second⟩ := agree.dns written
    have named : ¬ (a.dnsN = 0 ∧ a.router ≠ 0) := fun missing => some missing.1
    have named' : ¬ (b.dnsN = 0 ∧ b.router ≠ 0) := fun missing => some (count.trans missing.1)
    simp only [ackFilled, if_neg named, if_neg named']
    exact ⟨count, some, first, second⟩

/-- The same event keeps two clients in agreement. -/
theorem Agree.step (agree : Agree items a b) (ev : ClientEvent)
    (left : clientStep a ev = some a') (right : clientStep b ev = some b') :
    Agree (items ++ eventItems a.xid ev) a' b' := by
  cases ev with
  | poll p =>
      cases left
      cases right
      rw [eventItems, List.append_nil]
      exact agree.of_leftovers (agree.alike.poll p) (Poll.call_leftovers a p)
        (Poll.call_leftovers b p)
  | frame eth now =>
      cases left
      cases right
      cases found : replyOf a.xid eth with
      | none =>
          have found' := found
          rw [agree.alike.xid] at found'
          rw [atDhcpOnFrame_none found, atDhcpOnFrame_none found', eventItems, found]
          change Agree (items ++ []) a b
          rw [List.append_nil]
          exact agree
      | some r =>
          have found' := found
          rw [agree.alike.xid] at found'
          have stored := agree.stored r
          rw [atDhcpOnFrame_some found, atDhcpOnFrame_some found', eventItems, found]
          change Agree (items ++ r.items) (onReply a r now).1 (onReply b r now).1
          rw [onReply, onReply]
          split_ifs with offer ack nak
          · have active := stored.alike.active
            rw [onOffer, onOffer, active]
            split_ifs with held
            · exact stored
            · have alike := stored.alike
              exact stored.of_leftovers ⟨alike.xid, .inl rfl, rfl, alike.server, alike.leaseSecs,
                alike.t1Secs, alike.t2Secs, alike.boundMs⟩ rfl rfl
          · have filled := stored.filled r.yiaddr
            apply filled.of_leftovers (stored.alike.onAck r.yiaddr now)
            · rw [onAck_eq]
              rfl
            · rw [onAck_eq]
              rfl
          · exact stored.of_leftovers stored.alike.reset rfl rfl
          · exact stored

theorem Agree.run {events : List ClientEvent} (agree : Agree items a b)
    (left : run clientStep a events = some a') (right : run clientStep b events = some b') :
    Agree (items ++ received a.xid events) a' b' := by
  induction events generalizing items a b with
  | nil =>
      cases left
      cases right
      rw [received, List.flatMap_nil, List.append_nil]
      exact agree
  | cons ev events ih =>
      obtain ⟨nextA, steppedA, restA⟩ := run_cons_eq_some_iff.mp left
      obtain ⟨nextB, steppedB, restB⟩ := run_cons_eq_some_iff.mp right
      have behind := ih (agree.step ev steppedA steppedB) restA restB
      rw [clientStep_xid steppedA] at behind
      rw [received, List.flatMap_cons, ← List.append_assoc]
      exact behind

theorem atDhcpLease_active {d : AtDhcp} (active : leaseActive d = true) :
    atDhcpLease d = ⟨ip4Str d.yiaddr, ip4Str d.netmask,
      if d.router ≠ 0 then ip4Str d.router else [], leaseDns d, true⟩ :=
  if_neg (by rw [active]; decide)

/-- Clients that agree on everything report the same lease. -/
theorem Agree.lease (agree : Agree items a b) (supplied : Supplied items)
    (active : leaseActive a = true) : atDhcpLease a = atDhcpLease b := by
  obtain ⟨count, some, first, second⟩ := agree.dns supplied.dns
  have dns : leaseDns a = leaseDns b := by
    rw [leaseDns, leaseDns, ← count, ← first]
    by_cases single : a.dnsN < 2
    · rw [if_pos single, if_pos single]
    · rw [if_neg single, if_neg single, ← second single]
  have active' : leaseActive b = true := agree.alike.active.symm.trans active
  rw [atDhcpLease_active active, atDhcpLease_active active', ← agree.alike.yiaddr,
    ← agree.netmask supplied.netmask, ← agree.router supplied.router, dns]

end

/-! ## Behind a reset -/

theorem Alike.trans {a b c : AtDhcp} (first : Alike a b) (second : Alike b c) : Alike a c where
  xid := first.xid.trans second.xid
  state := by
    rcases first.state with same | ⟨left, right⟩
    · rw [same]
      exact second.state
    · rcases second.state with same | ⟨-, searching⟩
      · rw [same] at right
        exact .inr ⟨left, right⟩
      · exact .inr ⟨left, searching⟩
  yiaddr := first.yiaddr.trans second.yiaddr
  server := first.server.trans second.server
  leaseSecs := first.leaseSecs.trans second.leaseSecs
  t1Secs := first.t1Secs.trans second.t1Secs
  t2Secs := first.t2Secs.trans second.t2Secs
  boundMs := first.boundMs.trans second.boundMs

theorem run_xid {d d' : AtDhcp} {events : List ClientEvent}
    (ran : run clientStep d events = some d') : d'.xid = d.xid :=
  @run_invariant _ _ clientStep (fun e => e.xid = d.xid)
    (fun _ _ _ same stepped => (clientStep_xid stepped).trans same) d d' events rfl ran

theorem run_clientStep (d : AtDhcp) (events : List ClientEvent) :
    ∃ d', run clientStep d events = some d' := by
  induction events generalizing d with
  | nil => exact ⟨d, rfl⟩
  | cons ev events ih =>
      cases ev with
      | poll p => exact ih (p.call d).1
      | frame eth now => exact ih (atDhcpOnFrame d eth now).1

section

variable {mac : Vector UInt8 6} {xid : UInt32}

theorem resetSelect_alike {d : AtDhcp} (same : d.xid = xid) :
    Alike (resetSelect d) (atDhcpCreate mac xid) :=
  ⟨same, .inl rfl, rfl, rfl, rfl, rfl, rfl, rfl⟩

/-- A lease ends in a poll by a reset only. -/
theorem Poll.call_expired {d : AtDhcp} {p : Poll} (active : leaseActive d = true)
    (ended : leaseActive (p.call d).1 = false) : advanceRenewState d p.now = resetSelect d := by
  have held {e : AtDhcp} (active : leaseActive e = true) :
      leaseActive (transmit e p.cap p.now p.sent).1 = true := by
    rcases transmit_spec e p.cap p.now p.sent with silent | ⟨-, sends⟩
    · rw [silent]
      exact active
    · have searches : e.state ≠ .init := by
        intro init
        simp [leaseActive, init] at active
      rw [sends, if_neg searches]
      exact active
  have refutes (active : leaseActive (advanceRenewState d p.now) = true) : False := by
    have still := held active
    rw [Poll.call, atDhcpWantTx, still] at ended
    contradiction
  rcases advanceRenewState_cases d p.now with same | ⟨-, reset⟩ | ⟨-, state, rfl | rfl, moved⟩
  · exact (refutes (by rw [same]; exact active)).elim
  · exact reset
  · exact (refutes (by rw [moved]; rfl)).elim
  · exact (refutes (by rw [moved]; rfl)).elim

/-- Behind a reset, a client differs from a new one in its leftovers. -/
theorem ResetHistory.alike {d : AtDhcp} (history : ResetHistory mac xid d) :
    Alike d (atDhcpCreate mac xid) := by
  obtain ⟨events, before, ev, ran, resets, stepped⟩ := history
  have same : before.xid = xid := run_xid ran
  cases ev with
  | poll p =>
      cases stepped
      obtain ⟨active, ended⟩ := resets
      rw [Poll.call, atDhcpWantTx, Poll.call_expired active ended]
      exact (resetSelect_alike same).transmit_left p.cap p.now p.sent
  | frame eth now =>
      cases stepped
      obtain ⟨r, found, nak⟩ := resets
      have other : dhcpNak ≠ dhcpOffer ∧ dhcpNak ≠ dhcpAck := by decide
      rw [atDhcpOnFrame_some found, onReply, if_neg (fun offer => other.1 (nak.symm.trans offer.1)),
        if_neg (fun ack => other.2 (nak.symm.trans ack.1)), if_pos nak]
      exact resetSelect_alike same

theorem ResetHistory.agree {a b : AtDhcp} (first : ResetHistory mac xid a)
    (second : ResetHistory mac xid b) : Agree [] a b :=
  ⟨first.alike.trans second.alike.symm, nofun, nofun, nofun⟩

/-- An ACK of an address leaves a lease. -/
theorem run_ack_active {d d' : AtDhcp} {events : List ClientEvent} {ack : Bytes} {now : Nat}
    {r : Reply} (found : replyOf d.xid ack = some r) (isAck : r.msg = dhcpAck)
    (named : r.yiaddr ≠ 0) (ran : run clientStep d (events ++ [.frame ack now]) = some d') :
    leaseActive d' = true := by
  rw [run_append] at ran
  obtain ⟨middle, front, last⟩ := Option.bind_eq_some_iff.mp ran
  obtain ⟨next, stepped, rest⟩ := run_cons_eq_some_iff.mp last
  cases rest
  cases stepped
  rw [← run_xid front] at found
  have other : dhcpAck ≠ dhcpOffer := by decide
  rw [atDhcpOnFrame_some found, onReply, if_neg (fun offer => other (isAck.symm.trans offer.1)),
    if_pos ⟨isAck, named⟩, onAck_eq]
  rfl

theorem owesNothing_of_supplied {events : List ClientEvent} {ack : Bytes} {now : Nat} {r : Reply}
    (found : replyOf xid ack = some r) (isAck : r.msg = dhcpAck) (named : r.yiaddr ≠ 0)
    (supplied : Supplied (received xid (events ++ [.frame ack now]))) :
    OwesNothing mac xid (events ++ [.frame ack now]) := by
  intro a b first second a' b' left right
  have same : a.xid = xid := first.alike.xid
  have agree := (first.agree second).run left right
  rw [List.nil_append, same] at agree
  rw [← same] at found
  exact agree.lease supplied (run_ack_active found isAck named left)

end

/-! ## A NAK that leaves something -/

/-- A reply to `xid` with an address and an options area. -/
def replyFrame (xid yiaddr : UInt32) (opt : Bytes) : Bytes :=
  zeros 12 ++ [8, 0, 0x45] ++ zeros 8 ++ [17] ++ zeros 12 ++ be16 dhcpClientPort ++ zeros 4 ++
    [2, 0, 0, 0] ++ (le32 xid ++ (zeros 8 ++ le32 yiaddr ++ zeros 216 ++ dhcpCookie ++ opt))

/-- A NAK with one more option. -/
def nakFrame (xid : UInt32) (tag first : UInt8) : Bytes :=
  replyFrame xid 0 [optType, 1, dhcpNak, tag, 4, first, 0, 0, 0]

theorem replyFrame_length (xid yiaddr : UInt32) (opt : Bytes) :
    (replyFrame xid yiaddr opt).length = 282 + opt.length := by
  simp [replyFrame, be16, dhcpCookie, zeros_length]
  omega

theorem replyFrame_reply (xid yiaddr : UInt32) (opt : Bytes) :
    bootpReplyAt xid (replyFrame xid yiaddr opt) = some 42 := by
  have type : byteAt (replyFrame xid yiaddr opt) 12 = 0x08 ∧
      byteAt (replyFrame xid yiaddr opt) 13 = 0x00 := ⟨rfl, rfl⟩
  have header : byteAt (replyFrame xid yiaddr opt) 14 = 0x45 := rfl
  have protocol : byteAt (replyFrame xid yiaddr opt) 23 = 17 := rfl
  have port : rd16be (replyFrame xid yiaddr opt) 36 = dhcpClientPort :=
    (by decide : rd16be [0, 68] 0 = dhcpClientPort)
  have op : byteAt (replyFrame xid yiaddr opt) 42 = 2 := rfl
  have id : rd32le (replyFrame xid yiaddr opt) 46 = xid := rd32le_append_le32 xid _ rfl
  have cookie : slice (replyFrame xid yiaddr opt) 278 4 = dhcpCookie := rfl
  simp [bootpReplyAt, replyFrame_length, type, header, protocol, port, op, id, cookie, dhcpFixed]
  constructor
  · rfl
  · omega

theorem nakFrame_items (xid : UInt32) {tag first : UInt8}
    (other : tag ≠ optPad ∧ tag ≠ optEnd ∧ tag ≠ optType) :
    replyItems (nakFrame xid tag first) 42 = [⟨optType, [dhcpNak]⟩, ⟨tag, [first, 0, 0, 0]⟩] := by
  have area : (nakFrame xid tag first).drop 282 =
      [optType, 1, dhcpNak, tag, 4, first, 0, 0, 0] := rfl
  have kind : optType ≠ optPad ∧ optType ≠ optEnd := by decide
  rw [replyItems, dhcpFixed, area, decode]
  simp [byteAt, slice, decode, kind, other]

/-- The reply in the frame. -/
theorem nakFrame_replyOf (xid : UInt32) {tag first : UInt8}
    (other : tag ≠ optPad ∧ tag ≠ optEnd ∧ tag ≠ optType) :
    replyOf xid (nakFrame xid tag first) =
      some ⟨dhcpNak, 0, [⟨optType, [dhcpNak]⟩, ⟨tag, [first, 0, 0, 0]⟩]⟩ := by
  have yiaddr : rd32le (nakFrame xid tag first) 58 = 0 :=
    (by decide : rd32le (zeros 4) 0 = 0)
  have last : lastWrite messageTypeOf [⟨optType, [dhcpNak]⟩, ⟨tag, [first, 0, 0, 0]⟩] =
      some dhcpNak := by
    rw [lastWrite_cons, lastWrite_cons, messageTypeOf, messageTypeOf,
      if_neg fun named => other.2.2 named.1]
    rfl
  rw [replyOf, nakFrame, replyFrame_reply, ← nakFrame, Option.map_some, replyType,
    nakFrame_items xid other, yiaddr, last]
  rfl

/-- The client of a history of one such NAK. -/
def naked (mac : Vector UInt8 6) (xid : UInt32) (tag first : UInt8) : AtDhcp :=
  resetSelect ((atDhcpCreate mac xid).withOptions
    [⟨optType, [dhcpNak]⟩, ⟨tag, [first, 0, 0, 0]⟩])

section

variable {mac : Vector UInt8 6} {xid : UInt32}

theorem naked_history {tag first : UInt8} (other : tag ≠ optPad ∧ tag ≠ optEnd ∧ tag ≠ optType) :
    ResetHistory mac xid (naked mac xid tag first) := by
  have found : replyOf (atDhcpCreate mac xid).xid (nakFrame xid tag first) = _ :=
    nakFrame_replyOf xid other
  refine ⟨[], atDhcpCreate mac xid, .frame (nakFrame xid tag first) 0, rfl, ⟨_, found, rfl⟩, ?_⟩
  rw [clientStep, atDhcpOnFrame_some found]
  rfl

/-- Behind such histories the events lead to leases. -/
theorem naked_lease (mac : Vector UInt8 6) {events : List ClientEvent} {ack : Bytes} {now : Nat}
    {r : Reply} (found : replyOf xid ack = some r) (isAck : r.msg = dhcpAck) (named : r.yiaddr ≠ 0)
    (tag first : UInt8) :
    ∃ d', run clientStep (naked mac xid tag first) (events ++ [.frame ack now]) = some d' ∧
      leaseActive d' = true := by
  obtain ⟨d', ran⟩ := run_clientStep (naked mac xid tag first) (events ++ [.frame ack now])
  have same : (naked mac xid tag first).xid = xid := rfl
  rw [← same] at found
  exact ⟨d', ran, run_ack_active found isAck named ran⟩

theorem supplied_of_owesNothing {events : List ClientEvent} {ack : Bytes} {now : Nat} {r : Reply}
    (found : replyOf xid ack = some r) (isAck : r.msg = dhcpAck) (named : r.yiaddr ≠ 0)
    (owes : OwesNothing mac xid (events ++ [.frame ack now])) :
    Supplied (received xid (events ++ [.frame ack now])) := by
  have leases (tag : UInt8) (other : tag ≠ optPad ∧ tag ≠ optEnd ∧ tag ≠ optType) :
      ∃ a b, run clientStep (naked mac xid tag 1) (events ++ [.frame ack now]) = some a ∧
        run clientStep (naked mac xid tag 2) (events ++ [.frame ack now]) = some b ∧
        leaseActive a = true ∧ leaseActive b = true ∧ atDhcpLease a = atDhcpLease b := by
    obtain ⟨a, ranA, activeA⟩ := naked_lease mac found isAck named tag 1
    obtain ⟨b, ranB, activeB⟩ := naked_lease mac found isAck named tag 2
    exact ⟨a, b, ranA, ranB, activeA, activeB,
      owes _ _ (naked_history other) (naked_history other) a b ranA ranB⟩
  refine ⟨?_, ?_, ?_⟩
  · by_contra unwritten
    rw [Option.not_isSome_iff_eq_none] at unwritten
    obtain ⟨a, b, ranA, ranB, activeA, activeB, same⟩ := leases optSubnet (by decide)
    have maskA : a.netmask = 1 := run_netmask_kept ranA unwritten
    have maskB : b.netmask = 2 := run_netmask_kept ranB unwritten
    rw [atDhcpLease_active activeA, atDhcpLease_active activeB, AtNetInfo.mk.injEq, maskA,
      maskB] at same
    have text : ip4Str 1 ≠ ip4Str 2 := by decide
    exact text same.2.1
  · by_contra unwritten
    rw [Option.not_isSome_iff_eq_none] at unwritten
    obtain ⟨a, b, ranA, ranB, activeA, activeB, same⟩ := leases optRouter (by decide)
    have routed {first : UInt8} (written : rd32le [first, 0, 0, 0] 0 ≠ 0) :
        (naked mac xid optRouter first).router ≠ 0 := written
    have routerA : a.router = 1 := run_router_kept ranA (routed (by decide)) unwritten
    have routerB : b.router = 2 := run_router_kept ranB (routed (by decide)) unwritten
    rw [atDhcpLease_active activeA, atDhcpLease_active activeB, AtNetInfo.mk.injEq, routerA,
      routerB] at same
    have text : ip4Str 1 ≠ ip4Str 2 := by decide
    exact text same.2.2.1
  · by_contra unwritten
    rw [Option.not_isSome_iff_eq_none] at unwritten
    obtain ⟨a, b, ranA, ranB, activeA, activeB, same⟩ := leases optDns (by decide)
    obtain ⟨countA, firstA⟩ := run_dns_kept ranA rfl unwritten
    obtain ⟨countB, firstB⟩ := run_dns_kept ranB rfl unwritten
    have dnsA : a.dns0 = 1 := firstA
    have dnsB : b.dns0 = 2 := firstB
    rw [atDhcpLease_active activeA, atDhcpLease_active activeB, AtNetInfo.mk.injEq, leaseDns,
      leaseDns, countA, countB, dnsA, dnsB] at same
    have text : ip4Str 1 ≠ ip4Str 2 := by decide
    exact text same.2.2.2.1

end

/-- **What a lease owes.**  The events from a reset to an accepted ACK determine the lease
exactly if they supply a netmask, a router and a DNS server. -/
theorem owesNothing_iff_supplied (mac : Vector UInt8 6) {xid : UInt32}
    {events : List ClientEvent} {ack : Bytes} {now : Nat} {r : Reply}
    (found : replyOf xid ack = some r) (isAck : r.msg = dhcpAck) (named : r.yiaddr ≠ 0) :
    OwesNothing mac xid (events ++ [.frame ack now]) ↔
      Supplied (received xid (events ++ [.frame ack now])) :=
  ⟨supplied_of_owesNothing found isAck named, owesNothing_of_supplied found isAck named⟩

/-- The options of a reply of the given type, with a netmask, a router and maybe more. -/
def leaseOptions (msgType : UInt8) (router : UInt32) (more : Bytes) : Bytes :=
  [optType, 1, msgType, optSubnet, 4, 255, 255, 255, 0, optRouter, 4] ++ le32 router ++ more

/-- A server that names everything leaves nothing of an earlier lease. -/
theorem named_lease_owesNothing :
    OwesNothing #v[2, 0, 0, 0, 0, 1] 7 ([.poll ⟨500, ⟨0, 500000⟩, 1514⟩,
        .frame (replyFrame 7 0x0200000a (leaseOptions dhcpOffer 0x0100000a [])) 700,
        .poll ⟨900, ⟨0, 900000⟩, 1514⟩] ++
      [.frame (replyFrame 7 0x0200000a
        (leaseOptions dhcpAck 0x0100000a [optDns, 4, 8, 8, 8, 8])) 1000]) := by
  obtain ⟨r, found, accepted⟩ := (Option.any_eq_true _ _).mp
    (by decide +kernel : (replyOf 7 (replyFrame 7 0x0200000a
      (leaseOptions dhcpAck 0x0100000a [optDns, 4, 8, 8, 8, 8]))).any
        (fun r => r.msg = dhcpAck ∧ r.yiaddr ≠ 0) = true)
  obtain ⟨isAck, named⟩ := of_decide_eq_true accepted
  refine (owesNothing_iff_supplied _ found isAck named).mpr ⟨?_, ?_, ?_⟩
  · decide +kernel
  · decide +kernel
  · decide +kernel

/-- Two clients whose leases ended with a NAK, one of which had a DNS server: behind the
same ACK without a DNS server they report different ones. -/
theorem old_dns_survives :
    ¬ ∀ mac xid events ack now r, replyOf xid ack = some r → r.msg = dhcpAck → r.yiaddr ≠ 0 →
      OwesNothing mac xid (events ++ [.frame ack now]) := by
  intro claimed
  let offer := replyFrame 7 0x0200000a (leaseOptions dhcpOffer 0x0100000a [])
  let ack := replyFrame 7 0x0200000a (leaseOptions dhcpAck 0x0100000a [])
  let named := replyFrame 7 0x0200000a (leaseOptions dhcpAck 0x0100000a [optDns, 4, 8, 8, 8, 8])
  let nak := replyFrame 7 0 [optType, 1, dhcpNak]
  let new := atDhcpCreate #v[2, 0, 0, 0, 0, 1] 7
  obtain ⟨r, found, accepted⟩ := (Option.any_eq_true _ _).mp
    (by decide +kernel : (replyOf 7 ack).any (fun r => r.msg = dhcpAck ∧ r.yiaddr ≠ 0) = true)
  obtain ⟨isAck, address⟩ := of_decide_eq_true accepted
  obtain ⟨no, refused, isNak⟩ := (Option.any_eq_true _ _).mp
    (by decide +kernel : (replyOf 7 nak).any (fun r => r.msg = dhcpNak) = true)
  have history (first : Bytes) (same : (atDhcpOnFrame (atDhcpOnFrame new offer 0).1 first 0).1.xid =
      7) : ResetHistory #v[2, 0, 0, 0, 0, 1] 7
        (atDhcpOnFrame (atDhcpOnFrame (atDhcpOnFrame new offer 0).1 first 0).1 nak 0).1 := by
    refine ⟨[.frame offer 0, .frame first 0], _, .frame nak 0, rfl, ⟨no, ?_, ?_⟩, rfl⟩
    · rw [same]
      exact refused
    · exact of_decide_eq_true isNak
  have same := claimed _ 7 [.frame offer 0] ack 0 r found isAck address _ _
    (history ack (by decide +kernel)) (history named (by decide +kernel)) _ _ rfl rfl
  revert same
  decide +kernel

end WiredTethering.Dhcp
