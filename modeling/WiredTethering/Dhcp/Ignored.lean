import WiredTethering.Dhcp.Frame

/-!
# Frames the client does not act on

`parse_options` stores options before the message type is known.  The walk is a
fold over the decoded options (`parseOptions_eq_foldl`), so each field afterwards
holds the last option stored in it.  A frame that is not acted on leaves the
client as it was exactly when these options repeat what the client holds.
-/

namespace WiredTethering.Dhcp

open WiredTethering.Memory
open WiredTethering.Tlv
open WiredTethering.Transition

/-! ## The walk as a fold -/

theorem parseOptionsFrom_eq_foldl (opt : Bytes) (i : Nat) (d : AtDhcp) (msgType : UInt8) :
    parseOptionsFrom opt i d msgType =
      (decode optPad optEnd opt i).foldl
        (fun s item => storeOption s.1 s.2 item.tag item.value) (d, msgType) := by
  induction i, d, msgType using parseOptionsFrom.induct opt with
  | case1 i d msgType inside tag pad ih =>
      rw [parseOptionsFrom, decode, if_pos inside, if_pos inside]
      dsimp only
      rw [if_pos pad, if_pos pad, ih]
  | case2 i d msgType inside tag not_pad stop =>
      rw [parseOptionsFrom, decode, if_pos inside, if_pos inside]
      dsimp only
      rw [if_neg not_pad, if_neg not_pad, if_pos stop, if_pos stop]
      rfl
  | case3 i d msgType inside tag not_pad not_stop no_length =>
      rw [parseOptionsFrom, decode, if_pos inside, if_pos inside]
      dsimp only
      rw [if_neg not_pad, if_neg not_pad, if_neg not_stop, if_neg not_stop, if_pos no_length,
        if_pos no_length]
      rfl
  | case4 i d msgType inside tag not_pad not_stop length n too_long =>
      rw [parseOptionsFrom, decode, if_pos inside, if_pos inside]
      dsimp only
      rw [if_neg not_pad, if_neg not_pad, if_neg not_stop, if_neg not_stop, if_neg length,
        if_neg length, if_pos too_long, if_pos too_long]
      rfl
  | case5 i d msgType inside tag not_pad not_stop length n fits stored ih =>
      rw [parseOptionsFrom, decode, if_pos inside, if_pos inside]
      dsimp only
      rw [if_neg not_pad, if_neg not_pad, if_neg not_stop, if_neg not_stop, if_neg length,
        if_neg length, if_neg fits, if_neg fits]
      exact ih
  | case6 i d msgType outside =>
      rw [parseOptionsFrom, decode, if_neg outside, if_neg outside]
      rfl

/-! ## What an option stores -/

/-- A word stored from an option with a given tag. -/
def wordOf (tag : UInt8) (load : Bytes → UInt32) (item : Item) : Option UInt32 :=
  if item.tag = tag ∧ 4 ≤ item.value.length then some (load item.value) else none

def serverOf : Item → Option UInt32 := wordOf optServer (rd32le · 0)
def netmaskOf : Item → Option UInt32 := wordOf optSubnet (rd32le · 0)
def routerOf : Item → Option UInt32 := wordOf optRouter (rd32le · 0)
def leaseOptionOf : Item → Option UInt32 := wordOf optLease (rd32be · 0)
def t1Of : Item → Option UInt32 := wordOf optT1 (rd32be · 0)
def t2Of : Item → Option UInt32 := wordOf optT2 (rd32be · 0)
def dnsOf : Item → Option UInt32 := wordOf optDns (rd32le · 0)

/-- The second DNS server of an option. -/
def secondDnsOf (item : Item) : Option UInt32 :=
  if item.tag = optDns ∧ 8 ≤ item.value.length then some (rd32le item.value 4) else none

/-- The number of DNS servers of an option. -/
def dnsCountOf (item : Item) : Option Nat :=
  if item.tag = optDns ∧ 4 ≤ item.value.length then
    some (if 8 ≤ item.value.length then 2 else 1)
  else none

/-- The client with the fields that the writes of some options give. -/
def storeWrites (d : AtDhcp) (last : {β : Type} → (Item → Option β) → Option β) : AtDhcp :=
  { d with
    server := (last serverOf).getD d.server
    netmask := (last netmaskOf).getD d.netmask
    router := (last routerOf).getD d.router
    leaseSecs := (last leaseOptionOf).getD d.leaseSecs
    t1Secs := (last t1Of).getD d.t1Secs
    t2Secs := (last t2Of).getD d.t2Secs
    dns0 := (last dnsOf).getD d.dns0
    dns1 := (last secondDnsOf).getD d.dns1
    dnsN := (last dnsCountOf).getD d.dnsN }

/-- One option writes its field and no other. -/
theorem storeOption_eq (d : AtDhcp) (msgType : UInt8) (item : Item) :
    storeOption d msgType item.tag item.value =
      (storeWrites d (fun write => write item), (messageTypeOf item).getD msgType) := by
  obtain ⟨tag, value⟩ := item
  simp only [storeOption, storeWrites, serverOf, netmaskOf, routerOf, leaseOptionOf, t1Of, t2Of,
    dnsOf, secondDnsOf, dnsCountOf, wordOf, messageTypeOf, optType, optServer, optSubnet, optRouter,
    optLease, optT1, optT2, optDns]
  by_cases type : tag = 53
  · subst type
    by_cases long : 1 ≤ value.length
    · simp [long]
    · simp [long]
  by_cases dns : tag = 6
  · subst dns
    by_cases long : 8 ≤ value.length
    · simp [long, Nat.le_trans (by decide : 4 ≤ 8) long]
    · by_cases word : 4 ≤ value.length
      · simp [long, word]
      · simp [long, word]
  by_cases word : 4 ≤ value.length
  · simp only [type, dns, word, false_and, and_true, if_false, Option.getD_none]
    split_ifs <;> simp_all
  · simp [type, dns, word]

/-- After a fold each field holds what the last option for it stores. -/
theorem foldl_storeOption (items : List Item) (d : AtDhcp) (msgType : UInt8) :
    items.foldl (fun s item => storeOption s.1 s.2 item.tag item.value) (d, msgType) =
      (storeWrites d fun write => lastWrite write items,
        (lastWrite messageTypeOf items).getD msgType) := by
  have writes {β : Type} (field : AtDhcp → β) (write : Item → Option β)
      (stores : ∀ e : AtDhcp, ∀ item, field (storeWrites e fun write => write item) =
        (write item).getD (field e)) :
      field (items.foldl (fun s item => storeOption s.1 s.2 item.tag item.value)
        (d, msgType)).1 = (lastWrite write items).getD (field d) := by
    refine foldl_field (fun s : AtDhcp × UInt8 => field s.1) write (fun s item => ?_) _ _
    rw [storeOption_eq]
    exact stores s.1 item
  have keeps {β : Type} (field : AtDhcp → β)
      (kept : ∀ e : AtDhcp, ∀ item, field (storeWrites e fun write => write item) = field e) :
      field (items.foldl (fun s item => storeOption s.1 s.2 item.tag item.value)
        (d, msgType)).1 = field d := by
    refine foldl_kept (fun s : AtDhcp × UInt8 => field s.1) (fun s item => ?_) _ _
    rw [storeOption_eq]
    exact kept s.1 item
  apply Prod.ext
  · apply AtDhcp.ext
    · exact keeps _ fun _ _ => rfl
    · exact keeps _ fun _ _ => rfl
    · exact keeps _ fun _ _ => rfl
    · exact keeps _ fun _ _ => rfl
    · exact writes _ serverOf fun _ _ => rfl
    · exact writes _ netmaskOf fun _ _ => rfl
    · exact writes _ routerOf fun _ _ => rfl
    · exact writes _ dnsOf fun _ _ => rfl
    · exact writes _ secondDnsOf fun _ _ => rfl
    · exact writes _ dnsCountOf fun _ _ => rfl
    · exact writes _ leaseOptionOf fun _ _ => rfl
    · exact writes _ t1Of fun _ _ => rfl
    · exact writes _ t2Of fun _ _ => rfl
    · exact keeps _ fun _ _ => rfl
    · exact keeps _ fun _ _ => rfl
    · exact keeps _ fun _ _ => rfl
  · refine foldl_field (fun s : AtDhcp × UInt8 => s.2) messageTypeOf (fun s item => ?_) _ _
    rw [storeOption_eq]

/-- After the walk each field holds what the last option for it stores. -/
theorem parseOptions_eq (d : AtDhcp) (opt : Bytes) :
    parseOptions d opt =
      (storeWrites d fun write => lastWrite write (decode optPad optEnd opt 0),
        (lastWrite messageTypeOf (decode optPad optEnd opt 0)).getD 0) := by
  rw [parseOptions, parseOptionsFrom_eq_foldl, foldl_storeOption]

/-! ## Acting on a frame -/

/-- The options of a reply whose BOOTP message starts at `bootp`. -/
def replyItems (eth : Bytes) (bootp : Nat) : List Item :=
  decode optPad optEnd (eth.drop (bootp + dhcpFixed)) 0

/-- The message type of a reply. -/
def replyType (eth : Bytes) (bootp : Nat) : UInt8 :=
  (lastWrite messageTypeOf (replyItems eth bootp)).getD 0

/-- The frame makes the client change its state: an OFFER of an address without a
lease, an ACK of an address, or a NAK. -/
def ActsOn (d : AtDhcp) (eth : Bytes) : Prop :=
  ∃ bootp, bootpReplyAt d.xid eth = some bootp ∧
    (replyType eth bootp = dhcpOffer ∧ rd32le eth (bootp + 16) ≠ 0 ∧ leaseActive d = false ∨
      replyType eth bootp = dhcpAck ∧ rd32le eth (bootp + 16) ≠ 0 ∨
      replyType eth bootp = dhcpNak)

/-- The last option stored in each field repeats what the client holds there. -/
structure Repeats (d : AtDhcp) (items : List Item) : Prop where
  server : ∀ v ∈ lastWrite serverOf items, v = d.server
  netmask : ∀ v ∈ lastWrite netmaskOf items, v = d.netmask
  router : ∀ v ∈ lastWrite routerOf items, v = d.router
  lease : ∀ v ∈ lastWrite leaseOptionOf items, v = d.leaseSecs
  t1 : ∀ v ∈ lastWrite t1Of items, v = d.t1Secs
  t2 : ∀ v ∈ lastWrite t2Of items, v = d.t2Secs
  dns : ∀ v ∈ lastWrite dnsOf items, v = d.dns0
  secondDns : ∀ v ∈ lastWrite secondDnsOf items, v = d.dns1
  dnsCount : ∀ n ∈ lastWrite dnsCountOf items, n = d.dnsN

theorem getD_eq_iff {β : Type} {o : Option β} {held : β} :
    o.getD held = held ↔ ∀ v ∈ o, v = held := by
  cases o with
  | none => simp
  | some v => simp

theorem storeWrites_eq_iff (d : AtDhcp) (items : List Item) :
    storeWrites d (fun write => lastWrite write items) = d ↔ Repeats d items := by
  constructor
  · intro same
    exact
      { server := getD_eq_iff.mp (congrArg AtDhcp.server same)
        netmask := getD_eq_iff.mp (congrArg AtDhcp.netmask same)
        router := getD_eq_iff.mp (congrArg AtDhcp.router same)
        lease := getD_eq_iff.mp (congrArg AtDhcp.leaseSecs same)
        t1 := getD_eq_iff.mp (congrArg AtDhcp.t1Secs same)
        t2 := getD_eq_iff.mp (congrArg AtDhcp.t2Secs same)
        dns := getD_eq_iff.mp (congrArg AtDhcp.dns0 same)
        secondDns := getD_eq_iff.mp (congrArg AtDhcp.dns1 same)
        dnsCount := getD_eq_iff.mp (congrArg AtDhcp.dnsN same) }
  · intro same
    apply AtDhcp.ext
    · rfl
    · rfl
    · rfl
    · rfl
    · exact getD_eq_iff.mpr same.server
    · exact getD_eq_iff.mpr same.netmask
    · exact getD_eq_iff.mpr same.router
    · exact getD_eq_iff.mpr same.dns
    · exact getD_eq_iff.mpr same.secondDns
    · exact getD_eq_iff.mpr same.dnsCount
    · exact getD_eq_iff.mpr same.lease
    · exact getD_eq_iff.mpr same.t1
    · exact getD_eq_iff.mpr same.t2
    · rfl
    · rfl
    · rfl

/-- A frame that is not acted on only has its options stored, and returns 0. -/
theorem atDhcpOnFrame_ignored {d : AtDhcp} {eth : Bytes} {bootp : Nat}
    (reply : bootpReplyAt d.xid eth = some bootp) (ignored : ¬ ActsOn d eth) (now : Nat) :
    atDhcpOnFrame d eth now =
      (storeWrites d fun write => lastWrite write (replyItems eth bootp), 0) := by
  have active : leaseActive (storeWrites d fun write => lastWrite write (replyItems eth bootp)) =
      leaseActive d := rfl
  unfold atDhcpOnFrame
  rw [reply]
  dsimp only
  rw [parseOptions_eq]
  dsimp only
  have not_ack : ¬ (replyType eth bootp = dhcpAck ∧ rd32le eth (bootp + 16) ≠ 0) :=
    fun ack => ignored ⟨bootp, reply, .inr (.inl ack)⟩
  have not_nak : ¬ replyType eth bootp = dhcpNak :=
    fun nak => ignored ⟨bootp, reply, .inr (.inr nak)⟩
  by_cases offer : replyType eth bootp = dhcpOffer ∧ rd32le eth (bootp + 16) ≠ 0
  · have held : leaseActive d = true := by
      by_contra free
      exact ignored ⟨bootp, reply, .inl ⟨offer.1, offer.2, Bool.eq_false_iff.mpr free⟩⟩
    exact (if_pos offer).trans (if_pos (active.trans held))
  · exact (if_neg offer).trans ((if_neg not_ack).trans (if_neg not_nak))

/-- **Frames that are not acted on.**  Such a frame leaves the client unchanged
exactly if it is no reply to the client or the options stored from it repeat what
the client holds. -/
theorem atDhcpOnFrame_unchanged_iff (d : AtDhcp) (eth : Bytes) (now : Nat) :
    (¬ ActsOn d eth → atDhcpOnFrame d eth now = (d, 0)) ↔
      (¬ ActsOn d eth → ∀ bootp, bootpReplyAt d.xid eth = some bootp →
        Repeats d (replyItems eth bootp)) := by
  constructor
  · intro unchanged ignored bootp reply
    have same := unchanged ignored
    rw [atDhcpOnFrame_ignored reply ignored now] at same
    exact (storeWrites_eq_iff d _).mp (Prod.mk.inj same).1
  · intro repeats ignored
    cases reply : bootpReplyAt d.xid eth with
    | none =>
        unfold atDhcpOnFrame
        rw [reply]
    | some bootp =>
        rw [atDhcpOnFrame_ignored reply ignored now,
          (storeWrites_eq_iff d _).mpr (repeats ignored bootp reply)]

/-- The client of the tests, bound by an OFFER and an ACK. -/
def boundClient : AtDhcp :=
  let d := atDhcpCreate #v[0x82, 0x5f, 0x77, 0xbe, 0x99, 0xb3] 7
  let d := (Poll.call d ⟨1000, ⟨1, 0⟩, 1518⟩).1
  let d := (atDhcpOnFrame d
    (buildReply d dhcpOffer 0x02e20b0a 0x01e20b0a [0, 0, 0x0e, 0x10]) 1100).1
  let d := (Poll.call d ⟨1200, ⟨1, 200000⟩, 1518⟩).1
  (atDhcpOnFrame d (buildReply d dhcpAck 0x02e20b0a 0x01e20b0a [0, 0, 0x0e, 0x10]) 1300).1

theorem boundClient_reachable : Reachable boundClient :=
  ⟨_, 7, [.poll ⟨1000, ⟨1, 0⟩, 1518⟩, .frame _ 1100, .poll ⟨1200, ⟨1, 200000⟩, 1518⟩,
    .frame _ 1300], rfl⟩

/-- An OFFER of another server that arrives while the lease is active replaces the
server and the lease length. -/
theorem atDhcpOnFrame_late_offer :
    ¬ ∀ d, Reachable d → ∀ eth now, ¬ ActsOn d eth → atDhcpOnFrame d eth now = (d, 0) := by
  intro unchanged
  have same := unchanged boundClient boundClient_reachable
    (buildReply boundClient dhcpOffer 0x03e20b0a 0x09e20b0a [0, 0, 0, 60]) 2000
  have reply : bootpReplyAt boundClient.xid
      (buildReply boundClient dhcpOffer 0x03e20b0a 0x09e20b0a [0, 0, 0, 60]) = some 42 := by
    decide +kernel
  have type : replyType
      (buildReply boundClient dhcpOffer 0x03e20b0a 0x09e20b0a [0, 0, 0, 60]) 42 = dhcpOffer := by
    decide +kernel
  have active : leaseActive boundClient = true := by decide +kernel
  have stored : (atDhcpOnFrame boundClient
      (buildReply boundClient dhcpOffer 0x03e20b0a 0x09e20b0a [0, 0, 0, 60]) 2000).1.server ≠
        boundClient.server := by
    decide +kernel
  refine stored (congrArg (fun result => result.1.server) (same ?_))
  rintro ⟨bootp, found, acts⟩
  obtain rfl := Option.some.inj (reply.symm.trans found)
  rw [type, active] at acts
  simp [dhcpOffer, dhcpAck, dhcpNak] at acts

end WiredTethering.Dhcp
