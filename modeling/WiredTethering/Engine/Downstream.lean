import WiredTethering.Engine.Arp
import WiredTethering.Engine.Threads
import WiredTethering.Engine.Utun

/-!
# From the phone to the host

`on_usb_in` hands a transfer to the unwrapper, which calls `on_eth_from_usb` for every frame:
the gateway's address is learned, the DHCP client is fed, ARP requests are answered, and
IPv4 packets go into the tunnel while the lease is applied.

A frame is handled in one step; how the other threads move inside of it is the subject of
`Threads`.
-/

namespace WiredTethering.Engine

open WiredTethering.Memory
open WiredTethering.Common
open WiredTethering.Dhcp
open WiredTethering.Rndis

/-- The engine, its transmit side, the datagrams that the tunnel has taken, and the receive
counters. -/
structure Downstream where
  engine : AtEngine
  tx : TxState
  tunnel : List Bytes
  rxBytes : Nat
  rxFrames : Nat
  rxErrors : Nat

/-- A frame, the clock when the DHCP client looks at it, and what `write` returns for it. -/
structure Arrival where
  frame : Bytes
  now : Nat
  written : Int
deriving DecidableEq

/-- `pause_datapath`, undisturbed. -/
def AtEngine.paused (e : AtEngine) : AtEngine :=
  { e with
    leaseApplied := false
    gwMacOk := false
    state := if e.state = .connected then .connecting else e.state }

/-- The gateway's address is learned from a frame. -/
def AtEngine.learn (e : AtEngine) (frame : Bytes) : AtEngine :=
  if e.gwMacOk then e
  else
    match atEthLearnGwMac frame e.hostMac e.gwIp with
    | some learned => { e with gwMac := learned, gwMacOk := true }
    | none => e

/-- The DHCP client is fed. -/
def AtEngine.feed (e : AtEngine) (frame : Bytes) (now : Nat) : AtEngine :=
  if looksLikeDhcpToClient frame then
    let (dhcp, ev) := atDhcpOnFrame e.dhcp frame now
    let e := { e with dhcp := dhcp }
    if ev < 0 then e.paused else e
  else e

def Downstream.addRx (s : Downstream) (n : Nat) : Downstream :=
  { s with rxBytes := s.rxBytes + n, rxFrames := s.rxFrames + 1 }

def Downstream.addRxErr (s : Downstream) : Downstream :=
  { s with rxErrors := s.rxErrors + 1 }

/-- `on_eth_from_usb`. -/
def onEthFromUsb (s : Downstream) (a : Arrival) : Downstream :=
  let len := a.frame.length
  if len < 14 then s
  else
    let et := ethertype a.frame
    let e := (s.engine.learn a.frame).feed a.frame a.now
    let s := { s with engine := e }
    if et = 0x0806 then
      { s with tx := handleArp e.hostIp e.hostMac s.tx a.frame }.addRx len
    else if et = 0x86DD then s.addRx len
    else if et = 0x0800 ∧ e.leaseApplied = true ∧ 14 < len then
      let (rc, buf) := atUtunWrite (a.frame.drop 14) afInet a.written
      if rc = 0 then { s with tunnel := s.tunnel ++ buf.toList }.addRx len
      else s.addRxErr
    else s.addRx len

/-- `rndis_unwrap_bulk_aligned` of a good read in `on_usb_in`; `env` has the clock and the
result of `write` for each frame. -/
def arrivals (frames : List Bytes) (env : Nat → Nat × Int) : List Arrival :=
  frames.mapIdx fun i frame => ⟨frame, (env i).1, (env i).2⟩

def unwrapBulk (s : Downstream) (bulk : Bytes) (env : Nat → Nat × Int) : Downstream :=
  (arrivals (received bulk s.tx.usbPacketAlign) env).foldl onEthFromUsb s

/-! ## The engine -/

/-- What a frame does to the engine. -/
def AtEngine.meet (e : AtEngine) (a : Arrival) : AtEngine :=
  if a.frame.length < 14 then e else (e.learn a.frame).feed a.frame a.now

/-- The DHCP client takes the frame for a NAK. -/
def AtEngine.Refused (e : AtEngine) (a : Arrival) : Prop :=
  looksLikeDhcpToClient a.frame = true ∧ (atDhcpOnFrame e.dhcp a.frame a.now).2 < 0

instance (e : AtEngine) (a : Arrival) : Decidable (e.Refused a) :=
  inferInstanceAs (Decidable (_ ∧ _))

theorem looksLikeDhcpToClient_long {frame : Bytes} (looks : looksLikeDhcpToClient frame = true) :
    14 ≤ frame.length := by
  by_contra short
  rw [looksLikeDhcpToClient, if_pos (by omega)] at looks
  exact Bool.noConfusion looks

section
variable (e : AtEngine) (frame : Bytes) (now : Nat) (a : Arrival)

theorem learn_leaseApplied : (e.learn frame).leaseApplied = e.leaseApplied := by
  unfold AtEngine.learn
  split_ifs
  · rfl
  · split <;> rfl

theorem learn_dhcp : (e.learn frame).dhcp = e.dhcp := by
  unfold AtEngine.learn
  split_ifs
  · rfl
  · split <;> rfl

theorem learn_host : (e.learn frame).hostIp = e.hostIp ∧ (e.learn frame).hostMac = e.hostMac := by
  unfold AtEngine.learn
  split_ifs
  · exact ⟨rfl, rfl⟩
  · split <;> exact ⟨rfl, rfl⟩

theorem feed_host :
    (e.feed frame now).hostIp = e.hostIp ∧ (e.feed frame now).hostMac = e.hostMac := by
  unfold AtEngine.feed
  split_ifs
  · dsimp only
    split_ifs <;> exact ⟨rfl, rfl⟩
  · exact ⟨rfl, rfl⟩

/-- No frame changes the host's addresses. -/
theorem meet_host : (e.meet a).hostIp = e.hostIp ∧ (e.meet a).hostMac = e.hostMac := by
  unfold AtEngine.meet
  split_ifs
  · exact ⟨rfl, rfl⟩
  · have learned := learn_host e a.frame
    have fed := feed_host (e.learn a.frame) a.frame a.now
    exact ⟨fed.1.trans learned.1, fed.2.trans learned.2⟩

/-- Only a NAK takes the lease away. -/
theorem meet_leaseApplied :
    (e.meet a).leaseApplied = if e.Refused a then false else e.leaseApplied := by
  by_cases refused : e.Refused a
  · have long := looksLikeDhcpToClient_long refused.1
    have nak := refused.2
    rw [← learn_dhcp e a.frame] at nak
    rw [if_pos refused, AtEngine.meet, if_neg (Nat.not_lt.mpr long), AtEngine.feed,
      if_pos refused.1]
    dsimp only
    rw [if_pos nak]
    rfl
  · rw [if_neg refused, AtEngine.meet]
    split_ifs
    · rfl
    · rw [AtEngine.feed]
      by_cases looks : looksLikeDhcpToClient a.frame = true
      · have kept : ¬ (atDhcpOnFrame (e.learn a.frame).dhcp a.frame a.now).2 < 0 := by
          rw [learn_dhcp]
          exact fun nak => refused ⟨looks, nak⟩
        rw [if_pos looks]
        dsimp only
        rw [if_neg kept]
        exact learn_leaseApplied e a.frame
      · rw [if_neg looks]
        exact learn_leaseApplied e a.frame

end

/-! ## One frame -/

/-- The datagram that a frame puts into the tunnel while the lease is applied. -/
def Arrival.datagram? (a : Arrival) : Option Bytes :=
  if ethertype a.frame = 0x0800 ∧ 14 < a.frame.length ∧ a.frame.length ≤ 2058 ∧
      a.written = ((a.frame.length - 10 : Nat) : Int) then
    some (be32 afInet ++ a.frame.drop 14)
  else none

/-- An IPv4 packet that the tunnel does not take. -/
def Arrival.lost (a : Arrival) : Bool :=
  ethertype a.frame = 0x0800 ∧ 14 < a.frame.length ∧ a.datagram? = none

theorem Arrival.other_type {a : Arrival} (type : ethertype a.frame ≠ 0x0800) :
    a.datagram? = none ∧ a.lost = false := by
  constructor
  · exact if_neg fun ip => type ip.1
  · exact decide_eq_false fun ip => type ip.1

/-- The tunnel takes the packet of a frame, or `at_utun_write` fails. -/
theorem Arrival.written_ip {a : Arrival} (type : ethertype a.frame = 0x0800)
    (payload : 14 < a.frame.length) :
    (∃ datagram, atUtunWrite (a.frame.drop 14) afInet a.written = (0, some datagram) ∧
        a.datagram? = some datagram ∧ a.lost = false) ∨
      ((atUtunWrite (a.frame.drop 14) afInet a.written).1 ≠ 0 ∧ a.datagram? = none ∧
        a.lost = true) := by
  have size : (be32 afInet ++ a.frame.drop 14).length = a.frame.length - 10 := by
    rw [List.length_append, be32_length, List.length_drop]
    omega
  have some_ : (a.frame.drop 14).length ≠ 0 := by
    rw [List.length_drop]
    omega
  by_cases taken : a.frame.length ≤ 2058 ∧ a.written = ((a.frame.length - 10 : Nat) : Int)
  · left
    have fits : ¬ utunWriteBuf < (a.frame.drop 14).length + 4 := by
      rw [List.length_drop, utunWriteBuf]
      omega
    have here : a.datagram? = some (be32 afInet ++ a.frame.drop 14) :=
      if_pos ⟨type, payload, taken.1, taken.2⟩
    refine ⟨_, ?_, here, ?_⟩
    · rw [atUtunWrite, if_neg some_, if_neg fits]
      dsimp only
      rw [size, if_pos taken.2]
    · apply decide_eq_false
      rintro ⟨-, -, none_⟩
      rw [here] at none_
      cases none_
  · right
    have none_ : a.datagram? = none := if_neg fun ip => taken ip.2.2
    refine ⟨?_, none_, decide_eq_true ⟨type, payload, none_⟩⟩
    rw [atUtunWrite, if_neg some_]
    by_cases fits : utunWriteBuf < (a.frame.drop 14).length + 4
    · rw [if_pos fits]
      exact (by decide : (-1 : Int) ≠ 0)
    · rw [if_neg fits]
      dsimp only
      rw [size, if_neg]
      · exact (by decide : (-1 : Int) ≠ 0)
      · intro whole
        rw [List.length_drop, utunWriteBuf] at fits
        exact taken ⟨by omega, whole⟩

/-- What a frame does, part by part. -/
theorem onEthFromUsb_eq (s : Downstream) {a : Arrival} (long : 14 ≤ a.frame.length) :
    let leased := (s.engine.meet a).leaseApplied = true
    onEthFromUsb s a =
      { engine := s.engine.meet a
        tx :=
          if ethertype a.frame = 0x0806 then
            handleArp s.engine.hostIp s.engine.hostMac s.tx a.frame
          else s.tx
        tunnel := s.tunnel ++ if leased then a.datagram?.toList else []
        rxBytes := s.rxBytes + if leased ∧ a.lost = true then 0 else a.frame.length
        rxFrames := s.rxFrames + if leased ∧ a.lost = true then 0 else 1
        rxErrors := s.rxErrors + if leased ∧ a.lost = true then 1 else 0 } := by
  intro leased
  have met : (s.engine.learn a.frame).feed a.frame a.now = s.engine.meet a :=
    (if_neg (Nat.not_lt.mpr long)).symm
  have host := meet_host s.engine a
  rw [onEthFromUsb]
  dsimp only
  rw [if_neg (Nat.not_lt.mpr long), met]
  by_cases arp : ethertype a.frame = 0x0806
  · have other := Arrival.other_type (ne_of_eq_of_ne arp (by decide : (0x0806 : UInt16) ≠ 0x0800))
    rw [if_pos arp, if_pos arp, host.1, host.2, other.1, other.2]
    simp [Downstream.addRx]
  · rw [if_neg arp, if_neg arp]
    by_cases ip4 : ethertype a.frame = 0x0800
    · have notIp6 : ethertype a.frame ≠ 0x86DD :=
        ne_of_eq_of_ne ip4 (by decide : (0x0800 : UInt16) ≠ 0x86DD)
      rw [if_neg notIp6]
      by_cases entered : leased ∧ 14 < a.frame.length
      · rw [if_pos ⟨ip4, entered⟩]
        rcases Arrival.written_ip ip4 entered.2 with
          ⟨datagram, wrote, here, kept⟩ | ⟨failed, none_, lost⟩
        · rw [wrote, here, kept, if_pos entered.1]
          simp [Downstream.addRx]
        · rw [if_neg failed, none_, lost]
          simp [Downstream.addRxErr, entered.1]
      · rw [if_neg fun entering => entered entering.2]
        by_cases applied : leased
        · have empty : ¬ 14 < a.frame.length := fun payload => entered ⟨applied, payload⟩
          have none_ : a.datagram? = none := if_neg fun ip => empty ip.2.1
          have kept : a.lost = false := decide_eq_false fun ip => empty ip.2.1
          rw [none_, kept]
          simp [Downstream.addRx]
        · rw [if_neg applied, if_neg fun gone => applied gone.1,
            if_neg fun gone => applied gone.1, if_neg fun gone => applied gone.1,
            List.append_nil]
          rfl
    · have other := Arrival.other_type ip4
      have outside : ¬ (ethertype a.frame = 0x0800 ∧ leased ∧ 14 < a.frame.length) :=
        fun entering => ip4 entering.1
      rw [other.1, other.2, if_neg outside, ite_self]
      simp [Downstream.addRx]

/-! ## The frames of a transfer -/

/-- How the frames in front of the first NAK are told from the rest. -/
structure CutAtNak (e : AtEngine) (as front back : List Arrival) : Prop where
  whole : as = front ++ back
  leased : (front.foldl AtEngine.meet e).leaseApplied = true
  nak : ∀ a rest, back = a :: rest → (front.foldl AtEngine.meet e).Refused a

/-- What the frames leave behind: the engine by itself, an answer to each ARP request, and in
the tunnel the packets that came in front of a NAK. -/
structure Handled (s last : Downstream) (as : List Arrival) : Prop where
  engine : last.engine = as.foldl AtEngine.meet s.engine
  answers : last.tx = (as.filter fun a => ethertype a.frame = 0x0806).foldl
    (fun tx a => handleArp s.engine.hostIp s.engine.hostMac tx a.frame) s.tx
  counted : last.rxFrames + last.rxErrors = s.rxFrames + s.rxErrors + as.length
  unleased : s.engine.leaseApplied = false →
    last.engine.leaseApplied = false ∧ last.tunnel = s.tunnel ∧ last.rxErrors = s.rxErrors
  leased : s.engine.leaseApplied = true → ∃ front back, CutAtNak s.engine as front back ∧
    (last.engine.leaseApplied = true ↔ back = []) ∧
    last.tunnel = s.tunnel ++ front.filterMap Arrival.datagram? ∧
    last.rxErrors = s.rxErrors + front.countP Arrival.lost

theorem Handled.nil (s : Downstream) : Handled s s [] where
  engine := rfl
  answers := rfl
  counted := rfl
  unleased := fun unleased => ⟨unleased, rfl, rfl⟩
  leased := by
    intro leased
    refine ⟨[], [], ⟨rfl, leased, ?_⟩, ?_, ?_, rfl⟩
    · intro a rest cons
      cases cons
    · exact iff_of_true leased rfl
    · exact (List.append_nil _).symm

/-- A frame in front of handled ones. -/
theorem Handled.cons {s last : Downstream} {a : Arrival} {as : List Arrival}
    (long : 14 ≤ a.frame.length) (handled : Handled (onEthFromUsb s a) last as) :
    Handled s last (a :: as) := by
  have host := meet_host s.engine a
  have first := onEthFromUsb_eq s long
  have lease := meet_leaseApplied s.engine a
  dsimp only at first
  rw [first] at handled
  constructor
  · exact handled.engine
  · have answers := handled.answers
    rw [host.1, host.2] at answers
    rw [answers, List.filter_cons]
    by_cases arp : ethertype a.frame = 0x0806
    · rw [if_pos arp, if_pos (decide_eq_true arp), List.foldl_cons]
    · have unasked : ¬ decide (ethertype a.frame = 0x0806) = true := mt of_decide_eq_true arp
      rw [if_neg arp, if_neg unasked]
  · have counted := handled.counted
    rw [counted, List.length_cons]
    dsimp only
    split_ifs <;> omega
  · intro unleased
    have still : (s.engine.meet a).leaseApplied = false := by
      rw [lease, unleased, ite_self]
    have later := handled.unleased still
    rw [still] at later
    simpa using later
  · intro leased
    by_cases refused : s.engine.Refused a
    · have gone : (s.engine.meet a).leaseApplied = false := by
        rw [lease, if_pos refused]
      have later := handled.unleased gone
      rw [gone] at later
      refine ⟨[], a :: as, ⟨rfl, leased, ?_⟩, ?_, ?_, ?_⟩
      · intro b rest cons
        cases cons
        exact refused
      · rw [later.1]
        exact iff_of_false Bool.false_ne_true (List.cons_ne_nil a as)
      · simpa using later.2.1
      · simpa using later.2.2
    · have kept : (s.engine.meet a).leaseApplied = true := by
        rw [lease, if_neg refused, leased]
      obtain ⟨front, back, cut, ends, tunnel, errors⟩ := handled.leased kept
      rw [kept] at tunnel errors
      refine ⟨a :: front, back, ⟨?_, cut.leased, cut.nak⟩, ends, ?_, ?_⟩
      · rw [cut.whole, List.cons_append]
      · rw [tunnel, if_pos rfl, List.append_assoc, List.filterMap_cons]
        cases a.datagram? <;> rfl
      · rw [errors, List.countP_cons]
        dsimp only
        cases a.lost with
        | true =>
            simp
            omega
        | false => simp

theorem handled_foldl (s : Downstream) {as : List Arrival}
    (long : ∀ a ∈ as, 14 ≤ a.frame.length) : Handled s (as.foldl onEthFromUsb s) as := by
  induction as generalizing s with
  | nil => exact .nil s
  | cons a as ih =>
      rw [List.forall_mem_cons] at long
      exact .cons long.1 (ih (onEthFromUsb s a) long.2)

/-- **From the phone to the host.**  A transfer of wrapped frames, with any padding between
the records, is handled frame by frame.  Each frame is counted once; ARP requests are answered
in order; while the lease is applied the tunnel takes exactly the IPv4 packets, each once, in
order and whole, up to the first NAK, and nothing behind it. -/
theorem transfer_reaches_tunnel (s : Downstream) (sent : List Sent) (env : Nat → Nat × Int)
    (valid : ∀ t ∈ sent, t.Valid) :
    Handled s (unwrapBulk s (transfer sent) env)
      (arrivals (sent.map fun t => t.frame ++ zeros (60 - t.frame.length)) env) := by
  rw [unwrapBulk, received_transfer valid]
  apply handled_foldl
  intro a member
  obtain ⟨i, inside, rfl⟩ := List.mem_mapIdx.mp member
  rw [List.getElem_map, padded_length, paddedLength, ethMin]
  omega

/-- A connected engine whose queue and tunnel are empty. -/
def connectedDownstream : Downstream where
  engine := { AtEngine.start (sixBytes 2 0 0 0 0 1) 7 with state := .connected, leaseApplied := true }
  tx := .start (fun _ => zeros 4096) 2
  tunnel := []
  rxBytes := 0
  rxFrames := 0
  rxErrors := 0

/-- An IPv4 packet of 46 bytes, and one of IPv6. -/
def mixedTransfer : List Sent :=
  [⟨zeros 12 ++ [0x08, 0x00, 0x45] ++ zeros 45, zeros 200, 2, none, 3⟩,
    ⟨zeros 12 ++ [0x86, 0xDD, 0x60] ++ zeros 60, zeros 200, 3, some 9, 0⟩]

theorem transfer_reaches_tunnel_mixed :
    Handled connectedDownstream
        (unwrapBulk connectedDownstream (transfer mixedTransfer) fun _ => (0, 50))
        (arrivals (mixedTransfer.map fun t => t.frame ++ zeros (60 - t.frame.length))
          fun _ => (0, 50)) ∧
      (unwrapBulk connectedDownstream (transfer mixedTransfer) fun _ => (0, 50)).tunnel =
        [[0, 0, 0, 2, 0x45] ++ zeros 45] := by
  have valid : ∀ t ∈ mixedTransfer, t.Valid := by
    rw [mixedTransfer, List.forall_mem_cons, List.forall_mem_singleton]
    constructor
    · exact ⟨by decide, by decide, by decide +kernel⟩
    · exact ⟨by decide, by decide, by decide +kernel⟩
  constructor
  · exact transfer_reaches_tunnel connectedDownstream mixedTransfer _ valid
  · decide +kernel

end WiredTethering.Engine
