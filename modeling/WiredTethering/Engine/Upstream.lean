import WiredTethering.Common.Fixed
import WiredTethering.Engine.Arp
import WiredTethering.Engine.Utun

/-!
# From the host to the phone

`utun_rx_thread` reads datagrams of the tunnel, fills their checksums, puts an Ethernet header
in front and hands them to `send_eth_usb`.  The other threads go on meanwhile: they change the
lease and the addresses, send frames of their own, and take records off the queue.

A round of the thread touches what it shares in one place only, the counter of errors or the
queue, so it is one step.  What it loads on the way comes with its label.
-/

namespace WiredTethering.Engine

open WiredTethering.Memory
open WiredTethering.Common
open WiredTethering.Rndis
open WiredTethering.Usb
open WiredTethering.Transition

/-- The buffers `ip` and `eth` of `utun_rx_thread`. -/
def utunRxBuf : Nat := 2048

/-- The Ethernet type of a packet, by its version. -/
def ipEthertype (ip : Bytes) : Bytes :=
  if byteAt ip 0 >>> 4 = 6 then [0x86, 0xDD] else [0x08, 0x00]

/-- `wrap_ip_eth`: the frame, empty when it does not fit. -/
def wrapIpEth (gwMac hostMac : Mac) (ip : Bytes) (cap : Nat) : Bytes :=
  if cap < 14 + ip.length then []
  else gwMac.toList ++ (hostMac.toList ++ (ipEthertype ip ++ ip))

theorem ipEthertype_length (ip : Bytes) : (ipEthertype ip).length = 2 := by
  unfold ipEthertype
  split_ifs <;> rfl

theorem wrapIpEth_length (gwMac hostMac : Mac) (ip : Bytes) (cap : Nat) :
    (wrapIpEth gwMac hostMac ip cap).length = if cap < 14 + ip.length then 0 else 14 + ip.length := by
  unfold wrapIpEth
  split_ifs
  · rfl
  · simp only [List.length_append, gwMac.length_toList, hostMac.length_toList,
      ipEthertype_length]
    omega

theorem wrapIpEth_addressable (gwMac hostMac : Mac) (ip : Bytes) :
    (wrapIpEth gwMac hostMac ip utunRxBuf).length < 2 ^ 63 := by
  rw [wrapIpEth_length, utunRxBuf]
  split_ifs <;> omega

/-- The frame in the buffer `eth` of `utun_rx_thread`. -/
def upstreamFrame (gwMac hostMac : Mac) (ip : Bytes) : Frame :=
  ⟨wrapIpEth gwMac hostMac ip utunRxBuf, wrapIpEth_addressable gwMac hostMac ip⟩

/-! ## The thread -/

/-- What became of a datagram. -/
inductive Fate
  /-- `AT_UTUN_READ_DROP`. -/
  | dropped
  | skipped
  /-- `wrap_ip_eth` returned zero. -/
  | unwrapped
  /-- `send_eth_usb` failed with this many frames in the queue. -/
  | refused (waiting : Int)
  /-- The frame is the one at a position among the accepted ones. -/
  | queued (gwMac hostMac : Mac) (position : Nat)
deriving DecidableEq

/-- A datagram of the tunnel, `lease_applied` in its round, and what became of it. -/
structure Forwarding where
  datagram : Bytes
  leaseApplied : Bool
  fate : Fate

/-- The transmit side and the thread.  `errors` is what the thread has added to `tx_errors`;
no step looks at `log`. -/
structure Upstream where
  tx : TxState
  waitMs : Nat
  errors : Nat
  log : List Forwarding

def Upstream.start (flat : Nat → Bytes) (packetAlignShift : UInt32) : Upstream :=
  ⟨.start flat packetAlignShift, 1, 0, []⟩

/-- What a round finds: the tunnel, `lease_applied`, and the addresses under `mu`. -/
structure Round where
  input : UtunInput
  leaseApplied : Bool
  gwMac : Mac
  hostMac : Mac

def UtunInput.datagram? : UtunInput → Option Bytes
  | .datagram bytes => some bytes
  | _ => none

def Upstream.note (s : Upstream) (r : Round) (fate : Fate) : Upstream :=
  { s with log := s.log ++ r.input.datagram?.toList.map fun bytes => ⟨bytes, r.leaseApplied, fate⟩ }

/-- `send_eth_usb` of the thread. -/
def Upstream.send (s : Upstream) (r : Round) (eth : Frame) : Upstream :=
  let (tx, rc) := sendEthUsb s.tx eth
  if rc = 0 then
    { s with tx := tx }.note r (.queued r.gwMac r.hostMac s.tx.history.accepted.length)
  else { s with tx := tx }.note r (.refused s.tx.txq.n)

/-- One round of `utun_rx_thread`. -/
def utunRound (s : Upstream) (r : Round) : Upstream :=
  let read := atUtunRead r.input utunRxBuf 0 afInet
  if read.rc = utunReadDrop then
    { s with errors := s.errors + 1, waitMs := 0 }.note r .dropped
  else if read.rc ≠ 0 ∨ read.len < 20 then { s with waitMs := 1 }.note r .skipped
  else
    let s := { s with waitMs := 0 }
    if read.family = afInet6 then s.note r .skipped
    else if !r.leaseApplied then s.note r .skipped
    else
      let ip := if read.family = afInet then (atIp4FixChecksums read.ip).1 else read.ip
      let eth := upstreamFrame r.gwMac r.hostMac ip
      if eth.bytes.length = 0 then { s with errors := s.errors + 1 }.note r .unwrapped
      else s.send r eth

inductive UtunLabel
  /-- A step of another thread. -/
  | other (label : TxLabel)
  | round (r : Round)

def UtunLabel.datagram? : UtunLabel → Option Bytes
  | .other _ => none
  | .round r => r.input.datagram?

/-- One step. -/
def upStep : Step Upstream UtunLabel
  | s, .other label => (txStep s.tx label).map fun tx => { s with tx := tx }
  | s, .round r => some (utunRound s r)

/-! ## One round -/

/-- The packet that goes on: checksums are filled in what is marked as IPv4. -/
def forwardedIp (datagram : Bytes) : Bytes :=
  let ip := datagram.drop 4
  if rd32be datagram 0 = afInet then (atIp4FixChecksums ip).1 else ip

/-- The thread forwards packets of 20 to 2034 bytes that are not marked as IPv6, while the
lease is applied. -/
structure Forwardable (datagram : Bytes) (leaseApplied : Bool) : Prop where
  long : 24 ≤ datagram.length
  short : datagram.length ≤ 2038
  family : rd32be datagram 0 ≠ afInet6
  leased : leaseApplied = true

instance (datagram : Bytes) (leaseApplied : Bool) :
    Decidable (Forwardable datagram leaseApplied) :=
  decidable_of_iff
    (24 ≤ datagram.length ∧ datagram.length ≤ 2038 ∧ rd32be datagram 0 ≠ afInet6 ∧
      leaseApplied = true)
    ⟨fun h => ⟨h.1, h.2.1, h.2.2.1, h.2.2.2⟩, fun h => ⟨h.long, h.short, h.family, h.leased⟩⟩

theorem atIp4FixChecksums_length (ip : Bytes) : (atIp4FixChecksums ip).1.length = ip.length := by
  by_cases accepted : Accepted ip
  · rw [atIp4FixChecksums_accepted accepted]
    exact (fixedPacket_sameStart accepted).length
  · rw [atIp4FixChecksums_rejected accepted]

theorem forwardedIp_length (datagram : Bytes) :
    (forwardedIp datagram).length = datagram.length - 4 := by
  unfold forwardedIp
  dsimp only
  split_ifs
  · rw [atIp4FixChecksums_length, List.length_drop]
  · exact List.length_drop

/-- A round by the length of its datagram. -/
theorem utunRound_datagram (s : Upstream) (datagram : Bytes) (leaseApplied : Bool)
    (gwMac hostMac : Mac) :
    let r : Round := ⟨.datagram datagram, leaseApplied, gwMac, hostMac⟩
    utunRound s r =
      if 2052 < datagram.length then
        { s with errors := s.errors + 1, waitMs := 0 }.note r .dropped
      else if datagram.length < 24 then { s with waitMs := 1 }.note r .skipped
      else if rd32be datagram 0 = afInet6 ∨ leaseApplied = false then
        { s with waitMs := 0 }.note r .skipped
      else if 2038 < datagram.length then
        { s with errors := s.errors + 1, waitMs := 0 }.note r .unwrapped
      else { s with waitMs := 0 }.send r
        (upstreamFrame gwMac hostMac (forwardedIp datagram)) := by
  intro r
  have length := wrapIpEth_length gwMac hostMac (forwardedIp datagram) utunRxBuf
  rw [forwardedIp_length] at length
  have room : ∀ n, utunRxBuf < n ↔ 2048 < n := fun _ => Iff.rfl
  have read : atUtunRead (.datagram datagram) utunRxBuf 0 afInet =
      if datagram.length < 5 then ⟨1, 0, afInet, []⟩
      else if 2052 < datagram.length then ⟨utunReadDrop, 0, afInet, []⟩
      else ⟨0, datagram.length - 4, rd32be datagram 0, datagram.drop 4⟩ :=
    atUtunRead_datagram (by decide) datagram
  simp only [room] at length
  by_cases long : 2052 < datagram.length
  · rw [if_neg (by omega), if_pos long] at read
    rw [utunRound, read, if_pos long]
    rfl
  · rw [if_neg long]
    by_cases short : datagram.length < 24
    · rw [if_pos short]
      by_cases tiny : datagram.length < 5
      · rw [if_pos tiny] at read
        rw [utunRound, read]
        rfl
      · rw [if_neg tiny, if_neg long] at read
        rw [utunRound, read, if_neg (by decide : ¬ (0 : Int) = utunReadDrop),
          if_pos (.inr (by dsimp only; omega))]
    · rw [if_neg (by omega), if_neg long] at read
      have going : ¬ ((0 : Int) ≠ 0 ∨ datagram.length - 4 < 20) := by
        rintro (failed | few)
        · exact failed rfl
        · omega
      rw [if_neg short, utunRound, read,
        if_neg (by decide : ¬ (0 : Int) = utunReadDrop), if_neg going]
      dsimp only
      by_cases family : rd32be datagram 0 = afInet6
      · rw [if_pos family, if_pos (.inl family)]
      · rw [if_neg family]
        by_cases leased : leaseApplied = false
        · have off : (!r.leaseApplied) = true := congrArg not leased
          rw [if_pos off, if_pos (.inr leased)]
        · have applied : ¬ (!r.leaseApplied) = true :=
            ne_of_eq_of_ne (congrArg not (Bool.eq_true_of_not_eq_false leased)) Bool.false_ne_true
          have carried : ¬ (rd32be datagram 0 = afInet6 ∨ leaseApplied = false) := by
            rintro (other | off)
            · exact family other
            · exact leased off
          rw [if_neg applied, if_neg carried]
          by_cases fits : 2038 < datagram.length
          · rw [if_pos fits]
            exact if_pos (length.trans (if_pos (by omega)))
          · rw [if_neg fits]
            exact if_neg (ne_of_eq_of_ne (length.trans (if_neg (by omega))) (by omega))

/-! ## The other threads -/

/-- What only `send_eth_usb` changes. -/
def TxState.settled (s : TxState) : Bool × UInt32 × List Frame :=
  (s.allocated, s.packetAlignShift, s.history.accepted)

section
variable {s next : TxState}

theorem dropHead_settled (idx : Nat) : (dropHead s idx).settled = s.settled := by
  unfold dropHead
  dsimp only
  split_ifs <;> rfl

theorem submitOut_settled (idx n : Nat) (write writeTO : IOReturn) (failed : TxIo) :
    (submitOut s idx n write writeTO failed).settled = s.settled := by
  unfold submitOut
  dsimp only
  split_ifs <;> rfl

theorem io_settled (stepped : txStep s .io = some next) : next.settled = s.settled := by
  cases here : s.io <;> simp only [txStep, here, Option.some.injEq, reduceCtorEq] at stepped
  all_goals
    rw [← stepped]
  case submitFailed =>
    unfold submitFailed
    split_ifs
    · rfl
    · exact dropHead_settled _
  case drop => exact dropHead_settled _
  case completing =>
    unfold onUsbOut
    dsimp only
    split_ifs <;> rfl
  case drainHead =>
    unfold usbDrainTx
    split_ifs <;> rfl
  case countOut =>
    simp only [TxState.settled]
    split_ifs <;> rfl
  case countDrain =>
    simp only [TxState.settled]
    split_ifs <;> rfl
  case countDrop => rfl
  case drainPop => rfl

theorem txStep_settled {label : TxLabel} (stepped : txStep s label = some next)
    (other : ∀ eth, label ≠ .send eth) : next.settled = s.settled := by
  cases label with
  | send eth => exact absurd rfl (other eth)
  | io => exact io_settled stepped
  | tryStartOut =>
      simp only [txStep, Option.ite_none_right_eq_some, Option.some.injEq] at stepped
      rw [← stepped.2]
      unfold usbTryStartOut
      split_ifs <;> rfl
  | countRejected | outDone | drain =>
      simp only [txStep, Option.ite_none_right_eq_some, Option.some.injEq] at stepped
      rw [← stepped.2]
      rfl
  | submit write writeTO =>
      cases here : s.io <;> simp only [txStep, here, Option.some.injEq, reduceCtorEq] at stepped
      all_goals
        rw [← stepped]
        exact submitOut_settled _ _ _ _ _
  | bulkWrite wr =>
      cases here : s.io <;> simp only [txStep, here, Option.some.injEq, reduceCtorEq] at stepped
      rw [← stepped]
      rfl

/-- The queue accepts a frame or counts an error, and is otherwise as it was. -/
theorem sendEthUsb_cases (inv : TxInv s) (eth : Frame) :
    (sendEthUsb s eth = (s.reject, -1) ∧ (s.allocated = true → eth.bytes ≠ [] →
      recordLength eth.bytes s.usbPacketAlign ≤ txqSlot → s.txq.n = txqCap)) ∨
      ((sendEthUsb s eth).2 = 0 ∧ (sendEthUsb s eth).1.settled =
        (s.allocated, s.packetAlignShift, s.history.accepted ++ [eth])) := by
  rcases sendEthUsb_spec inv.queue eth with refused | ⟨_, _, _, _, _, accepted⟩
  · left
    constructor
    · exact refused
    · intro allocated nonempty fits
      apply Int.le_antisymm inv.queue.wf.le_cap
      by_contra room
      have taken := (sendEthUsb_accepted inv.queue allocated (Int.lt_of_not_ge room) nonempty fits).1
      rw [refused] at taken
      exact absurd taken (by decide : (-1 : Int) ≠ 0)
  · right
    rw [accepted]
    exact ⟨rfl, rfl⟩

/-- Accepted frames stay where they are. -/
theorem txStep_accepted (inv : TxInv s) {label : TxLabel} (stepped : txStep s label = some next) :
    s.history.accepted <+: next.history.accepted := by
  by_cases sends : ∃ eth, label = .send eth
  · obtain ⟨eth, rfl⟩ := sends
    cases stepped
    rcases sendEthUsb_cases inv eth with ⟨refused, _⟩ | ⟨_, accepted⟩
    · rw [refused]
      exact List.prefix_rfl
    · have grown : (sendEthUsb s eth).1.history.accepted = s.history.accepted ++ [eth] :=
        congrArg (fun settled => settled.2.2) accepted
      rw [grown]
      exact List.prefix_append _ _
  · have same := txStep_settled stepped fun eth sent => sends ⟨eth, sent⟩
    have unchanged : next.history.accepted = s.history.accepted :=
      congrArg (fun settled => settled.2.2) same
    exact unchanged ▸ List.prefix_rfl

end

/-! ## What a run keeps -/

/-- The fate of a datagram is the one that its length, its family and the lease give it. -/
def Forwarding.Follows (f : Forwarding) : Prop :=
  match f.fate with
  | .dropped => 2052 < f.datagram.length
  | .skipped =>
      f.datagram.length ≤ 2052 ∧
        (f.datagram.length < 24 ∨ rd32be f.datagram 0 = afInet6 ∨ f.leaseApplied = false)
  | .unwrapped => 2038 < f.datagram.length ∧ f.datagram.length ≤ 2052
  | .refused waiting => Forwardable f.datagram f.leaseApplied ∧ waiting = 128
  | .queued _ _ _ => Forwardable f.datagram f.leaseApplied

/-- The place of a datagram's frame among the accepted ones. -/
def Forwarding.position (f : Forwarding) : Option Nat :=
  match f.fate with
  | .queued _ _ position => some position
  | _ => none

/-- The thread itself counts an error. -/
def Forwarding.counted (f : Forwarding) : Bool :=
  f.fate = .dropped ∨ f.fate = .unwrapped

/-- The frame of a queued datagram stands at its place. -/
def Forwarding.Carried (f : Forwarding) (accepted : List Frame) : Prop :=
  ∀ gwMac hostMac position, f.fate = .queued gwMac hostMac position →
    accepted[position]? = some (upstreamFrame gwMac hostMac (forwardedIp f.datagram))

structure UpstreamInv (s : Upstream) : Prop where
  tx : TxInv s.tx
  allocated : s.tx.allocated = true
  follows : ∀ f ∈ s.log, f.Follows
  carried : ∀ f ∈ s.log, f.Carried s.tx.history.accepted
  ordered : (s.log.filterMap Forwarding.position).Pairwise (· < ·)
  errors : s.errors = s.log.countP Forwarding.counted

theorem Forwarding.Carried.mono {f : Forwarding} {accepted more : List Frame}
    (carried : f.Carried accepted) (grows : accepted <+: more) : f.Carried more := by
  intro gwMac hostMac position queued
  obtain ⟨rest, rfl⟩ := grows
  have here := carried gwMac hostMac position queued
  rw [List.getElem?_append_left (List.getElem?_eq_some_iff.mp here).1]
  exact here

namespace UpstreamInv

variable {s : Upstream}

theorem position_lt (inv : UpstreamInv s) {position : Nat}
    (taken : position ∈ s.log.filterMap Forwarding.position) :
    position < s.tx.history.accepted.length := by
  obtain ⟨f, member, here⟩ := List.mem_filterMap.mp taken
  cases fate : f.fate with
  | queued gwMac hostMac at_ =>
      simp only [Forwarding.position, fate, Option.some.injEq] at here
      have carried := inv.carried f member gwMac hostMac at_ fate
      rw [← here]
      exact (List.getElem?_eq_some_iff.mp carried).1
  | _ => simp [Forwarding.position, fate] at here

/-- Another thread moves. -/
theorem other (inv : UpstreamInv s) {label : TxLabel} {tx : TxState}
    (stepped : txStep s.tx label = some tx) : UpstreamInv { s with tx := tx } where
  tx := inv.tx.step stepped
  allocated := (txStep_allocated stepped).trans inv.allocated
  follows := inv.follows
  carried := fun f member => (inv.carried f member).mono (txStep_accepted inv.tx stepped)
  ordered := inv.ordered
  errors := inv.errors

/-- A datagram whose frame is not queued is written down. -/
theorem append (inv : UpstreamInv s) {tx : TxState} (txInv : TxInv tx)
    (allocated : tx.allocated = true)
    (accepted : tx.history.accepted = s.tx.history.accepted) (waitMs : Nat) {f : Forwarding}
    (follows : f.Follows) (unqueued : f.position = none) :
    UpstreamInv ⟨tx, waitMs, s.errors + (if f.counted then 1 else 0), s.log ++ [f]⟩ where
  tx := txInv
  allocated := allocated
  follows := List.forall_mem_append.mpr ⟨inv.follows, List.forall_mem_singleton.mpr follows⟩
  carried := by
    change ∀ g : Forwarding, g ∈ s.log ++ [f] → g.Carried tx.history.accepted
    rw [accepted, List.forall_mem_append]
    constructor
    · exact inv.carried
    · rw [List.forall_mem_singleton]
      intro gwMac hostMac position queued
      simp [Forwarding.position, queued] at unqueued
  ordered := by
    rw [List.filterMap_append, List.filterMap_cons_none unqueued, List.filterMap_nil,
      List.append_nil]
    exact inv.ordered
  errors := by
    rw [List.countP_append, ← inv.errors, List.countP_singleton]

/-- A datagram's frame is queued. -/
theorem push (inv : UpstreamInv s) (waitMs : Nat) {datagram : Bytes} {leaseApplied : Bool}
    (gwMac hostMac : Mac) (forwardable : Forwardable datagram leaseApplied) {tx : TxState}
    (txInv : TxInv tx)
    (settled : tx.settled = (s.tx.allocated, s.tx.packetAlignShift, s.tx.history.accepted ++
      [upstreamFrame gwMac hostMac (forwardedIp datagram)])) :
    UpstreamInv ⟨tx, waitMs, s.errors,
      s.log ++ [⟨datagram, leaseApplied,
        .queued gwMac hostMac s.tx.history.accepted.length⟩]⟩ := by
  have accepted : tx.history.accepted = s.tx.history.accepted ++
      [upstreamFrame gwMac hostMac (forwardedIp datagram)] :=
    congrArg (fun settled => settled.2.2) settled
  constructor
  · exact txInv
  · exact (congrArg Prod.fst settled).trans inv.allocated
  · exact List.forall_mem_append.mpr ⟨inv.follows, List.forall_mem_singleton.mpr forwardable⟩
  · change ∀ f : Forwarding, f ∈ s.log ++ [_] → f.Carried tx.history.accepted
    rw [accepted, List.forall_mem_append]
    constructor
    · intro f member
      exact (inv.carried f member).mono (List.prefix_append _ _)
    · rw [List.forall_mem_singleton]
      intro gw host position queued
      cases queued
      exact List.getElem?_concat_length
  · rw [List.filterMap_append]
    apply List.pairwise_append.mpr
    refine ⟨inv.ordered, List.pairwise_singleton _ _, ?_⟩
    intro position taken last member
    rw [List.mem_singleton.mp member]
    exact inv.position_lt taken
  · rw [List.countP_append, ← inv.errors]
    rfl

/-- A round without a datagram. -/
theorem idle (inv : UpstreamInv s) (waitMs : Nat) :
    UpstreamInv ⟨s.tx, waitMs, s.errors, s.log ++ []⟩ := by
  rw [List.append_nil]
  exact ⟨inv.tx, inv.allocated, inv.follows, inv.carried, inv.ordered, inv.errors⟩

theorem upstreamFrame_bytes {datagram : Bytes} {leaseApplied : Bool} (gwMac hostMac : Mac)
    (forwardable : Forwardable datagram leaseApplied) :
    (upstreamFrame gwMac hostMac (forwardedIp datagram)).bytes =
      gwMac.toList ++ (hostMac.toList ++
        (ipEthertype (forwardedIp datagram) ++ forwardedIp datagram)) := by
  have short := forwardable.short
  apply if_neg
  rw [forwardedIp_length, utunRxBuf]
  omega

theorem upstreamFrame_length {datagram : Bytes} {leaseApplied : Bool} (gwMac hostMac : Mac)
    (forwardable : Forwardable datagram leaseApplied) :
    (upstreamFrame gwMac hostMac (forwardedIp datagram)).bytes.length = datagram.length + 10 := by
  have long := forwardable.long
  have short := forwardable.short
  refine (wrapIpEth_length gwMac hostMac _ utunRxBuf).trans ?_
  rw [forwardedIp_length, utunRxBuf]
  split_ifs <;> omega

/-- The frame of a forwardable datagram is queued, or the queue is full. -/
theorem send (inv : UpstreamInv s) (gwMac hostMac : Mac) {datagram : Bytes} {leaseApplied : Bool}
    (forwardable : Forwardable datagram leaseApplied) :
    UpstreamInv (({ s with waitMs := 0 } : Upstream).send
      ⟨.datagram datagram, leaseApplied, gwMac, hostMac⟩
      (upstreamFrame gwMac hostMac (forwardedIp datagram))) := by
  have length := upstreamFrame_length gwMac hostMac forwardable
  have kept := inv.tx.sendEthUsb (upstreamFrame gwMac hostMac (forwardedIp datagram))
  rcases sendEthUsb_cases inv.tx (upstreamFrame gwMac hostMac (forwardedIp datagram)) with
    ⟨refused, full⟩ | ⟨taken, settled⟩
  · have nonempty : (upstreamFrame gwMac hostMac (forwardedIp datagram)).bytes ≠ [] := by
      apply List.ne_nil_of_length_pos
      rw [length]
      exact Nat.succ_pos _
    have fits : recordLength (upstreamFrame gwMac hostMac (forwardedIp datagram)).bytes
        s.tx.usbPacketAlign ≤ txqSlot := by
      have short := forwardable.short
      have bound := @alignPow2_lt (packetHdrLen +
        paddedLength (upstreamFrame gwMac hostMac (forwardedIp datagram)).bytes)
        s.tx.usbPacketAlign (by simp only [packetHdrLen, paddedLength, ethMin, length]; omega)
      apply Nat.le_of_lt (Nat.lt_of_lt_of_le bound _)
      simp only [packetHdrLen, paddedLength, ethMin, txqSlot, length]
      omega
    have waiting := full inv.allocated nonempty fits
    rw [refused] at kept
    rw [Upstream.send, refused]
    dsimp only
    rw [if_neg (by decide : ¬ (-1 : Int) = 0)]
    exact inv.append kept inv.allocated rfl 0
      (f := ⟨datagram, leaseApplied, .refused s.tx.txq.n⟩) ⟨forwardable, waiting⟩ rfl
  · rw [Upstream.send]
    dsimp only
    rw [if_pos taken]
    exact inv.push 0 gwMac hostMac forwardable kept settled

/-- A round of the thread. -/
theorem round (inv : UpstreamInv s) (r : Round) : UpstreamInv (utunRound s r) := by
  rcases r with ⟨input, leaseApplied, gwMac, hostMac⟩
  cases input with
  | quiet => exact inv.idle 1
  | failed again => cases again <;> exact inv.idle 1
  | datagram datagram =>
      rw [utunRound_datagram]
      split_ifs with long short unforwarded wide
      · exact inv.append inv.tx inv.allocated rfl 0
          (f := ⟨datagram, leaseApplied, .dropped⟩) long rfl
      · exact inv.append inv.tx inv.allocated rfl 1
          (f := ⟨datagram, leaseApplied, .skipped⟩) ⟨Nat.le_of_not_lt long, .inl short⟩ rfl
      · exact inv.append inv.tx inv.allocated rfl 0
          (f := ⟨datagram, leaseApplied, .skipped⟩) ⟨Nat.le_of_not_lt long, .inr unforwarded⟩ rfl
      · exact inv.append inv.tx inv.allocated rfl 0
          (f := ⟨datagram, leaseApplied, .unwrapped⟩) ⟨wide, Nat.le_of_not_lt long⟩ rfl
      · rw [not_or] at unforwarded
        exact inv.send gwMac hostMac ⟨Nat.le_of_not_lt short, Nat.le_of_not_lt wide,
          unforwarded.1, Bool.eq_true_of_not_eq_false unforwarded.2⟩

theorem step (inv : UpstreamInv s) {label : UtunLabel} {next : Upstream}
    (stepped : upStep s label = some next) : UpstreamInv next := by
  cases label with
  | other label =>
      obtain ⟨tx, moved, rfl⟩ := Option.map_eq_some_iff.mp stepped
      exact inv.other moved
  | round r =>
      cases stepped
      exact inv.round r

end UpstreamInv

theorem UpstreamInv.start {flat : Nat → Bytes} (align : UInt32)
    (sized : ∀ i, (flat i).length = txqSlot) : UpstreamInv (.start flat align) where
  tx := .start align sized
  allocated := rfl
  follows := by
    intro f member
    cases member
  carried := by
    intro f member
    cases member
  ordered := List.Pairwise.nil
  errors := rfl

/-- The datagrams that the rounds found. -/
def datagrams (labels : List UtunLabel) : List Bytes :=
  labels.filterMap UtunLabel.datagram?

theorem utunRound_log (s : Upstream) (r : Round) :
    (utunRound s r).log.map Forwarding.datagram =
      s.log.map Forwarding.datagram ++ r.input.datagram?.toList := by
  have noted : ∀ (t : Upstream) fate, t.log = s.log →
      (t.note r fate).log.map Forwarding.datagram =
        s.log.map Forwarding.datagram ++ r.input.datagram?.toList := by
    intro t fate same
    cases found : r.input.datagram? <;> simp [Upstream.note, same, found]
  unfold utunRound Upstream.send
  dsimp only
  split_ifs <;> exact noted _ _ rfl

/-- Every datagram is written down once, in the order of the rounds. -/
theorem upStep_log {s next : Upstream} {label : UtunLabel} (stepped : upStep s label = some next) :
    next.log.map Forwarding.datagram =
      s.log.map Forwarding.datagram ++ label.datagram?.toList := by
  cases label with
  | other label =>
      obtain ⟨tx, moved, rfl⟩ := Option.map_eq_some_iff.mp stepped
      exact (List.append_nil _).symm
  | round r =>
      cases stepped
      exact utunRound_log s r

theorem run_log {s last : Upstream} {labels : List UtunLabel}
    (ran : run upStep s labels = some last) :
    last.log.map Forwarding.datagram = s.log.map Forwarding.datagram ++ datagrams labels := by
  induction labels generalizing s with
  | nil =>
      cases ran
      exact (List.append_nil _).symm
  | cons label labels ih =>
      obtain ⟨next, stepped, rest⟩ := run_cons_eq_some_iff.mp ran
      rw [ih rest, upStep_log stepped, List.append_assoc, datagrams, datagrams]
      cases found : label.datagram? with
      | none => rw [List.filterMap_cons_none found]; rfl
      | some bytes => rw [List.filterMap_cons_some found]; rfl

/-- What the phone gets of a queued datagram: the addresses, the type of the packet, and the
packet with its checksums filled. -/
structure Delivered (s : Upstream) (datagram : Bytes) (gwMac hostMac : Mac) (position : Nat) :
    Prop where
  frame : ∃ f, s.tx.history.accepted[position]? = some f ∧
    f.bytes = gwMac.toList ++ (hostMac.toList ++
      (ipEthertype (forwardedIp datagram) ++ forwardedIp datagram)) ∧
    ∀ departure, s.tx.history.left[position]? = some departure →
      departure.record = record f.bytes s.tx.usbPacketAlign ∧
        (datagram.length ≤ 1508 → ∀ shift,
          received departure.record shift = [f.bytes ++ zeros (60 - f.bytes.length)])
  checksums : rd32be datagram 0 = afInet → WholeDatagram (datagram.drop 4) →
    ChecksumsFixed (datagram.drop 4) (forwardedIp datagram)

theorem UpstreamInv.delivered {s : Upstream} (inv : UpstreamInv s) {f : Forwarding}
    (member : f ∈ s.log) {gwMac hostMac : Mac} {position : Nat}
    (queued : f.fate = .queued gwMac hostMac position) :
    Delivered s f.datagram gwMac hostMac position := by
  have forwardable : Forwardable f.datagram f.leaseApplied := by
    have follows := inv.follows f member
    rw [Forwarding.Follows, queued] at follows
    exact follows
  have bytes := UpstreamInv.upstreamFrame_bytes gwMac hostMac forwardable
  have length := UpstreamInv.upstreamFrame_length gwMac hostMac forwardable
  have accepted := inv.carried f member gwMac hostMac position queued
  constructor
  · refine ⟨_, accepted, bytes, ?_⟩
    intro departure left
    have same : departure.record =
        record (upstreamFrame gwMac hostMac (forwardedIp f.datagram)).bytes
          s.tx.usbPacketAlign := by
      have fifo := congrArg (fun records => records[position]?) inv.tx.queue.fifo
      simp only [List.getElem?_map, accepted, Option.map_some] at fifo
      rw [List.getElem?_append_left, List.getElem?_map, left] at fifo
      · exact (Option.some.inj fifo).symm
      · rw [List.length_map]
        exact (List.getElem?_eq_some_iff.mp left).1
    constructor
    · exact same
    · intro short shift
      rw [same]
      apply received_record
      · rw [length]
        exact Nat.succ_pos _
      · rw [length, ethMax]
        omega
  · intro family datagram
    rw [forwardedIp, if_pos family, atIp4FixChecksums_accepted datagram.accepted]
    exact fixedPacket_fixed datagram

/-- **From the host to the phone.**  In every interleaving of the thread with the others each
datagram of the tunnel has one fate, decided by its length, its family and the lease: it is
forwarded, or it is dropped whole; a refusal means that 128 frames wait.  Forwarded datagrams
stand in the queue in the order of the tunnel, each at a place of its own, and the record that
leaves from there is unwrapped to the packet behind an Ethernet header, with checksums that
verify.  Every loss is counted. -/
theorem upstream_delivers {flat : Nat → Bytes} {align : UInt32} {labels : List UtunLabel}
    {s : Upstream} (sized : ∀ i, (flat i).length = txqSlot)
    (ran : run upStep (.start flat align) labels = some s) :
    s.log.map Forwarding.datagram = datagrams labels ∧
      (∀ f ∈ s.log, f.Follows) ∧
      (s.log.filterMap Forwarding.position).Pairwise (· < ·) ∧
      (∀ f ∈ s.log, ∀ gwMac hostMac position, f.fate = .queued gwMac hostMac position →
        Delivered s f.datagram gwMac hostMac position) ∧
      s.tx.txErrors + s.errors + s.tx.io.pendingError + s.tx.rejecting =
        s.tx.history.dropped + s.tx.history.rejected + s.log.countP Forwarding.counted := by
  have inv : UpstreamInv s :=
    run_invariant (fun _ _ _ inv stepped => inv.step stepped) (.start align sized) ran
  refine ⟨?_, inv.follows, inv.ordered, ?_, ?_⟩
  · exact run_log ran
  · intro f member gwMac hostMac position queued
    exact inv.delivered member queued
  · have counted := inv.tx.counted_errors
    rw [← inv.errors]
    omega

/-- A TCP segment that is sent, and a packet that comes while the lease is not applied. -/
def segmentForwarded : List UtunLabel :=
  [.round ⟨.datagram (be32 afInet ++ segmentWithoutChecksums), true,
      sixBytes 2 0 0 0 0 1, sixBytes 2 0 0 0 0 2⟩,
    .other .tryStartOut, .other (.submit .success .success), .other (.outDone .success),
    .round ⟨.datagram (be32 afInet ++ segmentWithoutChecksums), false,
      sixBytes 2 0 0 0 0 1, sixBytes 2 0 0 0 0 2⟩,
    .other .io, .other .io]

theorem upstream_delivers_segment :
    ∃ s, run upStep (.start (fun _ => zeros 4096) 2) segmentForwarded = some s ∧
      s.log.map Forwarding.position = [some 0, none] ∧
      Delivered s (be32 afInet ++ segmentWithoutChecksums) (sixBytes 2 0 0 0 0 1)
        (sixBytes 2 0 0 0 0 2) 0 := by
  obtain ⟨s, ran⟩ := Option.isSome_iff_exists.mp
    (show (run upStep (.start (fun _ => zeros 4096) 2) segmentForwarded).isSome by
      decide +kernel)
  have observed : (run upStep (.start (fun _ => zeros 4096) 2) segmentForwarded).map
      (fun s => (s.log.map Forwarding.position, s.log.map Forwarding.fate)) =
        some ([some 0, none],
          [.queued (sixBytes 2 0 0 0 0 1) (sixBytes 2 0 0 0 0 2) 0, .skipped]) := by
    decide +kernel
  rw [ran, Option.map_some, Option.some.injEq, Prod.mk.injEq] at observed
  obtain ⟨positions, fates⟩ := observed
  have delivers := upstream_delivers (fun _ => zeros_length _) ran
  obtain ⟨f, member, fate⟩ := List.mem_map.mp (fates ▸ List.mem_cons_self)
  have datagram : f.datagram = be32 afInet ++ segmentWithoutChecksums := by
    have read := List.mem_map_of_mem (f := Forwarding.datagram) member
    rw [delivers.1] at read
    rcases List.mem_pair.mp read with first | second
    · exact first
    · exact second
  refine ⟨s, ran, positions, ?_⟩
  rw [← datagram]
  exact delivers.2.2.2.1 f member _ _ _ fate

end WiredTethering.Engine
