import WiredTethering.Common.Ethernet
import WiredTethering.Engine.TxConservation

/-!
# Address resolution

`build_arp` writes an ARP frame, `handle_arp` answers a request for the host's address and
`at_eth_learn_gw_mac` reads the answer.  Each has the offsets of the frame in its own code;
what one writes the others read, also behind the padding that a record adds.
-/

namespace WiredTethering.Engine

open WiredTethering.Memory
open WiredTethering.Common
open WiredTethering.Rndis
open WiredTethering.Usb
open WiredTethering.Transition

/-- `build_arp` into a buffer of `cap` bytes: the frame, empty when it does not fit. -/
def buildArp (cap : Nat) (sha : Mac) (spa : UInt32) (tha : Option Mac) (tpa : UInt32)
    (op : UInt16) : Bytes :=
  if cap < 42 then []
  else
    let eth := zeros 42
    let eth :=
      if op = 1 then overwrite eth 0 (List.replicate 6 0xff)
      else
        match tha with
        | some tha => overwrite eth 0 tha.toList
        | none => eth
    let eth := overwrite eth 6 sha.toList
    let eth := overwrite eth 12 [0x08, 0x06, 0x00, 0x01, 0x08, 0x00, 6, 4]
    let eth := overwrite eth 20 (be16 op)
    let eth := overwrite eth 22 sha.toList
    let eth := wr32le eth 28 spa
    let eth :=
      match tha with
      | some tha => if op = 2 then overwrite eth 32 tha.toList else eth
      | none => eth
    wr32le eth 38 tpa

/-- The fields of an ARP frame, one behind the other. -/
def arpFrame (dst : Bytes) (sha : Mac) (op : UInt16) (spa : UInt32) (tha : Bytes)
    (tpa : UInt32) : Bytes :=
  dst ++ (sha.toList ++ ([0x08, 0x06, 0x00, 0x01, 0x08, 0x00, 6, 4] ++ (be16 op ++
    (sha.toList ++ (le32 spa ++ (tha ++ le32 tpa))))))

theorem mac_bytes (mac : Mac) : ∃ a b c d e f, mac.toList = [a, b, c, d, e, f] := by
  have size : mac.toList.length = 6 := mac.length_toList
  match mac.toList, size with
  | [a, b, c, d, e, f], _ => exact ⟨a, b, c, d, e, f, rfl⟩

/-- A request is broadcast, and names no target. -/
theorem buildArp_request {cap : Nat} (room : 42 ≤ cap) (sha : Mac) (spa tpa : UInt32) :
    buildArp cap sha spa none tpa 1 =
      arpFrame (List.replicate 6 0xff) sha 1 spa (zeros 6) tpa := by
  rcases mac_bytes sha with ⟨a, b, c, d, e, f, bytes⟩
  rw [buildArp, if_neg (Nat.not_lt.mpr room), arpFrame, bytes]
  rfl

/-- The stores of a reply fill the fields from front to back. -/
theorem write_reply (sha tha : Mac) (op : UInt16) (spa tpa : UInt32) :
    wr32le (overwrite (wr32le (overwrite (overwrite (overwrite (overwrite (overwrite (zeros 42) 0
      tha.toList) 6 sha.toList) 12 [0x08, 0x06, 0x00, 0x01, 0x08, 0x00, 6, 4]) 20 (be16 op)) 22
      sha.toList) 28 spa) 32 tha.toList) 38 tpa =
      arpFrame tha.toList sha op spa tha.toList tpa := by
  have blank : zeros 42 = zeros 6 ++ (zeros 6 ++ (zeros 8 ++ (zeros 2 ++ (zeros 6 ++ (zeros 4 ++
      (zeros 6 ++ (zeros 4 ++ []))))))) := rfl
  have sized := sha.length_toList
  have sized' := tha.length_toList
  have dst := overwrite_field 0 6 [] tha.toList (zeros 6 ++ (zeros 8 ++ (zeros 2 ++ (zeros 6 ++
    (zeros 4 ++ (zeros 6 ++ (zeros 4 ++ []))))))) rfl sized'
  have src := overwrite_field 6 6 tha.toList sha.toList (zeros 8 ++ (zeros 2 ++ (zeros 6 ++
    (zeros 4 ++ (zeros 6 ++ (zeros 4 ++ [])))))) sized' sized
  have fixed := overwrite_field 12 8 (tha.toList ++ sha.toList)
    [0x08, 0x06, 0x00, 0x01, 0x08, 0x00, 6, 4] (zeros 2 ++ (zeros 6 ++ (zeros 4 ++ (zeros 6 ++
    (zeros 4 ++ []))))) (by rw [List.length_append, sized, sized']) rfl
  have operation := overwrite_field 20 2 (tha.toList ++ (sha.toList ++
    [0x08, 0x06, 0x00, 0x01, 0x08, 0x00, 6, 4])) (be16 op) (zeros 6 ++ (zeros 4 ++ (zeros 6 ++
    (zeros 4 ++ [])))) (by simp [sized, sized']) rfl
  have sender := overwrite_field 22 6 (tha.toList ++ (sha.toList ++
    ([0x08, 0x06, 0x00, 0x01, 0x08, 0x00, 6, 4] ++ be16 op))) sha.toList (zeros 4 ++ (zeros 6 ++
    (zeros 4 ++ []))) (by simp [sized, sized']) sized
  have senderIp := overwrite_field 28 4 (tha.toList ++ (sha.toList ++
    ([0x08, 0x06, 0x00, 0x01, 0x08, 0x00, 6, 4] ++ (be16 op ++ sha.toList)))) (le32 spa)
    (zeros 6 ++ (zeros 4 ++ [])) (by simp [sized, sized']) rfl
  have target := overwrite_field 32 6 (tha.toList ++ (sha.toList ++
    ([0x08, 0x06, 0x00, 0x01, 0x08, 0x00, 6, 4] ++ (be16 op ++ (sha.toList ++ le32 spa)))))
    tha.toList (zeros 4 ++ []) (by simp [sized, sized']) sized'
  have targetIp := overwrite_field 38 4 (tha.toList ++ (sha.toList ++
    ([0x08, 0x06, 0x00, 0x01, 0x08, 0x00, 6, 4] ++ (be16 op ++ (sha.toList ++ (le32 spa ++
    tha.toList)))))) (le32 tpa) [] (by simp [sized, sized']) rfl
  simp only [List.append_assoc, List.nil_append] at *
  simp only [wr32le]
  rw [blank, dst, src, fixed, operation, sender, senderIp, target, targetIp, arpFrame]
  simp only [List.append_nil]

/-- A reply goes to its target. -/
theorem buildArp_reply {cap : Nat} (room : 42 ≤ cap) (sha tha : Mac) (spa tpa : UInt32) :
    buildArp cap sha spa (some tha) tpa 2 = arpFrame tha.toList sha 2 spa tha.toList tpa := by
  rw [← write_reply, buildArp, if_neg (Nat.not_lt.mpr room)]
  have other : (2 : UInt16) ≠ 1 := by decide
  dsimp only
  rw [if_neg other, if_pos rfl]

theorem buildArp_length (cap : Nat) (sha : Mac) (spa : UInt32) (tha : Option Mac) (tpa : UInt32)
    (op : UInt16) : (buildArp cap sha spa tha tpa op).length ≤ 42 := by
  have stored {buf src : Bytes} {off : Nat} (inside : off + src.length ≤ 42)
      (whole : buf.length = 42) : (overwrite buf off src).length = 42 := by
    rw [overwrite_length (by rw [whole]; exact inside), whole]
  have address (mac : Mac) (off : Nat) (inside : off + 6 ≤ 42) {buf : Bytes} :
      buf.length = 42 → (overwrite buf off mac.toList).length = 42 :=
    stored (by rw [mac.length_toList]; exact inside)
  -- the stores up to the sender's address, over any 42 bytes
  have sender {buf : Bytes} (whole : buf.length = 42) :
      (wr32le (overwrite (overwrite (overwrite (overwrite buf 6 sha.toList) 12
        [0x08, 0x06, 0x00, 0x01, 0x08, 0x00, 6, 4]) 20 (be16 op)) 22 sha.toList) 28 spa).length =
        42 := by
    apply stored (by simp)
    apply address sha 22 (by decide)
    apply stored (by simp)
    apply stored (by simp)
    exact address sha 6 (by decide) whole
  have broadcast : (overwrite (zeros 42) 0 (List.replicate 6 0xff)).length = 42 := rfl
  rw [buildArp]
  by_cases short : cap < 42
  · rw [if_pos short]
    exact Nat.zero_le _
  · rw [if_neg short]
    apply Nat.le_of_eq
    apply stored (by simp)
    cases tha with
    | none =>
        apply sender
        by_cases request : op = 1
        · rw [if_pos request]
          exact broadcast
        · rw [if_neg request]
          rfl
    | some tha =>
        have front : (if op = 1 then overwrite (zeros 42) 0 (List.replicate 6 0xff)
            else overwrite (zeros 42) 0 tha.toList).length = 42 := by
          by_cases request : op = 1
          · rw [if_pos request]
            exact broadcast
          · rw [if_neg request]
            exact address tha 0 (by decide) rfl
        dsimp only
        by_cases reply : op = 2
        · rw [if_pos reply]
          exact address tha 32 (by decide) (sender front)
        · rw [if_neg reply]
          exact sender front

theorem buildArp_addressable (cap : Nat) (sha : Mac) (spa : UInt32) (tha : Option Mac)
    (tpa : UInt32) (op : UInt16) : (buildArp cap sha spa tha tpa op).length < 2 ^ 63 :=
  Nat.lt_of_le_of_lt (buildArp_length cap sha spa tha tpa op) (by decide)

/-- The buffer `reply` of `handle_arp`, filled. -/
def arpReply (hostMac tha : Mac) (hostIp spa : UInt32) : Frame :=
  ⟨buildArp 64 hostMac hostIp (some tha) spa 2, buildArp_addressable _ _ _ _ _ _⟩

/-- `handle_arp` of an engine with the given host address. -/
def handleArp (hostIp : UInt32) (hostMac : Mac) (s : TxState) (eth : Bytes) : TxState :=
  if eth.length < 42 then s
  else
    let op := rd16be eth 20
    let spa := rd32le eth 28
    let tpa := rd32le eth 38
    if op = 1 ∧ hostIp ≠ 0 ∧ tpa = hostIp then
      let tha := macAt eth 22
      let reply := arpReply hostMac tha hostIp spa
      if reply.bytes.length ≠ 0 then (sendEthUsb s reply).1 else s
    else s

/-! ## Reading a frame -/

/-- What the readers of an ARP frame find at their offsets, whatever is behind it. -/
structure ReadsArp (f : Bytes) (sha : Mac) (op : UInt16) (spa tpa : UInt32) : Prop where
  type : rd16be f 12 = 0x0806
  op : rd16be f 20 = op
  spa : rd32le f 28 = spa
  tpa : rd32le f 38 = tpa
  source : macAt f 6 = sha
  sha : macAt f 22 = sha

theorem macAt_eq {f : Bytes} {off : Nat} {mac : Mac}
    (bytes : (slice f off 6) = mac.toList) : macAt f off = mac := by
  apply Vector.ext
  intro i inside
  have here : i < mac.toList.length := by
    rw [mac.length_toList]
    exact inside
  have read : byteAt f (off + i) = byteAt (slice f off 6) i := by
    rw [byteAt, byteAt, slice, List.getD_eq_getElem?_getD, List.getD_eq_getElem?_getD,
      List.getElem?_take_of_lt inside, List.getElem?_drop]
  rw [macAt, Vector.getElem_ofFn, read, bytes, byteAt, List.getD_eq_getElem _ _ here]
  exact Vector.getElem_toList _

theorem arpFrame_reads {dst tha : Bytes} (sha : Mac) (op : UInt16) (spa tpa : UInt32)
    (pad : Bytes) (dstSize : dst.length = 6) (thaSize : tha.length = 6) :
    ReadsArp (arpFrame dst sha op spa tha tpa ++ pad) sha op spa tpa := by
  rcases mac_bytes sha with ⟨a, b, c, d, e, f, bytes⟩
  match dst, dstSize, tha, thaSize with
  | [_, _, _, _, _, _], _, [_, _, _, _, _, _], _ =>
      rw [arpFrame, bytes]
      refine ⟨?_, ?_, ?_, ?_, ?_, ?_⟩
      · exact rd16be_be16 0x0806 []
      · exact rd16be_be16 op []
      · exact rd32le_le32_append spa []
      · exact rd32le_le32_append tpa []
      · exact macAt_eq bytes.symm
      · exact macAt_eq bytes.symm

/-! ## The way over the cable -/

/-- The frames that a bulk transfer delivers. -/
def received (bulk : Bytes) (alignShift : UInt32) : List Bytes :=
  (rndisUnwrapBulkAligned bulk alignShift).calls.map (Slice.bytes bulk)

/-- A frame is wrapped into a buffer, and what was written is unwrapped. -/
def carried (out eth : Bytes) (wrapShift unwrapShift : UInt32) : List Bytes :=
  let (buf, n) := rndisWrapEthernetAligned out eth wrapShift
  received (buf.take n) unwrapShift

/-- A transfer delivers the padded frames. -/
theorem received_transfer {sent : List Sent} (valid : ∀ t ∈ sent, t.Valid) (alignShift : UInt32) :
    received (transfer sent) alignShift = sent.map fun t => padded t.frame := by
  have scan := transfer_leftmost [] sent valid
  have payloads := transfer_payloads [] sent valid
  simp only [List.nil_append, List.length_nil] at scan payloads
  rw [received, rndisUnwrapBulkAligned,
    unwrapFrom_calls_of_spans scan fun span member => recordSpans_bounds valid member,
    List.map_map]
  exact payloads

/-- A record delivers its padded frame. -/
theorem received_record {eth : Bytes} (nonempty : 1 ≤ eth.length) (short : eth.length ≤ ethMax)
    (wrapShift unwrapShift : UInt32) :
    received (record eth wrapShift) unwrapShift = [padded eth] := by
  have fits : eth.length + 512 ≤ 2 ^ 64 := by
    simp only [ethMax] at short
    omega
  have wrapped : Sent.wrapped ⟨eth, zeros (recordLength eth wrapShift), wrapShift, none, 0⟩ =
      record eth wrapShift := by
    have room : recordLength eth wrapShift ≤ (zeros (recordLength eth wrapShift)).length :=
      Nat.le_of_eq (zeros_length _).symm
    rw [Sent.wrapped, rndisWrapEthernetAligned_eq (List.ne_nil_of_length_pos nonempty) fits room]
    exact List.take_left' (record_length wrapShift fits)
  have transferred :
      transfer [⟨eth, zeros (recordLength eth wrapShift), wrapShift, none, 0⟩] =
        record eth wrapShift := by
    rw [transfer, List.flatMap_singleton, Sent.bytes, Sent.record, wrapped]
    exact List.append_nil _
  rw [← transferred]
  exact received_transfer
    (List.forall_mem_singleton.mpr ⟨nonempty, short, Nat.le_of_eq (zeros_length _).symm⟩) _

theorem carried_eq {out eth : Bytes} (nonempty : 1 ≤ eth.length) (short : eth.length ≤ ethMax)
    {wrapShift : UInt32} (unwrapShift : UInt32) (room : recordLength eth wrapShift ≤ out.length) :
    carried out eth wrapShift unwrapShift = [padded eth] := by
  have fits : eth.length + 512 ≤ 2 ^ 64 := by
    simp only [ethMax] at short
    omega
  rw [carried, rndisWrapEthernetAligned_eq (List.ne_nil_of_length_pos nonempty) fits room]
  dsimp only
  rw [List.take_left' (record_length wrapShift fits)]
  exact received_record nonempty short wrapShift unwrapShift

/-! ## The reply -/

theorem arpFrame_length {dst tha : Bytes} (sha : Mac) (op : UInt16) (spa tpa : UInt32)
    (dstSize : dst.length = 6) (thaSize : tha.length = 6) :
    (arpFrame dst sha op spa tha tpa).length = 42 := by
  simp [arpFrame, dstSize, thaSize, sha.length_toList]

theorem arpReply_bytes (responder requester : Mac) (a spa : UInt32) :
    (arpReply responder requester a spa).bytes =
      arpFrame requester.toList responder 2 a requester.toList spa := by
  have room : 42 ≤ 64 := by decide
  exact buildArp_reply room responder requester a spa

theorem arpReply_length (responder requester : Mac) (a spa : UInt32) :
    (arpReply responder requester a spa).bytes.length = 42 := by
  have size := requester.length_toList
  calc
    (arpReply responder requester a spa).bytes.length =
        (arpFrame requester.toList responder 2 a requester.toList spa).length :=
      congrArg List.length (arpReply_bytes responder requester a spa)
    _ = 42 := arpFrame_length responder 2 a spa size size

/-- The handler answers a request for the host's address, and nothing else. -/
theorem handleArp_eq (hostIp : UInt32) (hostMac : Mac) (s : TxState) (eth : Bytes) :
    handleArp hostIp hostMac s eth =
      if 42 ≤ eth.length ∧ rd16be eth 20 = 1 ∧ hostIp ≠ 0 ∧ rd32le eth 38 = hostIp then
        (sendEthUsb s (arpReply hostMac (macAt eth 22) hostIp (rd32le eth 28))).1
      else s := by
  have sent : (arpReply hostMac (macAt eth 22) hostIp (rd32le eth 28)).bytes.length ≠ 0 := by
    rw [arpReply_length]
    decide
  by_cases short : eth.length < 42
  · rw [handleArp, if_pos short, if_neg]
    rintro ⟨long, _⟩
    omega
  · have long : 42 ≤ eth.length := Nat.le_of_not_lt short
    rw [handleArp, if_neg short]
    dsimp only
    by_cases asked : rd16be eth 20 = 1 ∧ hostIp ≠ 0 ∧ rd32le eth 38 = hostIp
    · rw [if_pos asked, if_pos sent, if_pos (And.intro long asked)]
    · rw [if_neg asked, if_neg]
      rintro ⟨_, here⟩
      exact asked here

theorem padded_request {cap : Nat} (fits : 42 ≤ cap) (requester : Mac) (spa a : UInt32) :
    ReadsArp (padded (buildArp cap requester spa none a 1)) requester 1 spa a ∧
      42 ≤ (padded (buildArp cap requester spa none a 1)).length := by
  have broadcast : (List.replicate 6 (0xff : UInt8)).length = 6 := List.length_replicate
  have blank : (zeros 6).length = 6 := zeros_length 6
  have size := arpFrame_length requester 1 spa a broadcast blank
  rw [buildArp_request fits, padded]
  constructor
  · exact arpFrame_reads requester 1 spa a _ broadcast blank
  · rw [List.length_append, size]
    exact Nat.le_add_right _ _

/-- The learner takes the responder's address from the padded reply. -/
theorem arpReply_learned {requester responder : Mac} (distinct : requester ≠ responder)
    {a : UInt32} (nonzero : a ≠ 0) (spa : UInt32) :
    macAt (padded (arpReply responder requester a spa).bytes) 0 = requester ∧
      atEthLearnGwMac (padded (arpReply responder requester a spa).bytes) requester a =
        some responder := by
  have size := requester.length_toList
  rw [padded, arpReply_length, arpReply_bytes]
  have reads := arpFrame_reads responder 2 a spa (zeros (ethMin - 42)) size size
  have length : 42 ≤ (arpFrame requester.toList responder 2 a requester.toList spa ++
      zeros (ethMin - 42)).length := by
    rw [List.length_append, arpFrame_length responder 2 a spa size size]
    exact Nat.le_add_right _ _
  constructor
  · apply macAt_eq
    rw [arpFrame, List.append_assoc]
    have front := slice_append_exact requester.toList (responder.toList ++
      ([0x08, 0x06, 0x00, 0x01, 0x08, 0x00, 6, 4] ++ (be16 2 ++ (responder.toList ++
      (le32 a ++ (requester.toList ++ le32 spa))))) ++ zeros (ethMin - 42))
    rw [size] at front
    exact front
  · generalize arpFrame requester.toList responder 2 a requester.toList spa ++
      zeros (ethMin - 42) = f at reads length
    have known : ¬ (a = 0 ∨ f.length < 14) := by
      rintro (zero | short)
      · exact nonzero zero
      · omega
    have foreign : macAt f 6 ≠ requester := by
      rw [reads.source]
      exact distinct.symm
    have reply : ¬ ((2 : UInt16) ≠ 2 ∨ a ≠ a) := by
      rintro (other | other)
      · exact other rfl
      · exact other rfl
    rw [atEthLearnGwMac, if_neg known, if_neg foreign]
    dsimp only
    rw [if_pos reads.type, if_neg (Nat.not_lt.mpr length), reads.op, reads.spa, if_neg reply,
      reads.sha]

/-! ## The queue takes the reply -/

section
variable {s : TxState}

theorem sendEthUsb_allocated (eth : Frame) : (sendEthUsb s eth).1.allocated = s.allocated := by
  unfold sendEthUsb
  dsimp only
  split_ifs <;> rfl

theorem dropHead_allocated (idx : Nat) : (dropHead s idx).allocated = s.allocated := by
  unfold dropHead
  dsimp only
  split_ifs <;> rfl

theorem submitOut_allocated (idx n : Nat) (write writeTO : IOReturn) (failed : TxIo) :
    (submitOut s idx n write writeTO failed).allocated = s.allocated := by
  unfold submitOut
  dsimp only
  split_ifs <;> rfl

/-- No step frees the queue. -/
theorem txStep_allocated {label : TxLabel} {next : TxState}
    (stepped : txStep s label = some next) : next.allocated = s.allocated := by
  cases label with
  | send eth =>
      cases stepped
      exact sendEthUsb_allocated eth
  | countRejected =>
      simp only [txStep, Option.ite_none_right_eq_some, Option.some.injEq] at stepped
      rw [← stepped.2]
      rfl
  | tryStartOut =>
      simp only [txStep, Option.ite_none_right_eq_some, Option.some.injEq] at stepped
      rw [← stepped.2]
      unfold usbTryStartOut
      split_ifs <;> rfl
  | outDone result =>
      simp only [txStep, Option.ite_none_right_eq_some, Option.some.injEq] at stepped
      rw [← stepped.2]
  | drain =>
      simp only [txStep, Option.ite_none_right_eq_some, Option.some.injEq] at stepped
      rw [← stepped.2]
  | submit write writeTO =>
      cases here : s.io with
      | submit idx n =>
          simp only [txStep, here, Option.some.injEq] at stepped
          rw [← stepped]
          exact submitOut_allocated idx n write writeTO _
      | resubmit idx n =>
          simp only [txStep, here, Option.some.injEq] at stepped
          rw [← stepped]
          exact submitOut_allocated idx n write writeTO _
      | _ => simp [txStep, here] at stepped
  | bulkWrite wr =>
      cases here : s.io with
      | drainWrite idx n =>
          simp only [txStep, here, Option.some.injEq] at stepped
          rw [← stepped]
          rfl
      | _ => simp [txStep, here] at stepped
  | io =>
      cases here : s.io with
      | submitFailed idx n =>
          simp only [txStep, here, Option.some.injEq] at stepped
          rw [← stepped]
          unfold submitFailed
          split_ifs
          · rfl
          · exact dropHead_allocated idx
      | drop idx =>
          simp only [txStep, here, Option.some.injEq] at stepped
          rw [← stepped]
          exact dropHead_allocated idx
      | completing rc =>
          simp only [txStep, here, Option.some.injEq] at stepped
          rw [← stepped]
          unfold onUsbOut
          dsimp only
          split_ifs <;> rfl
      | countOut rc n =>
          simp only [txStep, here, Option.some.injEq] at stepped
          rw [← stepped]
          dsimp only
          split_ifs <;> rfl
      | drainHead =>
          simp only [txStep, here, Option.some.injEq] at stepped
          rw [← stepped]
          unfold usbDrainTx
          split_ifs <;> rfl
      | countDrain n wr =>
          simp only [txStep, here, Option.some.injEq] at stepped
          rw [← stepped]
          dsimp only
          split_ifs <;> rfl
      | countDrop | drainPop n wr =>
          simp only [txStep, here, Option.some.injEq] at stepped
          rw [← stepped]
          rfl
      | _ => simp [txStep, here] at stepped

/-- With room in the queue, a frame whose record fits a slot is accepted. -/
theorem sendEthUsb_accepted (queue : QueueInv s.usbPacketAlign s.txq s.history)
    (allocated : s.allocated = true) (room : s.txq.n < txqCap) {eth : Frame}
    (nonempty : eth.bytes ≠ []) (fits : recordLength eth.bytes s.usbPacketAlign ≤ txqSlot) :
    (sendEthUsb s eth).2 = 0 ∧
      (sendEthUsb s eth).1.history.accepted = s.history.accepted ++ [eth] ∧
      (sendEthUsb s eth).1.txq.ring.contents txqCap =
        s.txq.ring.contents txqCap ++ [record eth.bytes s.usbPacketAlign] := by
  rcases sendEthUsb_spec queue eth with refused | ⟨slot, wrapped, _, pushed, _, accepted⟩
  · exfalso
    have sized : recordLength eth.bytes s.usbPacketAlign ≤ (s.txq.flat s.txq.w).length := by
      rw [queue.sized]
      exact fits
    have large := recordLength_ge s.usbPacketAlign eth.fits
    have whole : ¬ (recordLength eth.bytes s.usbPacketAlign = 0 ∨
        txqSlot < recordLength eth.bytes s.usbPacketAlign) := by
      simp only [packetHdrLen] at large
      omega
    have returned : (sendEthUsb s eth).2 = 0 := by
      simp only [sendEthUsb, allocated, Bool.not_true, Bool.false_eq_true, if_false,
        if_neg (not_le.mpr room), rndisWrapEthernetAligned_eq nonempty eth.fits sized,
        if_neg whole]
    rw [refused] at returned
    contradiction
  · rw [accepted]
    refine ⟨rfl, rfl, ?_⟩
    dsimp only
    rw [pushed]
    exact queue.wf.contents_push room _

end

/-! ## A request is answered -/

/-- A frame of an ARP message fits a record and a slot. -/
theorem recordLength_le {eth : Bytes} (length : eth.length = 42) (shift : UInt32) :
    recordLength eth shift ≤ txqSlot := by
  have payload : paddedLength eth = 60 := by
    rw [paddedLength, length]
    rfl
  have below := alignPow2_lt shift (show packetHdrLen + 60 + 256 ≤ 2 ^ 64 by decide)
  have factor := two_pow_clampShift_le shift
  rw [recordLength, payload]
  simp only [packetHdrLen, txqSlot] at below ⊢
  omega

/-- **Address resolution.**  A request for the address `a`, carried to the engine
that has it, makes that engine queue one reply, which carried back tells the
requester the engine's address.  Any other frame leaves the queue as it is. -/
theorem arp_request_learned {requester responder : Mac} (distinct : requester ≠ responder)
    {a spa : UInt32} (nonzero : a ≠ 0) {cap : Nat} (fits : 42 ≤ cap) {out : Bytes}
    {wrapShift : UInt32} (unwrapShift backShift : UInt32)
    (written : recordLength (buildArp cap requester spa none a 1) wrapShift ≤ out.length)
    {flat : Nat → Bytes} {align : UInt32} (sized : ∀ i, (flat i).length = txqSlot)
    {labels : List TxLabel} {s : TxState}
    (ran : run txStep (.start flat align) labels = some s) (room : s.txq.n < txqCap) :
    (∃ eth reply,
      carried out (buildArp cap requester spa none a 1) wrapShift unwrapShift = [eth] ∧
      (handleArp a responder s eth).history.accepted = s.history.accepted ++ [reply] ∧
      (handleArp a responder s eth).txq.ring.contents txqCap =
        s.txq.ring.contents txqCap ++ [record reply.bytes s.usbPacketAlign] ∧
      ∃ back, received (record reply.bytes s.usbPacketAlign) backShift = [back] ∧
        macAt back 0 = requester ∧ atEthLearnGwMac back requester a = some responder) ∧
    ∀ hostIp eth, (eth.length < 42 ∨ rd16be eth 20 ≠ 1 ∨ hostIp = 0 ∨ rd32le eth 38 ≠ hostIp) →
      handleArp hostIp responder s eth = s := by
  have inv := txStep_run_inv sized ran
  have allocated : s.allocated = true :=
    run_invariant (fun _ _ _ kept stepped => (txStep_allocated stepped).trans kept) rfl ran
  constructor
  · have request := buildArp_request fits requester spa a
    have size : (buildArp cap requester spa none a 1).length = 42 := by
      rw [request]
      exact arpFrame_length requester 1 spa a List.length_replicate (zeros_length 6)
    have arrived := carried_eq (by rw [size]; decide) (by rw [size]; decide) unwrapShift written
    obtain ⟨reads, long⟩ := padded_request fits requester spa a
    have reply := arpReply_length responder requester a spa
    have queued := sendEthUsb_accepted inv.queue allocated room
      (List.ne_nil_of_length_pos (by rw [reply]; decide)) (recordLength_le reply s.usbPacketAlign)
    have handled : handleArp a responder s (padded (buildArp cap requester spa none a 1)) =
        (sendEthUsb s (arpReply responder requester a spa)).1 := by
      rw [handleArp_eq, if_pos ⟨long, reads.op, nonzero, reads.tpa⟩, reads.sha, reads.spa]
    have delivered := received_record (by rw [reply]; decide) (by rw [reply]; decide)
      s.usbPacketAlign backShift
    have learned := arpReply_learned distinct nonzero spa
    rw [← handled] at queued
    exact ⟨_, _, arrived, queued.2.1, queued.2.2, _, delivered, learned⟩
  · intro hostIp eth other
    rw [handleArp_eq, if_neg]
    rintro ⟨long, request, known, here⟩
    rcases other with short | other | unknown | elsewhere
    · exact absurd long (Nat.not_le.mpr short)
    · exact other request
    · exact known unknown
    · exact elsewhere here

/-- The phone asks for 192.168.42.129 from 192.168.42.1, and the queue is empty. -/
theorem arp_request_learned_first :
    ∃ eth, carried (zeros 104) (buildArp 64 (Vector.replicate 6 2) 0x012aa8c0 none 0x812aa8c0 1)
        2 0 = [eth] ∧
      (handleArp 0x812aa8c0 (Vector.replicate 6 4) (.start (fun _ => zeros 4096) 2)
        eth).history.accepted.length = 1 := by
  have distinct : (Vector.replicate 6 2 : Mac) ≠ Vector.replicate 6 4 := by decide
  have fits : 42 ≤ 64 := by decide
  have written : recordLength (buildArp 64 (Vector.replicate 6 2) 0x012aa8c0 none 0x812aa8c0 1) 2 ≤
      (zeros 104).length := by decide +kernel
  have start : run txStep (.start (fun _ => zeros 4096) 2) [] =
      some (.start (fun _ => zeros 4096) 2) := rfl
  have room : (TxState.start (fun _ => zeros 4096) 2).txq.n < txqCap := by decide
  have learned := arp_request_learned distinct (show (0x812aa8c0 : UInt32) ≠ 0 by decide) fits 0 0
    written (fun _ => zeros_length 4096) start room
  obtain ⟨eth, reply, arrived, accepted, _⟩ := learned.1
  exact ⟨eth, arrived, congrArg List.length accepted⟩

end WiredTethering.Engine
