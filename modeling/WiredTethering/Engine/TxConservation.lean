import WiredTethering.Engine.TxQueue

/-!
# The transmit queue loses nothing

The queue refines a ring buffer of records: an accepted call pushes the record of
its frame, every place that advances `txq_r` pops the head.  The invariant
`TxInv` adds what the I/O thread knows about the head at each of its positions,
the attempts made for the head, and the counters.
-/

namespace WiredTethering.Engine

open WiredTethering.Memory
open WiredTethering.Rndis
open WiredTethering.Usb
open WiredTethering.Fifo
open WiredTethering.Transition

/-! ## The queue as a ring of records -/

/-- The ring buffer that the queue implements. -/
def TxQueue.ring (q : TxQueue) : RingBuffer Bytes :=
  ⟨q.held, q.r, q.w, q.n⟩

/-- The queue is a well-formed ring that holds the accepted frames that have not
left, oldest first. -/
structure QueueInv (align : UInt32) (q : TxQueue) (h : TxHistory) : Prop where
  wf : q.ring.Wf txqCap
  sized : ∀ i, (q.flat i).length = txqSlot
  fifo : h.accepted.map (fun f => record f.bytes align) =
    h.left.map Departure.record ++ q.ring.contents txqCap

theorem record_ne_nil (eth : Bytes) (shift : UInt32) : record eth shift ≠ [] := by
  simp [record, packetHeader, le32]

theorem Frame.fits (eth : Frame) : eth.bytes.length + 512 ≤ 2 ^ 64 := by
  have := eth.addressable
  omega

/-- Wrapping writes a record or nothing. -/
theorem rndisWrapEthernetAligned_cases (out : Bytes) (eth : Frame) (shift : UInt32) :
    rndisWrapEthernetAligned out eth.bytes shift = (out, 0) ∨
      recordLength eth.bytes shift ≤ out.length ∧
        rndisWrapEthernetAligned out eth.bytes shift =
          (record eth.bytes shift ++ out.drop (recordLength eth.bytes shift),
            recordLength eth.bytes shift) := by
  by_cases empty : eth.bytes = []
  · left
    simp [rndisWrapEthernetAligned, empty]
  · by_cases room : recordLength eth.bytes shift ≤ out.length
    · right
      exact ⟨room, rndisWrapEthernetAligned_eq empty eth.fits room⟩
    · left
      exact rndisWrapEthernetAligned_short (Nat.lt_of_not_le room)

/-- Taking a slot that was written with `item` pushes `item`. -/
theorem TxQueue.ring_take (q : TxQueue) {item rest : Bytes} {n : Nat} (sized : item.length = n) :
    (q.take (item ++ rest) n).ring = q.ring.push txqCap item := by
  simp only [TxQueue.ring, TxQueue.take, RingBuffer.push, RingBuffer.mk.injEq, and_self, and_true]
  funext i
  by_cases here : i = q.w
  · subst here
    simp only [TxQueue.held, Function.update_self]
    exact List.take_left' sized
  · simp only [TxQueue.held, Function.update_of_ne here]

variable {s : TxState}

/-- A call of `send_eth_usb` is rejected and leaves the queue as it is, or it
pushes the record of its frame. -/
theorem sendEthUsb_spec (queue : QueueInv s.usbPacketAlign s.txq s.history) (eth : Frame) :
    sendEthUsb s eth = (s.reject, -1) ∨
      ∃ slot wrapped, s.txq.n < txqCap ∧
        (s.txq.take slot wrapped).ring =
          s.txq.ring.push txqCap (record eth.bytes s.usbPacketAlign) ∧
        (∀ i, ((s.txq.take slot wrapped).flat i).length = txqSlot) ∧
        sendEthUsb s eth =
          ({ s with
              txq := s.txq.take slot wrapped
              history := { s.history with accepted := s.history.accepted ++ [eth] } }, 0) := by
  by_cases refused : s.allocated = false ∨ txqCap ≤ s.txq.n
  · left
    rcases refused with unallocated | full
    · simp [sendEthUsb, unallocated]
    · simp [sendEthUsb, full]
  · rw [not_or, Bool.not_eq_false, not_le] at refused
    obtain ⟨allocated, room⟩ := refused
    rcases rndisWrapEthernetAligned_cases (s.txq.flat s.txq.w) eth s.usbPacketAlign with
      unwritten | ⟨fits, written⟩
    · left
      simp only [sendEthUsb, allocated, Bool.not_true, Bool.false_eq_true, if_false,
        if_neg (not_le.mpr room), unwritten, Function.update_eq_self, true_or, if_true]
      simp only [TxState.reject, allocated]
    · right
      have large := recordLength_ge s.usbPacketAlign eth.fits
      have whole := record_length s.usbPacketAlign eth.fits
      rw [queue.sized] at fits
      have accepted : ¬ (recordLength eth.bytes s.usbPacketAlign = 0 ∨
          txqSlot < recordLength eth.bytes s.usbPacketAlign) := by
        simp only [packetHdrLen] at large
        omega
      refine ⟨record eth.bytes s.usbPacketAlign ++
        (s.txq.flat s.txq.w).drop (recordLength eth.bytes s.usbPacketAlign),
          recordLength eth.bytes s.usbPacketAlign, room, s.txq.ring_take whole, ?_, ?_⟩
      · intro i
        by_cases here : i = s.txq.w
        · subst here
          have sized := queue.sized s.txq.w
          simp only [TxQueue.take, Function.update_self, List.length_append, whole,
            List.length_drop]
          omega
        · simpa only [TxQueue.take, Function.update_of_ne here] using queue.sized i
      · simp only [sendEthUsb, allocated, Bool.not_true, Bool.false_eq_true, if_false,
          if_neg (not_le.mpr room), written, if_neg accepted]

namespace QueueInv

variable {align : UInt32} {q : TxQueue} {h : TxHistory}

theorem push {q' : TxQueue} (inv : QueueInv align q h) (eth : Frame) (room : q.n < txqCap)
    (pushed : q'.ring = q.ring.push txqCap (record eth.bytes align))
    (sized : ∀ i, (q'.flat i).length = txqSlot) :
    QueueInv align q' { h with accepted := h.accepted ++ [eth] } where
  wf := by
    rw [pushed]
    exact inv.wf.push room _
  sized := sized
  fifo := by
    rw [pushed, inv.wf.contents_push room, ← List.append_assoc, ← inv.fifo, List.map_append,
      List.map_singleton]

theorem reject (inv : QueueInv align q h) :
    QueueInv align q { h with rejected := h.rejected + 1 } :=
  ⟨inv.wf, inv.sized, inv.fifo⟩

/-- The head holds the oldest accepted frame that has not left. -/
theorem head (inv : QueueInv align q h) (some_left : 0 < q.n) :
    ∃ f, h.accepted[h.left.length]? = some f ∧ q.held q.r = record f.bytes align := by
  have contents := inv.wf.contents_eq_cons some_left
  have fifo := inv.fifo
  rw [contents] at fifo
  have at_head := congrArg (fun records => records[h.left.length]?) fifo
  simp only [List.getElem?_map, List.getElem?_append_right, List.length_map, Nat.le_refl,
    Nat.sub_self, List.getElem?_cons_zero] at at_head
  obtain ⟨f, oldest, held⟩ := Option.map_eq_some_iff.mp at_head
  exact ⟨f, oldest, held.symm⟩

theorem head_len_pos (inv : QueueInv align q h) (some_left : 0 < q.n) : 0 < q.len q.r := by
  obtain ⟨f, _, held⟩ := inv.head some_left
  apply Nat.pos_of_ne_zero
  intro empty
  rw [TxQueue.held, empty, List.take_zero] at held
  exact record_ne_nil f.bytes align held.symm

theorem pop (inv : QueueInv align q h) (some_left : 0 < q.n) (sent : Bool) :
    QueueInv align { q with r := (q.r + 1) % txqCap, n := q.n - 1 }
      { h with
        left := h.left ++ [⟨q.held q.r, sent, h.attempts⟩]
        attempts := 0 } where
  wf := inv.wf.pop some_left
  sized := inv.sized
  fifo := by
    have contents := inv.wf.contents_eq_cons some_left
    rw [inv.fifo, contents, List.map_append, List.append_assoc]
    rfl

end QueueInv

/-! ## The invariant -/

/-- What the I/O thread knows about the queue at each of its positions.  Only in
its run loop may a URB be in flight, and that URB points to the head. -/
def TxIo.Holds (q : TxQueue) (urb : OutUrb) : TxIo → Prop
  | .idle => urb.busy = true → urb.buf = q.r ∧ 0 < q.n
  | .submit idx n | .submitFailed idx n | .resubmit idx n =>
      urb.busy = false ∧ idx = q.r ∧ 0 < q.n ∧ 0 < n
  | .drop idx => urb.busy = false ∧ idx = q.r ∧ 0 < q.n
  | .drainWrite idx _ => urb.busy = false ∧ idx = q.r ∧ 0 < q.n
  | .completing _ | .drainPop _ _ => urb.busy = false ∧ 0 < q.n
  | .countOut _ n => urb.busy = false ∧ 0 < n
  | .countDrop | .drainHead | .countDrain _ _ => urb.busy = false

/-- Pushing keeps what the I/O thread knows. -/
theorem TxIo.Holds.push {io : TxIo} {q q' : TxQueue} {urb : OutUrb} (holds : io.Holds q urb)
    (same_head : q'.r = q.r) (more : q.n ≤ q'.n) : io.Holds q' urb := by
  cases io <;> simp only [TxIo.Holds, same_head] at holds ⊢ <;> grind

/-- 1 while the last attempt for the head has not failed yet or its failure is
not counted in `tx_out_retries` yet. -/
def TxIo.trying (io : TxIo) (busy : Bool) : Nat :=
  match io with
  | .idle => if busy then 1 else 0
  | .submitFailed _ _ | .drop _ | .completing _ | .drainPop _ _ => 1
  | _ => 0

theorem TxIo.trying_le_one (io : TxIo) (busy : Bool) : io.trying busy ≤ 1 := by
  cases io <;> cases busy <;> simp [TxIo.trying]

/-- 1 between the pop of a sent frame and its count in `tx_frames`. -/
def TxIo.pendingSent : TxIo → Nat
  | .countOut rc _ => if rc = 0 then 1 else 0
  | .countDrain _ wr => if wr = 0 then 1 else 0
  | _ => 0

/-- 1 between the pop of a dropped frame and its count in `tx_errors`. -/
def TxIo.pendingError : TxIo → Nat
  | .countDrop => 1
  | .countOut rc _ => if rc = 0 then 0 else 1
  | .countDrain _ wr => if wr = 0 then 0 else 1
  | _ => 0

/-- The pending counts of a position behind a pop whose outcome is `code`. -/
theorem pending_eq (code : Int) :
    (if code = 0 then 1 else 0) = (code == 0).toNat ∧
      (if code = 0 then 0 else 1) = (!(code == 0)).toNat := by
  by_cases ok : code = 0
  · simp [ok]
  · simp [ok, beq_eq_false_iff_ne.mpr ok]

/-- The frames that left the queue and were sent. -/
def TxHistory.sent (h : TxHistory) : Nat :=
  h.left.countP Departure.sent

/-- The frames that left the queue and were given up. -/
def TxHistory.dropped (h : TxHistory) : Nat :=
  h.left.countP fun d => !d.sent

theorem TxHistory.sent_add_dropped (h : TxHistory) : h.sent + h.dropped = h.left.length := by
  have split := List.length_eq_countP_add_countP Departure.sent (l := h.left)
  simpa [TxHistory.sent, TxHistory.dropped] using split.symm

/-- The invariant of the transmit side. -/
structure TxInv (s : TxState) : Prop where
  queue : QueueInv s.usbPacketAlign s.txq s.history
  holds : s.io.Holds s.txq s.outUrb
  retries : s.txOutRetries ≤ txOutMaxRetries
  attempts : s.history.attempts ≤ s.txOutRetries + s.io.trying s.outUrb.busy
  departed : ∀ d ∈ s.history.left, d.attempts ≤ txOutMaxRetries + 1
  counted_sent : s.txFrames + s.io.pendingSent = s.history.sent
  counted_errors :
    s.txErrors + s.io.pendingError + s.rejecting = s.history.dropped + s.history.rejected

theorem TxInv.start {flat : Nat → Bytes} (align : UInt32)
    (sized : ∀ i, (flat i).length = txqSlot) : TxInv (.start flat align) where
  queue :=
    { wf := ⟨Int.le_refl 0, Int.natCast_nonneg txqCap, Nat.zero_lt_succ 127, rfl⟩
      sized := sized
      fifo := rfl }
  holds := by
    intro busy
    contradiction
  retries := Nat.zero_le _
  attempts := Nat.zero_le _
  departed := by
    intro d member
    cases member
  counted_sent := rfl
  counted_errors := rfl

/-! ## Steps keep the invariant -/

namespace TxInv

theorem sendEthUsb (inv : TxInv s) (eth : Frame) : TxInv (sendEthUsb s eth).1 := by
  rcases sendEthUsb_spec inv.queue eth with
    rejected | ⟨slot, wrapped, room, pushed, sized, accepted⟩
  · rw [rejected]
    have counted := inv.counted_errors
    refine { inv with queue := inv.queue.reject, counted_errors := ?_ }
    simp only [TxState.reject, TxHistory.dropped] at counted ⊢
    omega
  · rw [accepted]
    have more : s.txq.n ≤ (s.txq.take slot wrapped).n := Int.le_add_one (Int.le_refl _)
    exact
      { inv with
        queue := inv.queue.push eth room pushed sized
        holds := inv.holds.push rfl more }

/-- The I/O thread moves on without touching the queue or a counter. -/
theorem move (inv : TxInv s) (quiet : s.io.pendingSent = 0 ∧ s.io.pendingError = 0)
    (io : TxIo) (urb : OutUrb) (retries attempts : Nat)
    (quiet_next : io.pendingSent = 0 ∧ io.pendingError = 0) (holds : io.Holds s.txq urb)
    (bounded : retries ≤ txOutMaxRetries) (tried : attempts ≤ retries + io.trying urb.busy) :
    TxInv
      { s with
        io := io
        outUrb := urb
        txOutRetries := retries
        history := { s.history with attempts := attempts } } where
  queue := ⟨inv.queue.wf, inv.queue.sized, inv.queue.fifo⟩
  holds := holds
  retries := bounded
  attempts := tried
  departed := inv.departed
  counted_sent := by
    have counted := inv.counted_sent
    rw [quiet.1] at counted
    simpa [TxHistory.sent, quiet_next.1] using counted
  counted_errors := by
    have counted := inv.counted_errors
    rw [quiet.2] at counted
    simpa [TxHistory.dropped, quiet_next.2] using counted

/-- The head leaves the queue; its count is pending afterwards. -/
theorem popHead (inv : TxInv s) (quiet : s.io.pendingSent = 0 ∧ s.io.pendingError = 0)
    (some_left : 0 < s.txq.n) (sent : Bool) (io : TxIo) (retries : Nat)
    (pending : io.pendingSent = sent.toNat ∧ io.pendingError = (!sent).toNat)
    (holds : io.Holds (s.pop sent).txq s.outUrb) (bounded : retries ≤ txOutMaxRetries) :
    TxInv { s.pop sent with io := io, txOutRetries := retries } where
  queue := inv.queue.pop some_left sent
  holds := holds
  retries := bounded
  attempts := Nat.zero_le _
  departed := by
    intro d member
    rcases List.mem_append.mp member with earlier | now
    · exact inv.departed d earlier
    · rw [List.mem_singleton.mp now]
      calc
        s.history.attempts ≤ s.txOutRetries + s.io.trying s.outUrb.busy := inv.attempts
        _ ≤ txOutMaxRetries + 1 := Nat.add_le_add inv.retries (s.io.trying_le_one _)
  counted_sent := by
    have counted := inv.counted_sent
    rw [quiet.1] at counted
    simp only [TxHistory.sent] at counted
    cases sent <;> simp [TxState.pop, TxHistory.sent, List.countP_append, pending, ← counted]
  counted_errors := by
    have counted := inv.counted_errors
    rw [quiet.2] at counted
    simp only [TxHistory.dropped] at counted
    cases sent <;>
      simp only [TxState.pop, TxHistory.dropped, List.countP_append, pending] <;> grind

theorem usbTryStartOut (inv : TxInv s) (idle : s.io = .idle) : TxInv (usbTryStartOut s) := by
  have holds := inv.holds
  have attempts := inv.attempts
  rw [idle] at holds attempts
  unfold Engine.usbTryStartOut
  split_ifs with unallocated busy empty
  · exact inv
  · exact inv
  · exact inv
  · rw [Bool.not_eq_true] at busy
    rw [busy] at attempts
    have some_left : 0 < s.txq.n := not_le.mp empty
    exact inv.move (idle ▸ ⟨rfl, rfl⟩)
      (.submit s.txq.r (s.txq.len s.txq.r)) s.outUrb s.txOutRetries s.history.attempts
      ⟨rfl, rfl⟩ ⟨busy, rfl, some_left, inv.queue.head_len_pos some_left⟩ inv.retries attempts

/-- A submission, from a position where `retries` bounds the attempts so far. -/
theorem submitOut (inv : TxInv s) {idx n : Nat} (write writeTO : IOReturn) {failed : TxIo}
    (quiet : s.io.pendingSent = 0 ∧ s.io.pendingError = 0)
    (holds : s.outUrb.busy = false ∧ idx = s.txq.r ∧ 0 < s.txq.n ∧ 0 < n)
    (tried : s.history.attempts ≤ s.txOutRetries)
    (quiet_failed : failed.pendingSent = 0 ∧ failed.pendingError = 0)
    (failed_holds : failed.Holds s.txq ⟨false, idx⟩) (failed_trying : failed.trying false = 1) :
    TxInv (submitOut s idx n write writeTO failed) := by
  obtain ⟨free, at_head, some_left, some_bytes⟩ := holds
  unfold Engine.submitOut
  rcases atUsbAsyncSubmitOut_idle idx write writeTO free some_bytes with flying | refused
  · rw [flying]
    exact inv.move quiet .idle ⟨true, idx⟩ s.txOutRetries (s.history.attempts + 1) ⟨rfl, rfl⟩
      (fun _ => ⟨at_head, some_left⟩) inv.retries (Nat.succ_le_succ tried)
  · rw [refused]
    refine inv.move quiet failed ⟨false, idx⟩ s.txOutRetries (s.history.attempts + 1)
      quiet_failed failed_holds inv.retries ?_
    rw [failed_trying]
    exact Nat.succ_le_succ tried

theorem dropHead (inv : TxInv s) {idx : Nat}
    (quiet : s.io.pendingSent = 0 ∧ s.io.pendingError = 0) (free : s.outUrb.busy = false)
    (at_head : idx = s.txq.r) (some_left : 0 < s.txq.n) : TxInv (dropHead s idx) := by
  unfold Engine.dropHead
  rw [if_pos ⟨some_left, at_head.symm⟩]
  exact inv.popHead quiet some_left false .countDrop 0 ⟨rfl, rfl⟩ free (Nat.zero_le _)

theorem submitFailed (inv : TxInv s) {idx n : Nat} (here : s.io = .submitFailed idx n) :
    TxInv (submitFailed s idx n) := by
  have holds := inv.holds
  have attempts := inv.attempts
  rw [here] at holds attempts
  obtain ⟨free, at_head, some_left, some_bytes⟩ := holds
  have quiet : s.io.pendingSent = 0 ∧ s.io.pendingError = 0 := here ▸ ⟨rfl, rfl⟩
  unfold Engine.submitFailed
  split_ifs with again
  · exact inv.move quiet (.resubmit idx n) s.outUrb (s.txOutRetries + 1) s.history.attempts
      ⟨rfl, rfl⟩ ⟨free, at_head, some_left, some_bytes⟩ again.1 attempts
  · exact inv.dropHead quiet free at_head some_left

theorem onUsbOut (inv : TxInv s) {rc : Int} (here : s.io = .completing rc) :
    TxInv (onUsbOut s rc) := by
  have holds := inv.holds
  have attempts := inv.attempts
  rw [here] at holds attempts
  obtain ⟨free, some_left⟩ := holds
  have quiet : s.io.pendingSent = 0 ∧ s.io.pendingError = 0 := here ▸ ⟨rfl, rfl⟩
  unfold Engine.onUsbOut
  split_ifs with again
  · refine inv.move quiet .idle s.outUrb (s.txOutRetries + 1) s.history.attempts
      ⟨rfl, rfl⟩ (fun busy => ?_) again.2.1 (Nat.le_add_right_of_le attempts)
    rw [free] at busy
    contradiction
  · dsimp only
    rw [if_pos some_left]
    refine inv.popHead quiet some_left (rc == 0) (.countOut rc (s.txq.len s.txq.r)) 0 ?_
      ⟨free, inv.queue.head_len_pos some_left⟩ (Nat.zero_le _)
    exact pending_eq rc

theorem usbDrainTx (inv : TxInv s) (here : s.io = .drainHead) : TxInv (usbDrainTx s) := by
  have free := inv.holds
  have attempts := inv.attempts
  rw [here] at free attempts
  have quiet : s.io.pendingSent = 0 ∧ s.io.pendingError = 0 := here ▸ ⟨rfl, rfl⟩
  unfold Engine.usbDrainTx
  split_ifs with empty
  · refine inv.move quiet .idle s.outUrb s.txOutRetries s.history.attempts ⟨rfl, rfl⟩
      (fun busy => ?_) inv.retries (Nat.le_add_right_of_le attempts)
    rw [show s.outUrb.busy = false from free] at busy
    contradiction
  · exact inv.move quiet (.drainWrite s.txq.r (s.txq.len s.txq.r)) s.outUrb s.txOutRetries
      s.history.attempts ⟨rfl, rfl⟩ ⟨free, rfl, not_le.mp empty⟩ inv.retries attempts

/-- The pending count is made. -/
theorem counted (inv : TxInv s) (io : TxIo) (quiet : io.pendingSent = 0 ∧ io.pendingError = 0)
    (holds : io.Holds s.txq s.outUrb) (tried : s.history.attempts ≤ s.txOutRetries)
    (bytes : Nat) :
    TxInv
      { s with
        txBytes := bytes
        txFrames := s.txFrames + s.io.pendingSent
        txErrors := s.txErrors + s.io.pendingError
        io := io } where
  queue := inv.queue
  holds := holds
  retries := inv.retries
  attempts := Nat.le_add_right_of_le tried
  departed := inv.departed
  counted_sent := by
    rw [quiet.1]
    exact inv.counted_sent
  counted_errors := by
    rw [quiet.2]
    exact inv.counted_errors

/-- The submission of a head the I/O thread has read. -/
theorem submit_step {write writeTO : IOReturn} {next : TxState} (inv : TxInv s)
    (stepped : txStep s (.submit write writeTO) = some next) : TxInv next := by
  have holds := inv.holds
  have attempts := inv.attempts
  cases here : s.io with
  | submit idx n =>
      simp only [txStep, here, Option.some.injEq] at stepped
      subst stepped
      rw [here] at holds attempts
      exact inv.submitOut write writeTO (here ▸ ⟨rfl, rfl⟩)
        holds attempts ⟨rfl, rfl⟩ ⟨rfl, holds.2⟩ rfl
  | resubmit idx n =>
      simp only [txStep, here, Option.some.injEq] at stepped
      subst stepped
      rw [here] at holds attempts
      exact inv.submitOut write writeTO (here ▸ ⟨rfl, rfl⟩)
        holds attempts ⟨rfl, rfl⟩ ⟨rfl, holds.2.1, holds.2.2.1⟩ rfl
  | _ => simp [txStep, here] at stepped

/-- The write of a head by the drain. -/
theorem bulkWrite_step {wr : Int} {next : TxState} (inv : TxInv s)
    (stepped : txStep s (.bulkWrite wr) = some next) : TxInv next := by
  have holds := inv.holds
  have attempts := inv.attempts
  cases here : s.io with
  | drainWrite idx n =>
      simp only [txStep, here, Option.some.injEq] at stepped
      subst stepped
      rw [here] at holds attempts
      exact inv.move (here ▸ ⟨rfl, rfl⟩)
        (.drainPop n wr) s.outUrb s.txOutRetries (s.history.attempts + 1) ⟨rfl, rfl⟩
        ⟨holds.1, holds.2.2⟩ inv.retries (Nat.succ_le_succ attempts)
  | _ => simp [txStep, here] at stepped

/-- The locked regions and counter updates of the I/O thread. -/
theorem io_step {next : TxState} (inv : TxInv s) (stepped : txStep s .io = some next) :
    TxInv next := by
  have holds := inv.holds
  have attempts := inv.attempts
  cases here : s.io with
  | submitFailed idx n =>
      simp only [txStep, here, Option.some.injEq] at stepped
      subst stepped
      exact inv.submitFailed here
  | drop idx =>
      simp only [txStep, here, Option.some.injEq] at stepped
      subst stepped
      rw [here] at holds
      exact inv.dropHead (here ▸ ⟨rfl, rfl⟩)
        holds.1 holds.2.1 holds.2.2
  | countDrop =>
      simp only [txStep, here, Option.some.injEq] at stepped
      subst stepped
      rw [here] at holds attempts
      have counted := inv.counted .idle ⟨rfl, rfl⟩
        (fun busy => absurd busy (by simp [show s.outUrb.busy = false from holds]))
        attempts s.txBytes
      rw [here] at counted
      exact counted
  | completing rc =>
      simp only [txStep, here, Option.some.injEq] at stepped
      subst stepped
      exact inv.onUsbOut here
  | countOut rc n =>
      simp only [txStep, here, Option.some.injEq] at stepped
      subst stepped
      rw [here] at holds attempts
      have idle_holds : TxIo.idle.Holds s.txq s.outUrb := fun busy =>
        absurd busy (by simp [holds.1])
      by_cases ok : rc = 0
      · have counted := inv.counted .idle ⟨rfl, rfl⟩ idle_holds attempts (s.txBytes + n)
        simp only [here, TxIo.pendingSent, TxIo.pendingError, if_pos ok] at counted
        rw [if_pos ok, if_pos (Nat.ne_of_gt holds.2)]
        exact counted
      · have counted := inv.counted .idle ⟨rfl, rfl⟩ idle_holds attempts s.txBytes
        simp only [here, TxIo.pendingSent, TxIo.pendingError, if_neg ok] at counted
        rw [if_neg ok]
        exact counted
  | drainHead =>
      simp only [txStep, here, Option.some.injEq] at stepped
      subst stepped
      exact inv.usbDrainTx here
  | drainPop n wr =>
      simp only [txStep, here, Option.some.injEq] at stepped
      subst stepped
      rw [here] at holds
      refine inv.popHead (here ▸ ⟨rfl, rfl⟩) holds.2
        (wr == 0) (.countDrain n wr) s.txOutRetries ?_ holds.1 inv.retries
      exact pending_eq wr
  | countDrain n wr =>
      simp only [txStep, here, Option.some.injEq] at stepped
      subst stepped
      rw [here] at holds attempts
      by_cases ok : wr = 0
      · have counted := inv.counted .drainHead ⟨rfl, rfl⟩ holds attempts (s.txBytes + n)
        simp only [here, TxIo.pendingSent, TxIo.pendingError, if_pos ok] at counted
        rw [if_pos ok]
        exact counted
      · have counted := inv.counted .drainHead ⟨rfl, rfl⟩ holds attempts s.txBytes
        simp only [here, TxIo.pendingSent, TxIo.pendingError, if_neg ok] at counted
        rw [if_neg ok]
        exact counted
  | _ => simp [txStep, here] at stepped

/-- Every step keeps the invariant. -/
theorem step {label : TxLabel} {next : TxState} (inv : TxInv s)
    (stepped : txStep s label = some next) : TxInv next := by
  have holds := inv.holds
  have attempts := inv.attempts
  cases label with
  | send eth =>
      cases stepped
      exact inv.sendEthUsb eth
  | countRejected =>
      simp only [txStep, Option.ite_none_right_eq_some, Option.some.injEq] at stepped
      obtain ⟨rejecting, rfl⟩ := stepped
      have counted := inv.counted_errors
      refine { inv with counted_errors := ?_ }
      simp only [TxState.addTxErr]
      omega
  | tryStartOut =>
      simp only [txStep, Option.ite_none_right_eq_some, Option.some.injEq] at stepped
      obtain ⟨idle, rfl⟩ := stepped
      exact inv.usbTryStartOut idle
  | outDone result =>
      simp only [txStep, Option.ite_none_right_eq_some, Option.some.injEq] at stepped
      obtain ⟨⟨idle, busy⟩, rfl⟩ := stepped
      rw [idle] at holds attempts
      rw [busy] at attempts
      exact inv.move (idle ▸ ⟨rfl, rfl⟩)
        (.completing (asyncOutDone result)) { s.outUrb with busy := false } s.txOutRetries
        s.history.attempts ⟨rfl, rfl⟩ ⟨rfl, (holds busy).2⟩ inv.retries attempts
  | drain =>
      simp only [txStep, Option.ite_none_right_eq_some, Option.some.injEq] at stepped
      obtain ⟨⟨idle, free⟩, rfl⟩ := stepped
      rw [idle, free] at attempts
      exact inv.move (idle ▸ ⟨rfl, rfl⟩) .drainHead s.outUrb
        s.txOutRetries s.history.attempts ⟨rfl, rfl⟩ free inv.retries attempts
  | submit write writeTO => exact inv.submit_step stepped
  | bulkWrite wr => exact inv.bulkWrite_step stepped
  | io => exact inv.io_step stepped

/-- A URB is in flight only while the I/O thread is in its run loop. -/
theorem idle_of_busy (inv : TxInv s) (busy : s.outUrb.busy = true) : s.io = .idle := by
  have holds := inv.holds
  cases here : s.io with
  | idle => rfl
  | _ => simp [here, TxIo.Holds, busy] at holds

/-- A URB in flight points to the head, which holds the oldest accepted frame
that has not left. -/
theorem urb_head (inv : TxInv s) (busy : s.outUrb.busy = true) :
    s.outUrb.buf = s.txq.r ∧ 0 < s.txq.n ∧
      ∃ f, s.history.accepted[s.history.left.length]? = some f ∧
        s.txq.held s.outUrb.buf = record f.bytes s.usbPacketAlign := by
  have holds := inv.holds
  rw [inv.idle_of_busy busy] at holds
  obtain ⟨at_head, some_left⟩ := holds busy
  refine ⟨at_head, some_left, ?_⟩
  rw [at_head]
  exact inv.queue.head some_left

/-- Until it completes, a URB and the slot it points to stay as they are. -/
theorem urb_kept (inv : TxInv s) {label : TxLabel} {next : TxState}
    (stepped : txStep s label = some next) (busy : s.outUrb.busy = true)
    (in_flight : ∀ result, label ≠ .outDone result) :
    next.outUrb = s.outUrb ∧ next.txq.flat s.outUrb.buf = s.txq.flat s.outUrb.buf ∧
      next.txq.len s.outUrb.buf = s.txq.len s.outUrb.buf := by
  have idle := inv.idle_of_busy busy
  obtain ⟨at_head, some_left, _⟩ := inv.urb_head busy
  cases label with
  | send eth =>
      cases stepped
      rcases sendEthUsb_spec inv.queue eth with rejected | ⟨slot, wrapped, room, _, _, accepted⟩
      · rw [rejected]
        exact ⟨rfl, rfl, rfl⟩
      · have apart : s.txq.r ≠ s.txq.w := inv.queue.wf.read_ne_write room some_left
        rw [accepted, at_head]
        simp only [TxQueue.take, Function.update_of_ne apart, and_self]
  | countRejected =>
      simp only [txStep, Option.ite_none_right_eq_some, Option.some.injEq] at stepped
      obtain ⟨_, rfl⟩ := stepped
      exact ⟨rfl, rfl, rfl⟩
  | tryStartOut =>
      simp only [txStep, idle, if_true, Option.some.injEq, Engine.usbTryStartOut, busy,
        ite_self] at stepped
      subst stepped
      exact ⟨rfl, rfl, rfl⟩
  | outDone result => exact absurd rfl (in_flight result)
  | drain => simp [txStep, busy] at stepped
  | submit write writeTO => simp [txStep, idle] at stepped
  | bulkWrite wr => simp [txStep, idle] at stepped
  | io => simp [txStep, idle] at stepped

end TxInv

/-! ## Runs -/

theorem txStep_run_inv {flat : Nat → Bytes} {align : UInt32} {labels : List TxLabel}
    (sized : ∀ i, (flat i).length = txqSlot)
    (ran : run txStep (.start flat align) labels = some s) : TxInv s :=
  run_invariant (fun _ _ _ inv stepped => inv.step stepped) (.start align sized) ran

/-- **The transmit queue.**  In every state of every run the indices agree with
the counter, the accepted frames are those that left followed by the queue, every
departure is counted once (the one whose count is pending aside), a URB in flight
points to the oldest frame, and no frame is tried more than three times.  From
there, a rejected call leaves the queue as it is and no step before the
completion writes the slot of the URB. -/
theorem txStep_run_conserves {flat : Nat → Bytes} {align : UInt32} {labels : List TxLabel}
    {s : TxState} (sized : ∀ i, (flat i).length = txqSlot)
    (ran : run txStep (.start flat align) labels = some s) :
    (0 ≤ s.txq.n ∧ s.txq.n ≤ 128 ∧ s.txq.w = (s.txq.r + s.txq.n.toNat) % 128) ∧
      s.history.accepted.map (fun f => record f.bytes s.usbPacketAlign) =
        s.history.left.map Departure.record ++ s.txq.ring.contents 128 ∧
      (s.history.accepted.length : Int) =
        s.txFrames + s.io.pendingSent + s.history.dropped + s.txq.n ∧
      (s.io = .idle →
        (s.history.accepted.length : Int) = s.txFrames + s.history.dropped + s.txq.n) ∧
      s.txErrors + s.io.pendingError + s.rejecting = s.history.dropped + s.history.rejected ∧
      (s.history.attempts ≤ 3 ∧ ∀ d ∈ s.history.left, d.attempts ≤ 3) ∧
      (s.outUrb.busy = true → s.outUrb.buf = s.txq.r ∧ 0 < s.txq.n ∧
        ∃ f, s.history.accepted[s.history.left.length]? = some f ∧
          s.txq.held s.outUrb.buf = record f.bytes s.usbPacketAlign) ∧
      (∀ eth, (sendEthUsb s eth).2 ≠ 0 → (sendEthUsb s eth).1.txq = s.txq) ∧
      ∀ label next, txStep s label = some next → s.outUrb.busy = true →
        (∀ result, label ≠ .outDone result) →
        next.outUrb = s.outUrb ∧ next.txq.flat s.outUrb.buf = s.txq.flat s.outUrb.buf ∧
          next.txq.len s.outUrb.buf = s.txq.len s.outUrb.buf := by
  have inv := txStep_run_inv sized ran
  have conserved : (s.history.accepted.length : Int) =
      s.txFrames + s.io.pendingSent + s.history.dropped + s.txq.n := by
    have fifo := congrArg List.length inv.queue.fifo
    have sent := inv.counted_sent
    have parts := s.history.sent_add_dropped
    have nonneg := inv.queue.wf.nonneg
    rw [List.length_map, List.length_append, List.length_map, RingBuffer.contents_length] at fifo
    simp only [TxQueue.ring] at fifo nonneg
    omega
  refine ⟨⟨inv.queue.wf.nonneg, inv.queue.wf.le_cap, inv.queue.wf.write_eq⟩, inv.queue.fifo,
    conserved, ?_, inv.counted_errors, ⟨?_, inv.departed⟩, inv.urb_head, ?_, ?_⟩
  · intro idle
    simpa [idle, TxIo.pendingSent] using conserved
  · calc
      s.history.attempts ≤ s.txOutRetries + s.io.trying s.outUrb.busy := inv.attempts
      _ ≤ txOutMaxRetries + 1 := Nat.add_le_add inv.retries (s.io.trying_le_one _)
  · intro eth refused
    rcases sendEthUsb_spec inv.queue eth with rejected | ⟨_, _, _, _, _, accepted⟩
    · rw [rejected]
      rfl
    · rw [accepted] at refused
      exact absurd rfl refused
  · intro label next stepped busy in_flight
    exact inv.urb_kept stepped busy in_flight

/-- A frame that is given up after three attempts, and one that is sent. -/
def txRetriedRun : List TxLabel :=
  [.send ⟨[1, 2, 3], by decide⟩, .tryStartOut, .submit .other .other, .io,
    .send ⟨[4], by decide⟩, .submit .success .other, .outDone .timeout, .io,
    .tryStartOut, .submit .notResponding .notResponding, .io, .io,
    .tryStartOut, .submit .other .success, .outDone .success, .io, .io]

theorem txStep_run_conserves_retried :
    ∃ s, run txStep (.start (fun _ => zeros 4096) 2) txRetriedRun = some s ∧
      s.txFrames = 1 ∧ s.txErrors = 1 ∧ s.history.left.map Departure.attempts = [3, 1] ∧
      (s.history.accepted.length : Int) = 1 + s.history.dropped + s.txq.n := by
  obtain ⟨s, ran⟩ := Option.isSome_iff_exists.mp
    (show (run txStep (.start (fun _ => zeros 4096) 2) txRetriedRun).isSome by decide +kernel)
  have observed : (run txStep (.start (fun _ => zeros 4096) 2) txRetriedRun).map
      (fun s => (s.txFrames, s.txErrors, s.history.left.map Departure.attempts, s.io)) =
        some (1, 1, [3, 1], .idle) := by
    decide +kernel
  rw [ran, Option.map_some, Option.some.injEq, Prod.mk.injEq, Prod.mk.injEq, Prod.mk.injEq]
    at observed
  obtain ⟨frames, errors, attempts, idle⟩ := observed
  have conserved := (txStep_run_conserves (fun _ => zeros_length _) ran).2.2.2.1 idle
  rw [frames] at conserved
  exact ⟨s, ran, frames, errors, attempts, conserved⟩

end WiredTethering.Engine
