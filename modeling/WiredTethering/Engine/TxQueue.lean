import WiredTethering.Fifo.Ring
import WiredTethering.Rndis.RoundTrip
import WiredTethering.Transition.Core
import WiredTethering.Usb.Async

/-!
# The USB transmit queue

`send_eth_usb` writes wrapped frames into a ring of slots from any thread.  The
USB I/O thread takes them off in `usb_try_start_out`, in the completion callback
`on_usb_out` and in `usb_drain_tx`.

A step is one region under `txq_mu`, one submission, or one counter update.  A
call of `send_eth_usb` locks once, so its region is one step of its own, which
may come between any two steps of the I/O thread; the position of the I/O thread
inside its functions is `TxIo`.
-/

namespace WiredTethering.Engine

open WiredTethering.Memory
open WiredTethering.Rndis
open WiredTethering.Usb
open WiredTethering.Fifo
open WiredTethering.Transition

def txqCap : Nat := 128
def txqSlot : Nat := 4096
def txOutMaxRetries : Nat := 2

/-! ## State -/

/-- An Ethernet frame in memory.  No C object is larger than `PTRDIFF_MAX`. -/
structure Frame where
  bytes : Bytes
  addressable : bytes.length < 2 ^ 63

/-- The queue fields of `struct at_engine`.  Slot `i` is
`txq_flat + i * AT_TXQ_SLOT`. -/
structure TxQueue where
  flat : Nat → Bytes
  len : Nat → Nat
  r : Nat
  w : Nat
  n : Int

/-- The bytes a slot holds. -/
def TxQueue.held (q : TxQueue) (i : Nat) : Bytes :=
  (q.flat i).take (q.len i)

/-- Where the I/O thread is.  `idx`, `n` and `wr` are its local variables. -/
inductive TxIo where
  | idle
  | submit (idx n : Nat)
  | submitFailed (idx n : Nat)
  | resubmit (idx n : Nat)
  | drop (idx : Nat)
  | countDrop
  | completing (rc : Int)
  | countOut (rc : Int) (n : Nat)
  | drainHead
  | drainWrite (idx n : Nat)
  | drainPop (n : Nat) (wr : Int)
  | countDrain (n : Nat) (wr : Int)
deriving DecidableEq, Repr

/-- A frame that has left the queue: its record, whether it was sent, and how
often its submission was tried. -/
structure Departure where
  record : Bytes
  sent : Bool
  attempts : Nat

/-- What happened so far; no step looks at it. -/
structure TxHistory where
  accepted : List Frame
  left : List Departure
  attempts : Nat
  rejected : Nat

/-- The transmit side of the engine. -/
structure TxState where
  /-- `txq_flat` is not null. -/
  allocated : Bool
  txq : TxQueue
  txOutRetries : Nat
  packetAlignShift : UInt32
  outUrb : OutUrb
  txBytes : Nat
  txFrames : Nat
  txErrors : Nat
  io : TxIo
  /-- Calls of `send_eth_usb` that failed and have not counted the error yet. -/
  rejecting : Nat
  history : TxHistory

/-- The state after `at_engine_start` has allocated the queue. -/
def TxState.start (flat : Nat → Bytes) (packetAlignShift : UInt32) : TxState where
  allocated := true
  txq := ⟨flat, fun _ => 0, 0, 0, 0⟩
  txOutRetries := 0
  packetAlignShift := packetAlignShift
  outUrb := ⟨false, 0⟩
  txBytes := 0
  txFrames := 0
  txErrors := 0
  io := .idle
  rejecting := 0
  history := ⟨[], [], 0, 0⟩

/-- `at_usb_packet_align`. -/
def TxState.usbPacketAlign (s : TxState) : UInt32 :=
  if s.packetAlignShift ≠ 0 then s.packetAlignShift else 2

/-! ## Steps -/

/-- A failed `send_eth_usb`: the error is counted outside the lock. -/
def TxState.reject (s : TxState) : TxState :=
  { s with
    rejecting := s.rejecting + 1
    history := { s.history with rejected := s.history.rejected + 1 } }

/-- The end of `send_eth_usb`: the slot at `txq_w` is written and taken. -/
def TxQueue.take (q : TxQueue) (slot : Bytes) (wrapped : Nat) : TxQueue where
  flat := Function.update q.flat q.w slot
  len := Function.update q.len q.w wrapped
  r := q.r
  w := (q.w + 1) % txqCap
  n := q.n + 1

/-- `send_eth_usb`. -/
def sendEthUsb (s : TxState) (eth : Frame) : TxState × Int :=
  if !s.allocated then (s.reject, -1)
  else if txqCap ≤ s.txq.n then (s.reject, -1)
  else
    let (slot, wrapped) :=
      rndisWrapEthernetAligned (s.txq.flat s.txq.w) eth.bytes s.usbPacketAlign
    if wrapped = 0 ∨ txqSlot < wrapped then
      ({ s with
          txq := { s.txq with flat := Function.update s.txq.flat s.txq.w slot } }.reject, -1)
    else
      ({ s with
          txq := s.txq.take slot wrapped
          history := { s.history with accepted := s.history.accepted ++ [eth] } }, 0)

/-- Advance `txq_r` over the head, which leaves the queue. -/
def TxState.pop (s : TxState) (sent : Bool) : TxState :=
  { s with
    txq := { s.txq with r := (s.txq.r + 1) % txqCap, n := s.txq.n - 1 }
    history :=
      { s.history with
        left := s.history.left ++ [⟨s.txq.held s.txq.r, sent, s.history.attempts⟩]
        attempts := 0 } }

/-- Record that submitting the head was tried. -/
def TxState.attempt (s : TxState) : TxState :=
  { s with history := { s.history with attempts := s.history.attempts + 1 } }

def TxState.addTx (s : TxState) (n : Nat) : TxState :=
  { s with txBytes := s.txBytes + n, txFrames := s.txFrames + 1 }

def TxState.addTxErr (s : TxState) : TxState :=
  { s with txErrors := s.txErrors + 1 }

/-- `usb_try_start_out` up to its first submission. -/
def usbTryStartOut (s : TxState) : TxState :=
  if !s.allocated then s
  else if s.outUrb.busy then s
  else if s.txq.n ≤ 0 then s
  else { s with io := .submit s.txq.r (s.txq.len s.txq.r) }

/-- A submission of `usb_try_start_out`, which goes on at `failed` when it is
refused. -/
def submitOut (s : TxState) (idx n : Nat) (write writeTO : IOReturn) (failed : TxIo) :
    TxState :=
  let (urb, wr) := atUsbAsyncSubmitOut s.outUrb idx n write writeTO
  if wr = 1 then { s with io := .idle }
  else { s with outUrb := urb, io := if wr ≠ 0 then failed else .idle }.attempt

/-- The end of `usb_try_start_out`: give the head up. -/
def dropHead (s : TxState) (idx : Nat) : TxState :=
  let s := { s with txOutRetries := 0, io := .countDrop }
  if 0 < s.txq.n ∧ s.txq.r = idx then s.pop false else s

/-- `usb_try_start_out` after a failed submission. -/
def submitFailed (s : TxState) (idx n : Nat) : TxState :=
  if s.txOutRetries < txOutMaxRetries ∧ 0 < s.txq.n ∧ s.txq.r = idx then
    { s with txOutRetries := s.txOutRetries + 1, io := .resubmit idx n }
  else dropHead s idx

/-- The locked part of `on_usb_out`. -/
def onUsbOut (s : TxState) (rc : Int) : TxState :=
  if rc ≠ 0 ∧ s.txOutRetries < txOutMaxRetries ∧ 0 < s.txq.n then
    { s with txOutRetries := s.txOutRetries + 1, io := .idle }
  else
    let s := { s with txOutRetries := 0 }
    if 0 < s.txq.n then { s.pop (rc == 0) with io := .countOut rc (s.txq.len s.txq.r) }
    else { s with io := .countOut rc 0 }

/-- The head of the loop in `usb_drain_tx`. -/
def usbDrainTx (s : TxState) : TxState :=
  if s.txq.n ≤ 0 then { s with io := .idle }
  else { s with io := .drainWrite s.txq.r (s.txq.len s.txq.r) }

/-- Choices of the environment and the scheduler. -/
inductive TxLabel where
  /-- Any thread calls `send_eth_usb`. -/
  | send (eth : Frame)
  /-- A rejected call counts its error. -/
  | countRejected
  | tryStartOut
  | outDone (result : IOReturn)
  | drain
  /-- What `WritePipeAsync` and `WritePipeAsyncTO` return. -/
  | submit (write writeTO : IOReturn)
  /-- What `at_usb_bulk_write` returns. -/
  | bulkWrite (wr : Int)
  /-- The I/O thread goes on. -/
  | io

/-- One step.  The completion callback and the drain start when the I/O thread
is in its run loop, the drain only without a URB in flight. -/
def txStep : Step TxState TxLabel
  | s, .send eth => some (sendEthUsb s eth).1
  | s, .countRejected =>
      if 0 < s.rejecting then some { s.addTxErr with rejecting := s.rejecting - 1 } else none
  | s, .tryStartOut => if s.io = .idle then some (usbTryStartOut s) else none
  | s, .outDone result =>
      if s.io = .idle ∧ s.outUrb.busy then
        some { s with
          outUrb := { s.outUrb with busy := false }
          io := .completing (asyncOutDone result) }
      else none
  | s, .drain =>
      if s.io = .idle ∧ s.outUrb.busy = false then some { s with io := .drainHead } else none
  | s, .submit write writeTO =>
      match s.io with
      | .submit idx n => some (submitOut s idx n write writeTO (.submitFailed idx n))
      | .resubmit idx n => some (submitOut s idx n write writeTO (.drop idx))
      | _ => none
  | s, .bulkWrite wr =>
      match s.io with
      | .drainWrite _ n => some { s with io := .drainPop n wr }.attempt
      | _ => none
  | s, .io =>
      match s.io with
      | .submitFailed idx n => some (submitFailed s idx n)
      | .drop idx => some (dropHead s idx)
      | .countDrop => some { s.addTxErr with io := .idle }
      | .completing rc => some (onUsbOut s rc)
      | .countOut rc n =>
          some { (if rc = 0 then if n ≠ 0 then s.addTx n else s else s.addTxErr) with
            io := .idle }
      | .drainHead => some (usbDrainTx s)
      | .drainPop n wr => some { s.pop (wr == 0) with io := .countDrain n wr }
      | .countDrain n wr =>
          some { (if wr = 0 then s.addTx n else s.addTxErr) with io := .drainHead }
      | _ => none

end WiredTethering.Engine
