import WiredTethering.Memory.Bytes

/-!
# RNDIS data packets

The data half of `rndis.c`: wrapping one Ethernet frame in a `PACKET_MSG`
record, recognising a record in a bulk-IN buffer, and walking such a buffer.

A buffer argument and its length are one list here.  The callback of the walk is
modelled by the list of slices it receives, each with its offset in the bulk
buffer, and the records the walk accepts are kept beside them.
-/

namespace WiredTethering.Rndis

open WiredTethering.Memory

/-! ## Constants -/

def ethMin : Nat := 60
def ethMax : Nat := 1518
def packetHdrLen : Nat := 44
def offsetBase : Nat := 8
def msgPacket : UInt32 := 0x00000001

/-! ## Wrapping -/

/-- `align_pow2`: `PacketAlignmentFactor` is a shift count, clamped to 2..8.
`size_t` has 64 bits. -/
def alignPow2 (n : Nat) (shift : UInt32) : Nat :=
  let shift := if shift < 2 then 2 else shift
  let shift := if 8 < shift then 8 else shift
  let a := 1 <<< shift.toNat
  (n + a - 1) % 2 ^ 64 &&& (2 ^ 64 - 1 - (a - 1))

/-- `rndis_wrap_ethernet_aligned`: the output buffer afterwards and the returned
length. -/
def rndisWrapEthernetAligned (out eth : Bytes) (alignShift : UInt32) : Bytes × Nat :=
  if eth.length = 0 then (out, 0)
  else
    let payload := if eth.length < ethMin then ethMin else eth.length
    let total := alignPow2 (packetHdrLen + payload) alignShift
    if out.length < total then (out, 0)
    else
      let out := overwrite out 0 (zeros total)
      let out := wr32le out 0 msgPacket
      let out := wr32le out 4 (UInt32.ofNat total)
      let out := wr32le out 8 36
      let out := wr32le out 12 (UInt32.ofNat payload)
      let out := overwrite out packetHdrLen eth
      (out, total)

/-! ## Recognising a record -/

/-- `looks_like_rndis_packet`: `DataOffset` and `DataLength` of a well-formed
record at offset `s`. -/
def looksLikeRndisPacket (buf : Bytes) (s : Nat) : Option (UInt32 × UInt32) :=
  let dataOff := rd32le buf (s + 8)
  let dataLen := rd32le buf (s + 12)
  if buf.length < s + packetHdrLen then none
  else if rd32le buf s ≠ msgPacket then none
  else if dataOff ≠ 36 then none
  else if dataLen < 14 ∨ 4096 < dataLen then none
  else if buf.length < s + offsetBase + dataOff.toNat + dataLen.toNat then none
  else some (dataOff, dataLen)

/-! ## Walking a bulk buffer -/

/-- A range of the bulk buffer, as handed to the callback. -/
structure Slice where
  start : Nat
  len : Nat
deriving DecidableEq, Repr

/-- The bytes of a slice. -/
def Slice.bytes (buf : Bytes) (s : Slice) : Bytes :=
  slice buf s.start s.len

/-- The length of the frame at offset `i` of a payload of `n` bytes, computed
from its own header; 0 when the header does not tell. -/
def ethFrameLen (buf : Bytes) (p n i : Nat) : Nat :=
  let et := rd16be buf (p + i + 12)
  if et = 0x0800 ∧ i + 14 + 20 ≤ n then
    let ihl := (byteAt buf (p + i + 14) &&& 0x0f).toNat * 4
    let iplen := (rd16be buf (p + i + 16)).toNat
    if 20 ≤ ihl ∧ ihl ≤ iplen then 14 + iplen else 0
  else if et = 0x0806 then 42
  else if et = 0x86DD ∧ i + 14 + 40 ≤ n then
    14 + 40 + (rd16be buf (p + i + 18)).toNat
  else 0

/-- The splitting loop of `emit_eth_payload`, from offset `i` of the payload:
frames counted and slices handed out. -/
def splitEthPayload (buf : Bytes) (p n i : Nat) : Nat × List Slice :=
  if i + 14 ≤ n then
    let flen := ethFrameLen buf p n i
    if flen < 14 ∨ n < i + flen then (1, [⟨p + i, n - i⟩])
    else
      let rest := splitEthPayload buf p n (i + flen)
      (rest.1 + 1, ⟨p + i, flen⟩ :: rest.2)
  else (0, [])
termination_by n - i
decreasing_by omega

/-- `emit_eth_payload` on the `n` payload bytes at offset `p` of the bulk
buffer. -/
def emitEthPayload (buf : Bytes) (p n : Nat) : Nat × List Slice :=
  if n < 14 then (0, [])
  else if n ≤ ethMax then (1, [⟨p, n⟩])
  else splitEthPayload buf p n 0

/-- A record accepted by the walk. -/
structure PacketRecord where
  header : Nat
  dataOff : UInt32
  dataLen : UInt32
deriving DecidableEq, Repr

/-- Where the payload of a record starts. -/
def PacketRecord.payloadAt (r : PacketRecord) : Nat :=
  r.header + offsetBase + r.dataOff.toNat

/-- The inner loop of the walk: the first record at or behind offset `s`. -/
def findPacket (buf : Bytes) (s : Nat) : Option PacketRecord :=
  if s + packetHdrLen ≤ buf.length then
    match looksLikeRndisPacket buf s with
    | some (dataOff, dataLen) => some ⟨s, dataOff, dataLen⟩
    | none => findPacket buf (s + 1)
  else none
termination_by buf.length - s
decreasing_by simp only [packetHdrLen] at *; omega

/-- What a walk did: the value of its frame counter, the slices its callback
received, and the records it accepted. -/
structure Unwrapped where
  frames : Nat
  calls : List Slice
  accepted : List PacketRecord
deriving DecidableEq, Repr

/-- The outer loop of `rndis_unwrap_bulk_aligned`, from offset `off`. -/
def unwrapFrom (buf : Bytes) (off : Nat) : Unwrapped :=
  if off + packetHdrLen ≤ buf.length then
    match findPacket buf off with
    | none => ⟨0, [], []⟩
    | some found =>
        let emitted := emitEthPayload buf found.payloadAt found.dataLen.toNat
        let next := found.payloadAt + found.dataLen.toNat
        if next ≤ off then ⟨emitted.1, emitted.2, [found]⟩
        else
          let rest := unwrapFrom buf next
          ⟨emitted.1 + rest.frames, emitted.2 ++ rest.calls, found :: rest.accepted⟩
  else ⟨0, [], []⟩
termination_by buf.length - off
decreasing_by simp only [packetHdrLen] at *; omega

/-- `rndis_unwrap_bulk_aligned`.  The alignment argument is not used. -/
def rndisUnwrapBulkAligned (buf : Bytes) (_alignShift : UInt32) : Unwrapped :=
  unwrapFrom buf 0

end WiredTethering.Rndis
