import WiredTethering.Rndis.Unwrap

/-!
# Framing round trip

A bulk transfer made of wrapped frames is unwrapped to these frames.  The layout
of one record is computed first (`rndisWrapEthernetAligned_eq`).  A transfer is
then scanned record by record: the padding behind a payload is zero and so never
recognised (`packetEnd_zero`), and the walk jumps over every payload, whatever it
looks like.
-/

namespace WiredTethering.Rndis

open WiredTethering.Memory
open WiredTethering.Scan

/-! ## Alignment -/

/-- The exponent that `align_pow2` uses for a shift. -/
def clampShift (shift : UInt32) : Nat :=
  max 2 (min shift.toNat 8)

theorem two_pow_clampShift_le (shift : UInt32) : 2 ^ clampShift shift ≤ 256 := by
  apply Nat.pow_le_pow_right (n := 2) (i := clampShift shift) (j := 8) (by decide)
  simp only [clampShift]
  omega

/-- Masking off the low `k` bits of a 64-bit value rounds it down. -/
theorem and_mask_eq {x k : Nat} (fits : x < 2 ^ 64) (small : k ≤ 64) :
    x &&& (2 ^ 64 - 1 - (2 ^ k - 1)) = x / 2 ^ k * 2 ^ k := by
  have pow_le : 2 ^ k ≤ 2 ^ 64 := Nat.pow_le_pow_right (by decide) small
  have pow_pos : 0 < 2 ^ k := Nat.two_pow_pos k
  have split : 2 ^ 64 = 2 ^ (64 - k) * 2 ^ k := by
    rw [← Nat.pow_add, Nat.sub_add_cancel small]
  have mask : 2 ^ 64 - 1 - (2 ^ k - 1) = (2 ^ (64 - k) - 1) <<< k := by
    rw [Nat.shiftLeft_eq, Nat.sub_mul, ← split]
    omega
  have high : x >>> k < 2 ^ (64 - k) := by
    rw [Nat.shiftRight_eq_div_pow]
    apply Nat.div_lt_of_lt_mul
    rw [Nat.mul_comm, ← split]
    exact fits
  calc
    x &&& (2 ^ 64 - 1 - (2 ^ k - 1)) = (x >>> k &&& (2 ^ (64 - k) - 1)) <<< k := by
      rw [mask]
      apply Nat.eq_of_testBit_eq
      intro i
      by_cases low : k ≤ i
      · simp [low, Bool.and_comm]
      · simp [low]
    _ = x / 2 ^ k * 2 ^ k := by
      rw [Nat.and_two_pow_sub_one_eq_mod, Nat.mod_eq_of_lt high, Nat.shiftLeft_eq,
        Nat.shiftRight_eq_div_pow]

/-- `align_pow2` rounds up to a multiple of `2 ^ clampShift shift`. -/
theorem alignPow2_eq {n : Nat} (shift : UInt32) (fits : n + 256 ≤ 2 ^ 64) :
    alignPow2 n shift =
      (n + 2 ^ clampShift shift - 1) / 2 ^ clampShift shift * 2 ^ clampShift shift := by
  have clamped : (if 8 < (if shift < 2 then 2 else shift) then (8 : UInt32)
      else (if shift < 2 then 2 else shift)).toNat = clampShift shift := by
    simp only [clampShift, UInt32.lt_iff_toNat_lt]
    split_ifs <;> simp only [UInt32.reduceToNat] at * <;> omega
  have small : clampShift shift ≤ 64 := by
    simp only [clampShift]
    omega
  have pow_le := two_pow_clampShift_le shift
  simp only [alignPow2]
  rw [clamped, Nat.one_shiftLeft, Nat.mod_eq_of_lt (by omega)]
  exact and_mask_eq (by omega) small

theorem dvd_alignPow2 {n : Nat} (shift : UInt32) (fits : n + 256 ≤ 2 ^ 64) :
    2 ^ clampShift shift ∣ alignPow2 n shift := by
  rw [alignPow2_eq shift fits]
  exact Nat.dvd_mul_left _ _

theorem le_alignPow2 {n : Nat} (shift : UInt32) (fits : n + 256 ≤ 2 ^ 64) :
    n ≤ alignPow2 n shift := by
  rw [alignPow2_eq shift fits]
  have positive : 0 < 2 ^ clampShift shift := Nat.two_pow_pos _
  generalize 2 ^ clampShift shift = a at positive ⊢
  have whole := Nat.div_add_mod (n + a - 1) a
  have remainder := Nat.mod_lt (n + a - 1) positive
  rw [Nat.mul_comm] at whole
  omega

theorem alignPow2_lt {n : Nat} (shift : UInt32) (fits : n + 256 ≤ 2 ^ 64) :
    alignPow2 n shift < n + 256 := by
  rw [alignPow2_eq shift fits]
  have pow_le := two_pow_clampShift_le shift
  have positive : 0 < 2 ^ clampShift shift := Nat.two_pow_pos _
  have rounded := Nat.div_mul_le_self (n + 2 ^ clampShift shift - 1) (2 ^ clampShift shift)
  omega

/-! ## The layout of a record -/

/-- The payload length of a wrapped frame. -/
def paddedLength (eth : Bytes) : Nat :=
  max ethMin eth.length

/-- The length of a wrapped frame. -/
def recordLength (eth : Bytes) (shift : UInt32) : Nat :=
  alignPow2 (packetHdrLen + paddedLength eth) shift

/-- The header of a `PACKET_MSG` record. -/
def packetHeader (messageLength dataLength : UInt32) : Bytes :=
  le32 msgPacket ++ le32 messageLength ++ le32 36 ++ le32 dataLength ++ zeros 28

theorem packetHeader_length (messageLength dataLength : UInt32) :
    (packetHeader messageLength dataLength).length = packetHdrLen := by
  simp [packetHeader, packetHdrLen]

/-- The frame as the receiver of a record sees it. -/
def padded (eth : Bytes) : Bytes :=
  eth ++ zeros (ethMin - eth.length)

theorem padded_length (eth : Bytes) : (padded eth).length = paddedLength eth := by
  simp only [padded, paddedLength, List.length_append, zeros_length]
  omega

theorem recordLength_ge {eth : Bytes} (shift : UInt32) (fits : eth.length + 512 ≤ 2 ^ 64) :
    packetHdrLen + paddedLength eth ≤ recordLength eth shift := by
  apply le_alignPow2
  simp only [packetHdrLen, paddedLength, ethMin]
  omega

/-- Storing the five fields of a record into a zeroed buffer, one after the
other, builds the record. -/
theorem write_fields (messageLength dataLength : UInt32) (eth rest : Bytes) :
    overwrite
        (wr32le (wr32le (wr32le (wr32le (zeros (packetHdrLen + eth.length) ++ rest) 0 msgPacket)
          4 messageLength) 8 36) 12 dataLength) packetHdrLen eth =
      packetHeader messageLength dataLength ++ eth ++ rest := by
  have blank : zeros (packetHdrLen + eth.length) ++ rest =
      zeros 4 ++ (zeros 4 ++ (zeros 4 ++ (zeros 4 ++ (zeros 28 ++ (zeros eth.length ++ rest))))) := by
    simp only [← List.append_assoc, zeros_append, packetHdrLen]
    congr 2
    omega
  have type := overwrite_field 0 4 [] (le32 msgPacket)
    (zeros 4 ++ (zeros 4 ++ (zeros 4 ++ (zeros 28 ++ (zeros eth.length ++ rest))))) rfl rfl
  have length := overwrite_field 4 4 (le32 msgPacket) (le32 messageLength)
    (zeros 4 ++ (zeros 4 ++ (zeros 28 ++ (zeros eth.length ++ rest)))) rfl rfl
  have offset := overwrite_field 8 4 (le32 msgPacket ++ le32 messageLength) (le32 36)
    (zeros 4 ++ (zeros 28 ++ (zeros eth.length ++ rest))) rfl rfl
  have dataLen := overwrite_field 12 4 (le32 msgPacket ++ le32 messageLength ++ le32 36)
    (le32 dataLength) (zeros 28 ++ (zeros eth.length ++ rest)) rfl rfl
  have payload := overwrite_field packetHdrLen eth.length
    (packetHeader messageLength dataLength) eth rest (packetHeader_length messageLength dataLength) rfl
  simp only [packetHeader, List.append_assoc, List.nil_append] at type length offset dataLen payload ⊢
  simp only [wr32le]
  rw [blank, type, length, offset, dataLen, payload]

/-- The record of a frame: header, payload, alignment padding. -/
def record (eth : Bytes) (shift : UInt32) : Bytes :=
  packetHeader (UInt32.ofNat (recordLength eth shift)) (UInt32.ofNat (paddedLength eth)) ++
    padded eth ++ zeros (recordLength eth shift - packetHdrLen - paddedLength eth)

theorem record_length {eth : Bytes} (shift : UInt32) (fits : eth.length + 512 ≤ 2 ^ 64) :
    (record eth shift).length = recordLength eth shift := by
  have large := recordLength_ge shift fits
  simp only [record, List.length_append, packetHeader_length, padded_length, zeros_length]
  omega

/-- The record that wrapping writes, and what it leaves alone. -/
theorem rndisWrapEthernetAligned_eq {out eth : Bytes} {shift : UInt32}
    (nonempty : eth ≠ []) (fits : eth.length + 512 ≤ 2 ^ 64)
    (room : recordLength eth shift ≤ out.length) :
    rndisWrapEthernetAligned out eth shift =
      (record eth shift ++ out.drop (recordLength eth shift), recordLength eth shift) := by
  have large := recordLength_ge shift fits
  have payload : (if eth.length < ethMin then ethMin else eth.length) = paddedLength eth := by
    simp only [paddedLength]
    split_ifs <;> omega
  unfold rndisWrapEthernetAligned
  dsimp only
  have total : alignPow2 (packetHdrLen + paddedLength eth) shift = recordLength eth shift := rfl
  rw [if_neg (List.length_eq_zero_iff.not.mpr nonempty), payload, total,
    if_neg (Nat.not_lt.mpr room)]
  have zeroed : overwrite out 0 (zeros (recordLength eth shift)) =
      zeros (packetHdrLen + eth.length) ++ (zeros (recordLength eth shift - packetHdrLen -
        eth.length) ++ out.drop (recordLength eth shift)) := by
    rw [← List.append_assoc, zeros_append]
    simp only [overwrite, List.take_zero, List.nil_append, Nat.zero_add, zeros_length]
    congr 2
    simp only [paddedLength] at large
    omega
  have tail : zeros (recordLength eth shift - packetHdrLen - eth.length) =
      zeros (ethMin - eth.length) ++
        zeros (recordLength eth shift - packetHdrLen - paddedLength eth) := by
    rw [zeros_append]
    congr 1
    simp only [paddedLength] at large ⊢
    omega
  have written := write_fields (UInt32.ofNat (recordLength eth shift))
    (UInt32.ofNat (paddedLength eth)) eth
    (zeros (recordLength eth shift - packetHdrLen - eth.length) ++
      out.drop (recordLength eth shift))
  rw [← zeroed, tail] at written
  congr 1
  simpa only [record, padded, List.append_assoc] using written

/-- A buffer shorter than the record is left as it is. -/
theorem rndisWrapEthernetAligned_short {out eth : Bytes} {shift : UInt32}
    (short : out.length < recordLength eth shift) :
    rndisWrapEthernetAligned out eth shift = (out, 0) := by
  have payload : (if eth.length < ethMin then ethMin else eth.length) = paddedLength eth := by
    simp only [paddedLength]
    split_ifs <;> omega
  have total : alignPow2 (packetHdrLen + paddedLength eth) shift = recordLength eth shift := rfl
  unfold rndisWrapEthernetAligned
  dsimp only
  rw [payload, total, if_pos short, ite_self]

/-! ## Recognising one record -/

/-- A record starts with a one, so nothing is recognised at a zero byte. -/
theorem packetEnd_zero {buf : Bytes} {s : Nat} (zero : byteAt buf s = 0) :
    packetEnd buf s = none := by
  rw [packetEnd_eq_none_iff]
  cases found : looksLikeRndisPacket buf s with
  | none => rfl
  | some fields =>
      obtain ⟨dataOff, dataLen⟩ := fields
      obtain ⟨_, type, _⟩ := looksLikeRndisPacket_eq_some_iff.mp found
      have value := congrArg UInt32.toNat type
      rw [rd32le_toNat, zero] at value
      simp only [msgPacket, UInt32.reduceToNat, UInt8.toNat_zero] at value
      omega

/-- A record is recognised where it stands, whatever its `MessageLength`. -/
theorem looksLikeRndisPacket_record (front payload back : Bytes)
    (messageLength : UInt32) {dataLength : UInt32} (sized : payload.length = dataLength.toNat)
    (low : 14 ≤ dataLength.toNat) (high : dataLength.toNat ≤ 4096) :
    looksLikeRndisPacket
        (front ++ (packetHeader messageLength dataLength ++ payload ++ back)) front.length =
      some (36, dataLength) := by
  have header : packetHeader messageLength dataLength ++ payload ++ back =
      le32 msgPacket ++ (le32 messageLength ++ (le32 36 ++ (le32 dataLength ++
        (zeros 28 ++ (payload ++ back))))) := by
    simp only [packetHeader, List.append_assoc]
  apply looksLikeRndisPacket_eq_some_iff.mpr
  refine ⟨?_, ?_, ?_, rfl, ?_, low, high, ?_⟩
  · simp only [List.length_append, packetHeader_length]
    omega
  · have type := rd32le_length_add front (packetHeader messageLength dataLength ++ payload ++ back) 0
    rw [Nat.add_zero] at type
    rw [type, header, rd32le_le32_append]
  · rw [rd32le_length_add, header, ← List.append_assoc]
    exact (rd32le_length_add (le32 msgPacket ++ le32 messageLength) _ 0).trans
      (rd32le_le32_append _ _)
  · rw [rd32le_length_add, header, ← List.append_assoc, ← List.append_assoc]
    exact (rd32le_length_add (le32 msgPacket ++ le32 messageLength ++ le32 36) _ 0).trans
      (rd32le_le32_append _ _)
  · simp only [List.length_append, packetHeader_length]
    omega

/-! ## A bulk transfer -/

/-- One frame of a bulk transfer: the frame, the buffer and the shift it is
wrapped with, the `MessageLength` put in place of the wrapped one, and the number
of zero bytes behind the record. -/
structure Sent where
  frame : Bytes
  out : Bytes
  shift : UInt32
  messageLength : Option UInt32
  gap : Nat

/-- The frame has an Ethernet length and the buffer has room for its record. -/
structure Sent.Valid (t : Sent) : Prop where
  nonempty : 1 ≤ t.frame.length
  short : t.frame.length ≤ ethMax
  room : recordLength t.frame t.shift ≤ t.out.length

/-- The record that wrapping returns. -/
def Sent.wrapped (t : Sent) : Bytes :=
  let (out, n) := rndisWrapEthernetAligned t.out t.frame t.shift
  out.take n

/-- The record as it is sent, its `MessageLength` possibly overwritten. -/
def Sent.record (t : Sent) : Bytes :=
  match t.messageLength with
  | none => t.wrapped
  | some messageLength => wr32le t.wrapped 4 messageLength

/-- A record and the zero bytes behind it. -/
def Sent.bytes (t : Sent) : Bytes :=
  t.record ++ zeros t.gap

/-- The whole transfer. -/
def transfer (sent : List Sent) : Bytes :=
  sent.flatMap Sent.bytes

/-- The zero bytes between a payload and the next record. -/
def Sent.slack (t : Sent) : Nat :=
  recordLength t.frame t.shift - packetHdrLen - paddedLength t.frame + t.gap

namespace Sent.Valid

variable {t : Sent}

theorem fits (valid : t.Valid) : t.frame.length + 512 ≤ 2 ^ 64 := by
  have short := valid.short
  simp only [ethMax] at short
  omega

theorem paddedLength_bounds (valid : t.Valid) :
    14 ≤ paddedLength t.frame ∧ paddedLength t.frame ≤ ethMax := by
  have short := valid.short
  simp only [paddedLength, ethMin, ethMax] at *
  omega

theorem dataLength_toNat (valid : t.Valid) :
    (UInt32.ofNat (paddedLength t.frame)).toNat = paddedLength t.frame := by
  have bounds := valid.paddedLength_bounds
  simp only [ethMax] at bounds
  rw [UInt32.toNat_ofNat']
  exact Nat.mod_eq_of_lt (by omega)

/-- What one frame puts into the transfer. -/
theorem bytes_eq (valid : t.Valid) :
    ∃ messageLength, t.bytes =
      packetHeader messageLength (UInt32.ofNat (paddedLength t.frame)) ++
        padded t.frame ++ zeros t.slack := by
  have nonempty : t.frame ≠ [] := List.ne_nil_of_length_pos valid.nonempty
  have wrapped : t.wrapped = Rndis.record t.frame t.shift := by
    simp only [Sent.wrapped, rndisWrapEthernetAligned_eq nonempty valid.fits valid.room]
    exact List.take_left' (record_length t.shift valid.fits)
  unfold Sent.bytes Sent.record Sent.slack
  cases t.messageLength with
  | none =>
      refine ⟨UInt32.ofNat (recordLength t.frame t.shift), ?_⟩
      rw [wrapped, Rndis.record, List.append_assoc, zeros_append]
  | some messageLength =>
      refine ⟨messageLength, ?_⟩
      rw [← zeros_append, ← List.append_assoc]
      congr 1
      rw [wrapped]
      simp only [Rndis.record, packetHeader, List.append_assoc]
      simpa [wr32le] using overwrite_append (le32 msgPacket)
        (le32 (UInt32.ofNat (recordLength t.frame t.shift))) _ (le32 messageLength) rfl

end Sent.Valid

/-! ## Scanning a transfer -/

/-- The records of a transfer that starts at an offset. -/
def recordSpans (off : Nat) : List Sent → List Span
  | [] => []
  | t :: rest =>
      ⟨off, off + packetHdrLen + paddedLength t.frame⟩ ::
        recordSpans (off + t.bytes.length) rest

/-- The payload of a record. -/
def payloadSlice (span : Span) : Slice :=
  ⟨span.start + packetHdrLen, span.stop - (span.start + packetHdrLen)⟩

theorem transfer_cons (t : Sent) (rest : List Sent) :
    transfer (t :: rest) = t.bytes ++ transfer rest :=
  rfl

/-- The walk finds the records of the transfer, one after the other. -/
theorem transfer_leftmost (front : Bytes) (sent : List Sent) (valid : ∀ t ∈ sent, t.Valid) :
    Leftmost (packetEnd (front ++ transfer sent)) (packetBound (front ++ transfer sent))
      front.length (recordSpans front.length sent) := by
  induction sent generalizing front with
  | nil =>
      refine .done fun s after below => ?_
      rw [lt_packetBound_iff] at below
      simp only [transfer, List.flatMap_nil, List.append_nil, packetHdrLen] at below
      omega
  | cons t rest ih =>
      have first := valid t List.mem_cons_self
      have bounds := first.paddedLength_bounds
      obtain ⟨messageLength, bytes_eq⟩ := first.bytes_eq
      have moved := ih (front ++ t.bytes) fun u member => valid u (List.mem_cons_of_mem t member)
      have whole : front ++ t.bytes ++ transfer rest = front ++ transfer (t :: rest) := by
        rw [transfer_cons, List.append_assoc]
      have used : t.bytes.length = packetHdrLen + paddedLength t.frame + t.slack := by
        rw [bytes_eq]
        simp only [List.length_append, packetHeader_length, padded_length, zeros_length]
      have recognised := looksLikeRndisPacket_record front (padded t.frame)
        (zeros t.slack ++ transfer rest) messageLength
        ((padded_length t.frame).trans first.dataLength_toNat.symm)
        (by rw [first.dataLength_toNat]; exact bounds.1)
        (by rw [first.dataLength_toNat]; simp only [ethMax] at bounds; omega)
      rw [← List.append_assoc (packetHeader _ _ ++ _), ← bytes_eq, ← transfer_cons] at recognised
      rw [whole, List.length_append] at moved
      -- behind the payload only zero bytes stand before the next record
      have quiet (s : Nat) (after : front.length + packetHdrLen + paddedLength t.frame ≤ s)
          (before : s < front.length + t.bytes.length) :
          packetEnd (front ++ transfer (t :: rest)) s = none := by
        apply packetEnd_zero
        have known : (packetHeader messageLength (UInt32.ofNat (paddedLength t.frame)) ++
            padded t.frame).length = packetHdrLen + paddedLength t.frame := by
          rw [List.length_append, packetHeader_length, padded_length]
        obtain ⟨i, rfl⟩ := Nat.exists_eq_add_of_le (show front.length ≤ s by omega)
        rw [byteAt_length_add, transfer_cons, byteAt_append_left _ (by omega), bytes_eq,
          byteAt_append_right _ (by omega), byteAt_zeros]
      refine .found (Nat.le_refl _) ?_ (fun s after before => ?_) ?_ ?_ (moved.weaken ?_ quiet)
      · exact lt_packetBound_iff.mpr (looksLikeRndisPacket_eq_some_iff.mp recognised).1
      · exact absurd before (Nat.not_lt.mpr after)
      · simp only [packetEnd, recognised, Option.map_some, first.dataLength_toNat]
        rfl
      · simp only [packetHdrLen]
        omega
      · change front.length + packetHdrLen + paddedLength t.frame ≤ _
        omega

/-- The payloads of the transfer are the padded frames. -/
theorem transfer_payloads (front : Bytes) (sent : List Sent) (valid : ∀ t ∈ sent, t.Valid) :
    (recordSpans front.length sent).map
        (fun span => (payloadSlice span).bytes (front ++ transfer sent)) =
      sent.map fun t => padded t.frame := by
  induction sent generalizing front with
  | nil => rfl
  | cons t rest ih =>
      have first := valid t List.mem_cons_self
      obtain ⟨messageLength, bytes_eq⟩ := first.bytes_eq
      have moved := ih (front ++ t.bytes) fun u member => valid u (List.mem_cons_of_mem t member)
      rw [List.append_assoc, ← transfer_cons, List.length_append] at moved
      have here : (payloadSlice ⟨front.length,
          front.length + packetHdrLen + paddedLength t.frame⟩).bytes
            (front ++ transfer (t :: rest)) = padded t.frame := by
        simp only [payloadSlice, Slice.bytes, Nat.add_sub_cancel_left]
        have header := slice_length_add
          (packetHeader messageLength (UInt32.ofNat (paddedLength t.frame)))
          (padded t.frame ++ (zeros t.slack ++ transfer rest)) 0 (paddedLength t.frame)
        have payload := slice_append_exact (padded t.frame) (zeros t.slack ++ transfer rest)
        rw [packetHeader_length, Nat.add_zero] at header
        rw [padded_length] at payload
        rw [slice_length_add, transfer_cons, bytes_eq]
        simp only [List.append_assoc] at header payload ⊢
        rw [header, payload]
      rw [recordSpans, List.map_cons, List.map_cons, moved, here]

theorem recordSpans_length (off : Nat) (sent : List Sent) :
    (recordSpans off sent).length = sent.length := by
  induction sent generalizing off with
  | nil => rfl
  | cons t rest ih => rw [recordSpans, List.length_cons, ih, List.length_cons]

theorem recordSpans_bounds {off : Nat} {sent : List Sent} (valid : ∀ t ∈ sent, t.Valid)
    {span : Span} (member : span ∈ recordSpans off sent) :
    14 ≤ (payloadSlice span).len ∧ (payloadSlice span).len ≤ ethMax := by
  induction sent generalizing off with
  | nil => cases member
  | cons t rest ih =>
      rcases List.mem_cons.mp member with rfl | later
      · have bounds := (valid t List.mem_cons_self).paddedLength_bounds
        simpa [payloadSlice] using bounds
      · exact ih (fun u inRest => valid u (List.mem_cons_of_mem t inRest)) later

/-- A payload of at most one Ethernet frame is handed out whole. -/
theorem emitEthPayload_single (buf : Bytes) (p : Nat) {n : Nat} (low : 14 ≤ n)
    (high : n ≤ ethMax) : emitEthPayload buf p n = (1, [⟨p, n⟩]) := by
  rw [emitEthPayload, if_neg (Nat.not_lt.mpr low), if_pos high]

/-- A walk that accepts records with single-frame payloads calls back once for
each of them. -/
theorem unwrapFrom_calls_of_spans {buf : Bytes} {off : Nat} {spans : List Span}
    (scan : Leftmost (packetEnd buf) (packetBound buf) off spans)
    (single : ∀ span ∈ spans, 14 ≤ (payloadSlice span).len ∧ (payloadSlice span).len ≤ ethMax) :
    (unwrapFrom buf off).calls = spans.map payloadSlice := by
  obtain ⟨walked, records, calls, _⟩ := unwrapFrom_leftmost buf off
  rw [scan.unique walked] at single ⊢
  rw [calls, List.map_map, List.map_eq_flatMap]
  refine List.flatMap_congr fun r member => ?_
  have bounds := single r.span (List.mem_map_of_mem member)
  have payload : payloadSlice r.span = ⟨r.payloadAt, r.dataLen.toNat⟩ := by
    simp only [payloadSlice, PacketRecord.span]
    rw [← (accepted_payload_inside (records r member)).1, Nat.add_sub_cancel_left]
  rw [payload] at bounds
  rw [emitEthPayload_single buf r.payloadAt bounds.1 bounds.2, Function.comp_apply, payload]

/-- **Framing round trip.**  Wrapping frames, overwriting any `MessageLength`,
putting zero bytes behind the records and unwrapping the concatenation gives the
padded frames back, in order and one callback call each.  Wrapping aligns every
record, and writes nothing into a buffer that is too short. -/
theorem rndisUnwrapBulkAligned_transfer (sent : List Sent) (alignShift : UInt32)
    (valid : ∀ t ∈ sent, t.Valid) :
    let walk := rndisUnwrapBulkAligned (transfer sent) alignShift
    walk.frames = sent.length ∧ walk.calls.length = sent.length ∧
      walk.calls.map (Slice.bytes (transfer sent)) =
        sent.map (fun t => t.frame ++ zeros (60 - t.frame.length)) ∧
      ∀ t ∈ sent,
        (rndisWrapEthernetAligned t.out t.frame t.shift).2 = recordLength t.frame t.shift ∧
        2 ^ max 2 (min t.shift.toNat 8) ∣ recordLength t.frame t.shift ∧
        ∀ out : Bytes, out.length < recordLength t.frame t.shift →
          rndisWrapEthernetAligned out t.frame t.shift = (out, 0) := by
  intro walk
  have scan := transfer_leftmost [] sent valid
  have payloads := transfer_payloads [] sent valid
  simp only [List.nil_append, List.length_nil] at scan payloads
  have calls : walk.calls = (recordSpans 0 sent).map payloadSlice :=
    unwrapFrom_calls_of_spans scan fun span member => recordSpans_bounds valid member
  have count : walk.calls.length = sent.length := by
    rw [calls, List.length_map, recordSpans_length]
  refine ⟨(unwrapFrom_frames _ 0).trans count, count, ?_, fun t member => ⟨?_, ?_, ?_⟩⟩
  · rw [calls, List.map_map]
    exact payloads
  · have first := valid t member
    rw [rndisWrapEthernetAligned_eq (List.ne_nil_of_length_pos first.nonempty) first.fits
      first.room]
  · have short := (valid t member).short
    apply dvd_alignPow2
    simp only [packetHdrLen, paddedLength, ethMin, ethMax] at *
    omega
  · intro out tooShort
    exact rndisWrapEthernetAligned_short tooShort

/-- Two frames, the first of which is itself a record and carries a false
`MessageLength`. -/
theorem rndisUnwrapBulkAligned_transfer_nested :
    let inner : Sent := ⟨[1, 2, 3], zeros 104, 2, none, 0⟩
    let sent : List Sent :=
      [⟨inner.record, zeros 400, 8, some 7, 5⟩, ⟨[4], zeros 200, 4, none, 1⟩]
    (rndisUnwrapBulkAligned (transfer sent) 2).calls.map (Slice.bytes (transfer sent)) =
      [inner.record, 4 :: zeros 59] := by
  intro inner sent
  have valid : ∀ t ∈ sent, t.Valid := by
    intro t member
    simp only [sent, List.mem_cons, List.not_mem_nil, or_false] at member
    rcases member with rfl | rfl
    · exact ⟨by decide +kernel, by decide +kernel, by decide +kernel⟩
    · exact ⟨by decide, by decide, by decide +kernel⟩
  rw [(rndisUnwrapBulkAligned_transfer sent 2 valid).2.2.1]
  decide +kernel

end WiredTethering.Rndis
