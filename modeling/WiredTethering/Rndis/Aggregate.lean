import WiredTethering.Rndis.RoundTrip

/-!
# Aggregated payloads

A payload longer than an Ethernet frame holds several frames, and `emit_eth_payload` finds
where each ends from the header of its protocol.  Frames without trailing padding are split
back exactly as they were put together.
-/

namespace WiredTethering.Rndis

open WiredTethering.Memory
open WiredTethering.Scan

/-! ## Frames that tell their length -/

/-- A frame that is as long as the header of its protocol says. -/
inductive SelfDelimiting (f : Bytes) : Prop
  | ipv4 (type : rd16be f 12 = 0x0800) (header : 20 ≤ (byteAt f 14 &&& 0x0f).toNat * 4)
      (total : (byteAt f 14 &&& 0x0f).toNat * 4 ≤ (rd16be f 16).toNat)
      (length : f.length = 14 + (rd16be f 16).toNat)
  | arp (type : rd16be f 12 = 0x0806) (length : f.length = 42)
  | ipv6 (type : rd16be f 12 = 0x86DD) (length : f.length = 54 + (rd16be f 18).toNat)

theorem SelfDelimiting.length_ge {f : Bytes} (delimits : SelfDelimiting f) : 34 ≤ f.length := by
  cases delimits with
  | ipv4 type header total length => omega
  | arp type length => omega
  | ipv6 type length => omega

theorem byteAt_middle (front back : Bytes) {f : Bytes} {off : Nat} (inside : off < f.length) :
    byteAt (front ++ (f ++ back)) (front.length + off) = byteAt f off := by
  rw [byteAt_length_add, byteAt_append_left back inside]

theorem rd16be_middle (front back : Bytes) {f : Bytes} {off : Nat}
    (inside : off + 2 ≤ f.length) :
    rd16be (front ++ (f ++ back)) (front.length + off) = rd16be f off := by
  rw [rd16be, rd16be, Nat.add_assoc, byteAt_middle front back (by omega),
    byteAt_middle front back (by omega)]

/-- The length that is computed from the header is that of the frame. -/
theorem ethFrameLen_eq (front back : Bytes) {f : Bytes} {p n i : Nat}
    (delimits : SelfDelimiting f) (here : p + i = front.length) (fits : i + f.length ≤ n) :
    ethFrameLen (front ++ (f ++ back)) p n i = f.length := by
  have long := delimits.length_ge
  have word {off : Nat} (inside : off + 2 ≤ f.length) :
      rd16be (front ++ (f ++ back)) (p + i + off) = rd16be f off := by
    rw [here, rd16be_middle front back inside]
  have nibble : byteAt (front ++ (f ++ back)) (p + i + 14) = byteAt f 14 := by
    rw [here, byteAt_middle front back (by omega)]
  rw [ethFrameLen]
  dsimp only
  rw [word (by omega), word (by omega), word (by omega), nibble]
  cases delimits with
  | ipv4 type header total length =>
      rw [if_pos ⟨type, by omega⟩, if_pos ⟨header, total⟩, length]
  | arp type length =>
      have other : ¬ (rd16be f 12 = 0x0800 ∧ i + 14 + 20 ≤ n) := by
        rw [type]
        exact fun ipv4 => absurd ipv4.1 (by decide)
      rw [if_neg other, if_pos type, length]
  | ipv6 type length =>
      have other : ¬ (rd16be f 12 = 0x0800 ∧ i + 14 + 20 ≤ n) := by
        rw [type]
        exact fun ipv4 => absurd ipv4.1 (by decide)
      have notArp : rd16be f 12 ≠ 0x0806 := by
        rw [type]
        decide
      rw [if_neg other, if_neg notArp, if_pos ⟨type, by omega⟩, length]

/-! ## The splitting loop -/

/-- The slices of frames that lie one behind the other. -/
def frameSlices (off : Nat) : List Bytes → List Slice
  | [] => []
  | f :: rest => ⟨off, f.length⟩ :: frameSlices (off + f.length) rest

theorem frameSlices_bytes (front back : Bytes) (frames : List Bytes) :
    (frameSlices front.length frames).map (Slice.bytes (front ++ (frames.flatten ++ back))) =
      frames := by
  induction frames generalizing front with
  | nil => rfl
  | cons f rest ih =>
      have later := ih (front ++ f)
      rw [List.length_append, List.append_assoc, ← List.append_assoc f] at later
      have first : Slice.bytes (front ++ ((f :: rest).flatten ++ back)) ⟨front.length, f.length⟩ =
          f := by
        rw [Slice.bytes, List.flatten_cons, List.append_assoc]
        exact (slice_length_add front _ 0 f.length).trans (slice_append_exact f _)
      rw [frameSlices, List.map_cons, first, List.flatten_cons, later]

/-- The loop goes from frame to frame. -/
theorem splitEthPayload_frames (front back : Bytes) {frames : List Bytes} {p n i : Nat}
    (delimit : ∀ f ∈ frames, SelfDelimiting f) (here : p + i = front.length)
    (size : n = i + frames.flatten.length) :
    splitEthPayload (front ++ (frames.flatten ++ back)) p n i =
      (frames.length, frameSlices front.length frames) := by
  induction frames generalizing front i with
  | nil =>
      rw [splitEthPayload, if_neg]
      · rfl
      · rw [size]
        simp
  | cons f rest ih =>
      rw [List.forall_mem_cons] at delimit
      have long := delimit.1.length_ge
      rw [List.flatten_cons, List.length_append] at size
      have later := ih (front ++ f) delimit.2 (by rw [List.length_append]; omega)
        (show n = i + f.length + rest.flatten.length by omega)
      rw [List.length_append, List.append_assoc, ← List.append_assoc f] at later
      have length : ethFrameLen (front ++ (f ++ rest.flatten ++ back)) p n i = f.length := by
        rw [List.append_assoc]
        exact ethFrameLen_eq front _ delimit.1 here (by omega)
      rw [splitEthPayload, if_pos (by omega), List.flatten_cons, length]
      dsimp only
      rw [if_neg (by omega), later, frameSlices, here]
      rfl

/-! ## One record -/

/-- A record at `s` whose payload is `payload`, whatever stands in its other fields. -/
structure RecordAt (buf : Bytes) (s : Nat) (payload : Bytes) : Prop where
  type : rd32le buf s = msgPacket
  dataOffset : rd32le buf (s + offsetBase) = 36
  dataLength : (rd32le buf (s + 12)).toNat = payload.length
  payload : slice buf (s + packetHdrLen) payload.length = payload

theorem looksLikeRndisPacket_outside {buf : Bytes} {s : Nat}
    (outside : buf.length < s + packetHdrLen) : looksLikeRndisPacket buf s = none :=
  if_pos outside

/-- Before the record and behind it no other is recognised. -/
def Alone (buf : Bytes) (s n : Nat) : Prop :=
  ∀ t, t < s ∨ s + packetHdrLen + n ≤ t → looksLikeRndisPacket buf t = none

theorem RecordAt.split {buf payload : Bytes} {s : Nat} (here : RecordAt buf s payload)
    (nonempty : payload ≠ []) :
    ∃ front back, front.length = s + packetHdrLen ∧ buf = front ++ (payload ++ back) := by
  refine ⟨buf.take (s + packetHdrLen), buf.drop (s + packetHdrLen + payload.length), ?_, ?_⟩
  · have length := congrArg List.length here.payload
    rw [slice, List.length_take, List.length_drop] at length
    have positive := List.length_pos_iff.mpr nonempty
    rw [List.length_take]
    omega
  · have read := here.payload
    rw [slice] at read
    calc
      buf = buf.take (s + packetHdrLen) ++ buf.drop (s + packetHdrLen) :=
        (List.take_append_drop _ _).symm
      _ = _ := by
        congr 1
        nth_rewrite 1 [← List.take_append_drop payload.length (buf.drop (s + packetHdrLen))]
        rw [read, List.drop_drop]

theorem RecordAt.recognised {buf payload : Bytes} {s : Nat} (here : RecordAt buf s payload)
    (low : 14 ≤ payload.length) (high : payload.length ≤ 4096) :
    looksLikeRndisPacket buf s = some (36, rd32le buf (s + 12)) := by
  have nonempty : payload ≠ [] := List.ne_nil_of_length_pos (by omega)
  rcases here.split nonempty with ⟨front, back, length, whole⟩
  have inside : s + packetHdrLen + payload.length ≤ buf.length := by
    rw [whole, List.length_append, List.length_append, length]
    omega
  apply looksLikeRndisPacket_eq_some_iff.mpr
  refine ⟨by omega, here.type, here.dataOffset, rfl, rfl, ?_, ?_, ?_⟩
  · rw [here.dataLength]
    exact low
  · rw [here.dataLength]
    exact high
  · rw [here.dataLength]
    exact inside

/-- The walk accepts the record and no other. -/
theorem RecordAt.accepted {buf payload : Bytes} {s : Nat} (here : RecordAt buf s payload)
    (low : 14 ≤ payload.length) (high : payload.length ≤ 4096)
    (alone : Alone buf s payload.length) :
    (unwrapFrom buf 0).accepted = [⟨s, 36, rd32le buf (s + 12)⟩] := by
  have recognised := here.recognised low high
  rcases unwrapFrom_leftmost buf 0 with ⟨walked, records, -⟩
  have scan : Leftmost (packetEnd buf) (packetBound buf) 0
      [⟨s, s + packetHdrLen + payload.length⟩] := by
    apply Leftmost.found (Nat.zero_le s)
    · exact lt_packetBound_iff.mpr (looksLikeRndisPacket_eq_some_iff.mp recognised).1
    · exact fun t _ before => packetEnd_eq_none_iff.mpr (alone t (.inl before))
    · rw [packetEnd, recognised, Option.map_some, here.dataLength]
      rfl
    · change s < s + packetHdrLen + payload.length
      omega
    · exact .done fun t behind _ => packetEnd_eq_none_iff.mpr (alone t (.inr behind))
  have spans := walked.unique scan
  rcases List.map_eq_singleton_iff.mp spans with ⟨⟨header, dataOff, dataLen⟩, only, span⟩
  have start : header = s := congrArg Span.start span
  have read := records ⟨header, dataOff, dataLen⟩ (by rw [only]; exact List.mem_singleton_self _)
  rw [start, recognised] at read
  dsimp only at read
  rcases Prod.mk.inj (Option.some.inj read) with ⟨rfl, rfl⟩
  rw [only, start]

/-- **An aggregated payload is split back into its frames.**  Where a bulk buffer holds one
record with the concatenation of self-delimiting frames as its payload, longer than one frame
and no longer than a payload may be, the callback receives exactly these frames, in order, and
they are counted. -/
theorem rndisUnwrapBulkAligned_aggregate (buf : Bytes) (s : Nat) (frames : List Bytes)
    (alignShift : UInt32) (delimit : ∀ f ∈ frames, SelfDelimiting f)
    (long : ethMax < frames.flatten.length) (high : frames.flatten.length ≤ 4096)
    (here : RecordAt buf s frames.flatten) (alone : Alone buf s frames.flatten.length) :
    let walk := rndisUnwrapBulkAligned buf alignShift
    walk.frames = frames.length ∧ walk.calls.map (Slice.bytes buf) = frames := by
  intro walk
  have low : 14 ≤ frames.flatten.length := Nat.le_trans (by decide) (Nat.le_of_lt long)
  have accepted := here.accepted low high alone
  rcases unwrapFrom_leftmost buf 0 with ⟨-, -, calls, count⟩
  rcases here.split (List.ne_nil_of_length_pos (by omega)) with ⟨front, back, length, whole⟩
  have payloadAt : PacketRecord.payloadAt ⟨s, 36, rd32le buf (s + 12)⟩ = front.length :=
    length.symm
  have emitted : emitEthPayload buf front.length frames.flatten.length =
      (frames.length, frameSlices front.length frames) := by
    rw [emitEthPayload, if_neg (by omega), if_neg (by omega), whole]
    exact splitEthPayload_frames front back delimit rfl (Nat.zero_add _).symm
  rw [accepted, List.flatMap_singleton, payloadAt, here.dataLength, emitted] at calls
  rw [accepted, List.map_singleton, List.sum_singleton, payloadAt, here.dataLength, emitted]
    at count
  refine ⟨count, ?_⟩
  change (unwrapFrom buf 0).calls.map _ = _
  rw [calls, whole]
  exact frameSlices_bytes front back frames

/-- An IPv4, an ARP and an IPv6 frame. -/
def sampleFrames : List Bytes :=
  [zeros 12 ++ [0x08, 0x00, 0x45, 0x00, 0x05, 0xDC] ++ zeros 1496,
    zeros 12 ++ [0x08, 0x06] ++ zeros 28,
    zeros 12 ++ [0x86, 0xDD, 0x60, 0, 0, 0, 0, 10] ++ zeros 44]

theorem sampleFrames_split :
    let buf := packetHeader 0 1620 ++ sampleFrames.flatten
    let walk := rndisUnwrapBulkAligned buf 2
    walk.frames = 3 ∧ walk.calls.map (Slice.bytes buf) = sampleFrames := by
  have delimit : ∀ f ∈ sampleFrames, SelfDelimiting f := by
    simp only [sampleFrames, List.forall_mem_cons]
    refine ⟨?_, ?_, ?_, nofun⟩
    · exact .ipv4 (by decide +kernel) (by decide +kernel) (by decide +kernel) (by decide +kernel)
    · exact .arp (by decide +kernel) (by decide +kernel)
    · exact .ipv6 (by decide +kernel) (by decide +kernel)
  apply rndisUnwrapBulkAligned_aggregate _ 0 sampleFrames 2 delimit
  · decide +kernel
  · decide +kernel
  · exact ⟨by decide +kernel, by decide +kernel, by decide +kernel, by decide +kernel⟩
  · have size : (packetHeader 0 1620 ++ sampleFrames.flatten).length = 44 + 1620 := by
      decide +kernel
    have payload : sampleFrames.flatten.length = 1620 := by decide +kernel
    intro t outside
    apply looksLikeRndisPacket_outside
    rw [size]
    rw [payload] at outside
    simp only [packetHdrLen] at outside ⊢
    omega

end WiredTethering.Rndis
