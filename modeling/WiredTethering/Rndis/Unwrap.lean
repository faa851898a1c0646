import WiredTethering.Rndis.Packet
import WiredTethering.Scan.Leftmost

/-!
# Walking an arbitrary bulk buffer

The two scanning loops of the walk are a leftmost scan for records
(`unwrapFrom_leftmost`), and the splitting loop cuts each payload into ordered
slices (`emitEthPayload_cuts`).  Together they give bounds, order and
completeness for every buffer a device can send.
-/

namespace WiredTethering.Rndis

open WiredTethering.Memory
open WiredTethering.Scan

variable {buf : Bytes}

/-! ## The record recogniser -/

theorem looksLikeRndisPacket_eq_some_iff {s : Nat} {dataOff dataLen : UInt32} :
    looksLikeRndisPacket buf s = some (dataOff, dataLen) ↔
      s + packetHdrLen ≤ buf.length ∧ rd32le buf s = msgPacket ∧
        rd32le buf (s + 8) = dataOff ∧ dataOff = 36 ∧
        rd32le buf (s + 12) = dataLen ∧ 14 ≤ dataLen.toNat ∧ dataLen.toNat ≤ 4096 ∧
        s + packetHdrLen + dataLen.toNat ≤ buf.length := by
  have limits (word : UInt32) :
      (word < 14 ∨ 4096 < word) ↔ ¬ (14 ≤ word.toNat ∧ word.toNat ≤ 4096) := by
    simp only [UInt32.lt_iff_toNat_lt, UInt32.reduceToNat]
    omega
  have base : rd32le buf (s + 8) = 36 → (rd32le buf (s + 8)).toNat = 36 := by
    intro off
    rw [off]
    rfl
  unfold looksLikeRndisPacket
  dsimp only
  constructor
  · intro accepted
    split_ifs at accepted with short type off len long
    obtain ⟨rfl, rfl⟩ := Prod.mk.inj (Option.some.inj accepted)
    rw [not_not] at type off
    rw [limits, not_not] at len
    have offNat := base off
    refine ⟨Nat.le_of_not_lt short, type, rfl, off, rfl, len.1, len.2, ?_⟩
    simp only [packetHdrLen, offsetBase] at long ⊢
    omega
  · rintro ⟨inside, type, rfl, off, rfl, low, high, fits⟩
    have offNat := base off
    have long : ¬ buf.length < s + offsetBase + (rd32le buf (s + 8)).toNat +
        (rd32le buf (s + 12)).toNat := by
      simp only [packetHdrLen, offsetBase] at fits ⊢
      omega
    rw [if_neg (Nat.not_lt.mpr inside), if_neg (not_not.mpr type), if_neg (not_not.mpr off),
      if_neg (fun outside => (limits _).mp outside ⟨low, high⟩), if_neg long]

/-- The recogniser as the scan sees it: where the record at `s` stops. -/
def packetEnd (buf : Bytes) (s : Nat) : Option Nat :=
  (looksLikeRndisPacket buf s).map fun found =>
    s + offsetBase + found.1.toNat + found.2.toNat

/-- The offsets below this bound have room for a record header. -/
def packetBound (buf : Bytes) : Nat :=
  buf.length + 1 - packetHdrLen

theorem lt_packetBound_iff {s : Nat} :
    s < packetBound buf ↔ s + packetHdrLen ≤ buf.length := by
  simp only [packetBound, packetHdrLen]
  omega

theorem packetEnd_eq_none_iff {s : Nat} :
    packetEnd buf s = none ↔ looksLikeRndisPacket buf s = none := by
  simp [packetEnd]

/-- The bytes a record occupies, header included. -/
def PacketRecord.span (r : PacketRecord) : Span :=
  ⟨r.header, r.payloadAt + r.dataLen.toNat⟩

/-! ## The scanning loops -/

theorem findPacket_eq_none {s : Nat} (missed : findPacket buf s = none) :
    ∀ t, s ≤ t → t < packetBound buf → packetEnd buf t = none := by
  induction s using findPacket.induct buf with
  | case1 s inside dataOff dataLen recognised =>
      rw [findPacket, if_pos inside, recognised] at missed
      contradiction
  | case2 s inside unrecognised ih =>
      rw [findPacket, if_pos inside, unrecognised] at missed
      intro t after below
      rcases Nat.eq_or_lt_of_le after with rfl | later
      · exact packetEnd_eq_none_iff.mpr unrecognised
      · exact ih missed t later below
  | case3 s outside =>
      intro t after below
      rw [lt_packetBound_iff] at below
      omega

theorem findPacket_eq_some {s : Nat} {r : PacketRecord} (found : findPacket buf s = some r) :
    s ≤ r.header ∧ r.header < packetBound buf ∧
      looksLikeRndisPacket buf r.header = some (r.dataOff, r.dataLen) ∧
      ∀ t, s ≤ t → t < r.header → packetEnd buf t = none := by
  induction s using findPacket.induct buf with
  | case1 s inside dataOff dataLen recognised =>
      rw [findPacket, if_pos inside, recognised] at found
      obtain rfl := Option.some.inj found
      refine ⟨Nat.le_refl s, lt_packetBound_iff.mpr inside, recognised, ?_⟩
      intro t after before
      exact absurd before (Nat.not_lt.mpr after)
  | case2 s inside unrecognised ih =>
      rw [findPacket, if_pos inside, unrecognised] at found
      obtain ⟨after, below, recognised, first⟩ := ih found
      refine ⟨by omega, below, recognised, fun t late early => ?_⟩
      rcases Nat.eq_or_lt_of_le late with rfl | later
      · exact packetEnd_eq_none_iff.mpr unrecognised
      · exact first t later early
  | case3 s outside =>
      rw [findPacket, if_neg outside] at found
      contradiction

/-- The walk accepts exactly the records of the leftmost scan, hands out the
slices of their payloads one record after the other, and adds up what the
splitting loop counts. -/
theorem unwrapFrom_leftmost (buf : Bytes) (off : Nat) :
    Leftmost (packetEnd buf) (packetBound buf) off
        ((unwrapFrom buf off).accepted.map PacketRecord.span) ∧
      (∀ r ∈ (unwrapFrom buf off).accepted,
        looksLikeRndisPacket buf r.header = some (r.dataOff, r.dataLen)) ∧
      (unwrapFrom buf off).calls =
        (unwrapFrom buf off).accepted.flatMap
          (fun r => (emitEthPayload buf r.payloadAt r.dataLen.toNat).2) ∧
      (unwrapFrom buf off).frames =
        ((unwrapFrom buf off).accepted.map
          fun r => (emitEthPayload buf r.payloadAt r.dataLen.toNat).1).sum := by
  induction off using unwrapFrom.induct buf with
  | case1 off inside missed =>
      rw [unwrapFrom, if_pos inside, missed]
      exact ⟨.done (findPacket_eq_none missed), by simp, rfl, rfl⟩
  | case2 off inside found found_eq next stuck =>
      obtain ⟨after, _, _, _⟩ := findPacket_eq_some found_eq
      simp only [next, PacketRecord.payloadAt, offsetBase] at stuck
      omega
  | case3 off inside found found_eq next advances ih =>
      obtain ⟨after, below, recognised, first⟩ := findPacket_eq_some found_eq
      obtain ⟨scan, records, calls, frames⟩ := ih
      rw [unwrapFrom, if_pos inside, found_eq]
      simp only [next] at advances scan records calls frames
      simp only [if_neg advances, List.map_cons, List.flatMap_cons, List.sum_cons]
      refine ⟨?_, ?_, by rw [calls], by rw [frames]⟩
      · refine .found after below first ?_ ?_ scan
        · simp [packetEnd, recognised, PacketRecord.span, PacketRecord.payloadAt]
        · simp only [PacketRecord.span, PacketRecord.payloadAt, offsetBase]
          omega
      · intro r member
        rcases List.mem_cons.mp member with rfl | later
        · exact recognised
        · exact records r later
  | case4 off outside =>
      rw [unwrapFrom, if_neg outside]
      refine ⟨.done fun s after below => ?_, by simp, rfl, rfl⟩
      rw [lt_packetBound_iff] at below
      omega

/-! ## The splitting loop -/

/-- `slices` are at least an Ethernet header long, in order, and lie between the
offsets `low` and `high`. -/
structure Cuts (low high : Nat) (slices : List Slice) : Prop where
  minimal : ∀ c ∈ slices, 14 ≤ c.len
  inside : ∀ c ∈ slices, low ≤ c.start ∧ c.start + c.len ≤ high
  ordered : slices.Pairwise fun first second => first.start + first.len ≤ second.start

theorem Cuts.nil (low high : Nat) : Cuts low high [] :=
  ⟨by simp, by simp, List.Pairwise.nil⟩

theorem Cuts.cons {low middle high : Nat} {c : Slice} {rest : List Slice}
    (cuts : Cuts middle high rest) (minimal : 14 ≤ c.len) (after : low ≤ c.start)
    (before : c.start + c.len ≤ middle) (middle_le : middle ≤ high) :
    Cuts low high (c :: rest) where
  minimal := by
    intro d member
    rcases List.mem_cons.mp member with rfl | later
    · exact minimal
    · exact cuts.minimal d later
  inside := by
    intro d member
    rcases List.mem_cons.mp member with rfl | later
    · exact ⟨after, by omega⟩
    · have := cuts.inside d later
      exact ⟨by omega, this.2⟩
  ordered := by
    refine List.Pairwise.cons (fun d later => ?_) cuts.ordered
    have := cuts.inside d later
    omega

theorem splitEthPayload_cuts (buf : Bytes) (p n i : Nat) :
    Cuts (p + i) (p + n) (splitEthPayload buf p n i).2 ∧
      (splitEthPayload buf p n i).1 = (splitEthPayload buf p n i).2.length := by
  induction i using splitEthPayload.induct buf p n with
  | case1 i inside flen last =>
      rw [splitEthPayload, if_pos inside, if_pos last]
      refine ⟨.cons (.nil (p + n) (p + n)) ?_ (Nat.le_refl _) ?_ (Nat.le_refl _), rfl⟩
      · show 14 ≤ n - i
        omega
      · show p + i + (n - i) ≤ p + n
        omega
  | case2 i inside flen more ih =>
      obtain ⟨cuts, counted⟩ := ih
      rw [splitEthPayload, if_pos inside, if_neg more]
      simp only [flen] at more cuts counted
      have minimal : 14 ≤ ethFrameLen buf p n i := by omega
      refine ⟨cuts.cons minimal (Nat.le_refl _) ?_ (by omega), ?_⟩
      · show p + i + ethFrameLen buf p n i ≤ p + (i + ethFrameLen buf p n i)
        omega
      · change (splitEthPayload buf p n _).1 + 1 = _
        rw [counted, List.length_cons]
  | case3 i outside =>
      rw [splitEthPayload, if_neg outside]
      exact ⟨.nil _ _, rfl⟩

theorem emitEthPayload_cuts (buf : Bytes) (p n : Nat) :
    Cuts p (p + n) (emitEthPayload buf p n).2 ∧
      (emitEthPayload buf p n).1 = (emitEthPayload buf p n).2.length := by
  simp only [emitEthPayload]
  split_ifs with short single
  · exact ⟨.nil _ _, rfl⟩
  · exact ⟨.cons (.nil (p + n) (p + n)) (Nat.le_of_not_lt short) (Nat.le_refl _)
      (Nat.le_refl _) (Nat.le_refl _), rfl⟩
  · simpa using splitEthPayload_cuts buf p n 0

/-! ## The whole walk -/

theorem Cuts.weaken {low low' high high' : Nat} {slices : List Slice}
    (cuts : Cuts low high slices) (lower : low' ≤ low) (higher : high ≤ high') :
    Cuts low' high' slices where
  minimal := cuts.minimal
  inside c member := by
    have := cuts.inside c member
    omega
  ordered := cuts.ordered

/-- Ordered slices of at least 14 bytes each use up the range they lie in. -/
theorem Cuts.length_le {low high : Nat} {slices : List Slice}
    (cuts : Cuts low high slices) (range : low ≤ high) :
    low + 14 * slices.length ≤ high := by
  induction slices generalizing low with
  | nil => simpa using range
  | cons c rest ih =>
      have here := cuts.inside c List.mem_cons_self
      have minimal := cuts.minimal c List.mem_cons_self
      have rest_cuts : Cuts (c.start + c.len) high rest := by
        refine ⟨fun d later => cuts.minimal d (List.mem_cons_of_mem c later), ?_,
          (List.pairwise_cons.mp cuts.ordered).2⟩
        intro d later
        exact ⟨(List.pairwise_cons.mp cuts.ordered).1 d later,
          (cuts.inside d (List.mem_cons_of_mem c later)).2⟩
      have := ih rest_cuts here.2
      rw [List.length_cons]
      omega

theorem accepted_payload_inside {r : PacketRecord}
    (accepted : looksLikeRndisPacket buf r.header = some (r.dataOff, r.dataLen)) :
    r.payloadAt = r.header + packetHdrLen ∧
      r.payloadAt + r.dataLen.toNat ≤ buf.length := by
  obtain ⟨_, _, _, dataOff, _, _, _, fits⟩ := looksLikeRndisPacket_eq_some_iff.mp accepted
  have dataOffNat : r.dataOff.toNat = 36 := by rw [dataOff]; rfl
  simp only [PacketRecord.payloadAt, packetHdrLen, offsetBase] at *
  omega

theorem unwrapFrom_frames (buf : Bytes) (off : Nat) :
    (unwrapFrom buf off).frames = (unwrapFrom buf off).calls.length := by
  obtain ⟨_, _, calls, frames⟩ := unwrapFrom_leftmost buf off
  rw [calls, frames, List.length_flatMap]
  congr 1
  exact List.map_congr_left fun r _ => (emitEthPayload_cuts buf _ _).2

end WiredTethering.Rndis
