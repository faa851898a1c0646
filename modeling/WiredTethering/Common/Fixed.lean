import WiredTethering.Common.Ip4

/-!
# What the filled checksums say

A receiver verifies a packet by adding up its words: with a valid checksum the sum
folds to all ones.  Behind `at_ip4_fix_checksums` both sums of an unfragmented packet
do, whichever of the two fields was filled, and filling again changes nothing.

A first fragment, whose offset is zero, is filled as if it were the whole datagram.
-/

namespace WiredTethering.Common

open WiredTethering.Memory

/-! ## The accumulators -/

theorem l4Sum_congr {a b : Bytes} {n : Nat} (same : SameStart a b) (tail : a.drop n = b.drop n) :
    l4Sum a n = l4Sum b n := by
  rw [l4Sum, l4Sum, tail, same.length, same.pseudoSum]

theorem l4Checksum_congr {a b : Bytes} {n : Nat} (same : SameStart a b)
    (tail : a.drop n = b.drop n) : l4Checksum a n = l4Checksum b n := by
  simp only [l4Checksum, l4Sum_congr same tail,
    same.bytes 9 (by decide) (by decide) (by decide)]

theorem wordSum_header_lt (ip : Bytes) : wordSum (ip.take (headerLen ip)) < 2 ^ 32 := by
  have bound := wordSum_le (ip.take (headerLen ip))
  have small : headerLen ip ≤ 255 * 4 := by
    have byte := (byteAt ip 0 &&& 0x0f).toNat_lt
    rw [headerLen]
    omega
  have taken : (ip.take (headerLen ip)).length ≤ headerLen ip := by
    rw [List.length_take]
    exact Nat.min_le_left _ _
  omega

/-- The accumulator does not overflow on a packet of at most 65535 bytes. -/
theorem l4Sum_lt {ip : Bytes} (short : ip.length ≤ 65535) (n : Nat) : l4Sum ip n < 2 ^ 32 := by
  have bound := wordSum_le (ip.drop n)
  have dropped : (ip.drop n).length ≤ ip.length := by
    rw [List.length_drop]
    exact Nat.sub_le _ _
  have w12 := (rd16be ip 12).toNat_lt
  have w14 := (rd16be ip 14).toNat_lt
  have w16 := (rd16be ip 16).toNat_lt
  have w18 := (rd16be ip 18).toNat_lt
  have proto := (byteAt ip 9).toNat_lt
  rw [l4Sum, pseudoSum]
  split_ifs
  · omega
  · omega

/-- Storing a checksum adds it to the sum. -/
theorem l4Sum_overwrite {ip : Bytes} {off : Nat} (accepted : Accepted ip)
    (found : l4Field ip = some off) (missing : Missing ip off) (value : UInt16) :
    l4Sum (overwrite ip off (be16 value)) (headerLen ip) =
      l4Sum ip (headerLen ip) + value.toNat := by
  obtain ⟨behind, inside, even⟩ := l4Field_inside accepted found
  obtain ⟨rel, rfl⟩ := Nat.exists_eq_add_of_le behind
  rw [Nat.add_sub_cancel_left] at even
  have header := accepted.header
  have same : SameStart (overwrite ip (headerLen ip + rel) (be16 value)) ip := by
    rw [← fill_missing missing]
    exact sameStart_fill inside (.inr (by omega)) value
  have zero : slice (ip.drop (headerLen ip)) rel 2 = [0, 0] := by
    rw [slice, List.drop_drop, ← slice, missing.slice_eq inside]
  have sum : wordSum (overwrite (ip.drop (headerLen ip)) rel (be16 value)) =
      wordSum (ip.drop (headerLen ip)) + value.toNat :=
    wordSum_overwrite even (by rw [List.length_drop]; omega) zero value
  have stored : headerLen ip + rel + (be16 value).length ≤ ip.length := inside
  rw [l4Sum, l4Sum, drop_overwrite stored, sum, same.length, same.pseudoSum]
  exact (Nat.add_assoc _ _ _).symm

/-- The L4 sum folds to all ones with its checksum. -/
theorem foldCarries_l4Sum_add {ip : Bytes} {n : Nat} (fits : l4Sum ip n < 2 ^ 32) :
    foldCarries (l4Sum ip n + (l4Checksum ip n).toNat) = 65535 := by
  have sum := foldCarries_add_not (l4Sum ip n)
  rw [l4Checksum, Nat.mod_eq_of_lt fits]
  split_ifs with zero
  · rw [zero.2] at sum
    exact foldCarries_add_ones sum
  · exact sum

theorem l4Checksum_udp {ip : Bytes} (udp : byteAt ip 9 = 17) (n : Nat) : l4Checksum ip n ≠ 0 := by
  rw [l4Checksum]
  split_ifs with zero
  · decide
  · exact fun none => zero ⟨udp, none⟩

/-! ## The packet behind the stores -/

/-- The packet with both checksums. -/
def fixedPacket (ip : Bytes) : Bytes :=
  fixL4 (fixHeader ip)

section Accepted

variable {ip : Bytes}

theorem fixHeader_drop (accepted : Accepted ip) :
    (fixHeader ip).drop (headerLen ip) = ip.drop (headerLen ip) := by
  have header := accepted.header
  have whole := accepted.whole
  exact drop_fill_front (by omega) (by omega)

/-- Without a field to fill, the second store does nothing. -/
theorem fixedPacket_none (accepted : Accepted ip) (none_found : l4Field ip = none) :
    fixedPacket ip = fixHeader ip := by
  rw [fixedPacket, fixL4, (fixHeader_sameStart accepted).l4Field, none_found]

/-- The second store fills in the checksum of the packet as it was. -/
theorem fixedPacket_some (accepted : Accepted ip) {off : Nat} (found : l4Field ip = some off) :
    fixedPacket ip = fill off (l4Checksum ip (headerLen ip)) (fixHeader ip) := by
  have same := fixHeader_sameStart accepted
  rw [fixedPacket, fixL4, same.l4Field, found]
  dsimp only
  rw [same.headerLen, l4Checksum_congr same (fixHeader_drop accepted)]

/-- Where the second store is, seen from the packet behind the first. -/
theorem l4Field_fixHeader (accepted : Accepted ip) {off : Nat} (found : l4Field ip = some off) :
    headerLen ip ≤ off ∧ 20 ≤ off ∧ off + 2 ≤ (fixHeader ip).length := by
  obtain ⟨behind, inside, -⟩ := l4Field_inside accepted found
  have header := accepted.header
  have length := (fixHeader_sameStart accepted).length
  exact ⟨behind, by omega, by omega⟩

theorem fixedPacket_sameStart (accepted : Accepted ip) : SameStart (fixedPacket ip) ip := by
  have first := fixHeader_sameStart accepted
  cases found : l4Field ip with
  | none =>
      rw [fixedPacket_none accepted found]
      exact first
  | some off =>
      obtain ⟨-, behind, inside⟩ := l4Field_fixHeader accepted found
      have second := sameStart_fill inside (.inr behind) (l4Checksum ip (headerLen ip))
      rw [fixedPacket_some accepted found]
      constructor
      · exact second.length.trans first.length
      · intro i start not_high not_low
        exact (second.bytes i start not_high not_low).trans (first.bytes i start not_high not_low)

/-- The second store leaves the header as the first one left it. -/
theorem fixedPacket_take (accepted : Accepted ip) :
    (fixedPacket ip).take (headerLen ip) = (fixHeader ip).take (headerLen ip) := by
  cases found : l4Field ip with
  | none => rw [fixedPacket_none accepted found]
  | some off =>
      obtain ⟨behind, -, inside⟩ := l4Field_fixHeader accepted found
      rw [fixedPacket_some accepted found]
      exact take_fill_behind behind inside

/-- A byte outside of the two fields. -/
theorem byteAt_fixedPacket (accepted : Accepted ip) {i : Nat} (not_high : i ≠ 10)
    (not_low : i ≠ 11) (outside : ∀ off, l4Field ip = some off → i ≠ off ∧ i ≠ off + 1) :
    byteAt (fixedPacket ip) i = byteAt ip i := by
  have header := accepted.header
  have whole := accepted.whole
  have first : byteAt (fixHeader ip) i = byteAt ip i := byteAt_fill (by omega) (by omega)
  cases found : l4Field ip with
  | none => rw [fixedPacket_none accepted found, first]
  | some off =>
      obtain ⟨-, -, inside⟩ := l4Field_fixHeader accepted found
      have apart := outside off found
      rw [fixedPacket_some accepted found, byteAt_fill inside (by omega), first]

/-- The bytes of the header's field are those of the first store. -/
theorem byteAt_fixedPacket_start (accepted : Accepted ip) {i : Nat} (start : i < 20) :
    byteAt (fixedPacket ip) i = byteAt (fixHeader ip) i := by
  cases found : l4Field ip with
  | none => rw [fixedPacket_none accepted found]
  | some off =>
      obtain ⟨-, behind, inside⟩ := l4Field_fixHeader accepted found
      rw [fixedPacket_some accepted found]
      exact byteAt_fill inside (by omega)

/-- A filled header verifies. -/
theorem header_verifies (accepted : Accepted ip) (missing : Missing ip 10) :
    foldCarries (wordSum ((fixedPacket ip).take (headerLen ip))) = 65535 := by
  have header := accepted.header
  have whole := accepted.whole
  have taken : (ip.take (headerLen ip)).length = headerLen ip := by
    rw [List.length_take, Nat.min_eq_left whole]
  have zero : slice (ip.take (headerLen ip)) 10 2 = [0, 0] := by
    rw [← missing.slice_eq (by omega), slice, slice, List.drop_take, List.take_take,
      Nat.min_eq_left (by omega)]
  have stored : 10 + (be16 (atIpChecksum (ip.take (headerLen ip)))).length ≤ headerLen ip := by
    rw [be16_length]
    omega
  rw [fixedPacket_take accepted, fixHeader, fill_missing missing,
    take_overwrite stored (Nat.le_trans stored whole),
    wordSum_overwrite (by decide) (by omega) zero]
  exact foldCarries_wordSum_add_checksum (wordSum_header_lt ip)

/-- Filled L4 bytes verify. -/
theorem l4_verifies (accepted : Accepted ip) (short : ip.length ≤ 65535) {off : Nat}
    (found : l4Field ip = some off) (missing : Missing ip off) :
    foldCarries (l4Sum (fixedPacket ip) (headerLen ip)) = 65535 := by
  have same := fixHeader_sameStart accepted
  obtain ⟨-, behind, -⟩ := l4Field_fixHeader accepted found
  have missing_first := (missing_fixHeader accepted behind).mpr missing
  have found_first : l4Field (fixHeader ip) = some off := same.l4Field.trans found
  have stored := l4Sum_overwrite (same.accepted accepted) found_first missing_first
    (l4Checksum ip (headerLen ip))
  rw [same.headerLen, l4Sum_congr same (fixHeader_drop accepted)] at stored
  rw [fixedPacket_some accepted found, fill_missing missing_first, stored]
  exact foldCarries_l4Sum_add (l4Sum_lt short _)

/-- A second call changes nothing. -/
theorem fixedPacket_again (accepted : Accepted ip) :
    atIp4FixChecksums (fixedPacket ip) = (fixedPacket ip, 0) := by
  have same := fixedPacket_sameStart accepted
  have again := same.accepted accepted
  have header := accepted.header
  have whole := accepted.whole
  have length := same.length
  have first : fixHeader (fixedPacket ip) = fixedPacket ip := by
    apply fill_settled (by omega)
    intro missing
    rw [missing_iff, byteAt_fixedPacket_start accepted (by decide),
      byteAt_fixedPacket_start accepted (by decide), ← missing_iff] at missing
    rcases missing.of_fill (by omega) with ⟨-, zero⟩
    have unchanged : fixHeader ip = ip := fill_settled (by omega) fun _ => zero
    rw [same.headerLen, fixedPacket_take accepted, unchanged]
    exact zero
  have second : fixL4 (fixedPacket ip) = fixedPacket ip := by
    cases found : l4Field ip with
    | none => rw [fixL4, same.l4Field, found]
    | some off =>
        obtain ⟨-, -, inside⟩ := l4Field_fixHeader accepted found
        have field : l4Field (fixedPacket ip) = some off := same.l4Field.trans found
        rw [fixL4, field]
        apply fill_settled (l4Field_inside again field).2.1
        intro missing
        rw [fixedPacket_some accepted found] at missing
        rcases missing.of_fill inside with ⟨-, zero⟩
        have unchanged : fixedPacket ip = fixHeader ip := by
          rw [fixedPacket_some accepted found]
          exact fill_settled inside fun _ => zero
        rw [same.headerLen, unchanged,
          l4Checksum_congr (fixHeader_sameStart accepted) (fixHeader_drop accepted)]
        exact zero
  rw [atIp4FixChecksums_accepted again, first, second]

end Accepted

/-! ## Whole datagrams -/

/-- A buffer that holds an unfragmented IPv4 datagram. -/
structure WholeDatagram (ip : Bytes) : Prop where
  short : ip.length ≤ 65535
  version : byteAt ip 0 >>> 4 = 4
  header : 20 ≤ headerLen ip
  whole : headerLen ip ≤ ip.length
  offset : rd16be ip 6 &&& 0x1fff = 0
  last : rd16be ip 6 &&& 0x2000 = 0
  total : (rd16be ip 2).toNat = ip.length

/-- Where the checksum field of a TCP, UDP or ICMP message stands that is not too short
to have one. -/
def checksumField (ip : Bytes) : Option Nat :=
  let l4len := ip.length - headerLen ip
  if byteAt ip 9 = 6 ∧ 20 ≤ l4len then some (headerLen ip + 16)
  else if byteAt ip 9 = 17 ∧ 8 ≤ l4len then some (headerLen ip + 6)
  else if byteAt ip 9 = 1 ∧ 4 ≤ l4len then some (headerLen ip + 2)
  else none

/-- The datagram `fixed` is `ip` with valid checksums in the fields that were zero. -/
structure ChecksumsFixed (ip fixed : Bytes) : Prop where
  length : fixed.length = ip.length
  header : rd16be ip 10 = 0 → foldCarries (wordSum (fixed.take (headerLen ip))) = 0xffff
  l4 : ∀ off, checksumField ip = some off → rd16be ip off = 0 →
    foldCarries (l4Sum fixed (headerLen ip)) = 0xffff
  udp : ∀ off, checksumField ip = some off → byteAt ip 9 = 17 → rd16be fixed off ≠ 0
  headerHeld : rd16be ip 10 ≠ 0 → rd16be fixed 10 = rd16be ip 10
  l4Held : ∀ off, checksumField ip = some off → rd16be ip off ≠ 0 →
    rd16be fixed off = rd16be ip off
  others : ∀ i, i ≠ 10 → i ≠ 11 →
    (∀ off, checksumField ip = some off → i ≠ off ∧ i ≠ off + 1) → byteAt fixed i = byteAt ip i

/-- No accumulator of the call exceeds 32 bits. -/
def AccumulatorsFit (ip : Bytes) : Prop :=
  wordSum (ip.take (headerLen ip)) < 2 ^ 32 ∧ l4Sum ip (headerLen ip) < 2 ^ 32

theorem WholeDatagram.accepted {ip : Bytes} (datagram : WholeDatagram ip) : Accepted ip :=
  ⟨datagram.version, datagram.header, datagram.whole⟩

theorem checksumField_of_offset {ip : Bytes} (offset : rd16be ip 6 &&& 0x1fff = 0) :
    checksumField ip = l4Field ip := by
  have frag : isFrag ip = false := by
    rw [isFrag, decide_eq_false_iff_not, not_not]
    exact offset
  rw [checksumField, l4Field, frag, csumOff]
  by_cases tcp : byteAt ip 9 = 6 ∧ 20 ≤ ip.length - headerLen ip
  · rw [if_pos tcp, if_pos ⟨rfl, by omega⟩, if_pos tcp]
    rfl
  by_cases udp : byteAt ip 9 = 17 ∧ 8 ≤ ip.length - headerLen ip
  · rw [if_neg tcp, if_pos udp, if_pos ⟨rfl, by omega⟩, if_neg tcp, if_pos udp]
    rfl
  by_cases icmp : byteAt ip 9 = 1 ∧ 4 ≤ ip.length - headerLen ip
  · rw [if_neg tcp, if_neg udp, if_pos icmp, if_pos ⟨rfl, icmp.2⟩, if_neg tcp, if_neg udp,
      if_pos icmp]
    rfl
  · rw [if_neg tcp, if_neg udp, if_neg icmp, if_neg tcp, if_neg udp, if_neg icmp, ite_self]
    rfl

theorem fixedPacket_fixed {ip : Bytes} (datagram : WholeDatagram ip) :
    ChecksumsFixed ip (fixedPacket ip) := by
  have accepted := datagram.accepted
  have header := accepted.header
  have whole := accepted.whole
  have same_field := checksumField_of_offset datagram.offset
  constructor
  · exact (fixedPacket_sameStart accepted).length
  · intro zero
    exact header_verifies accepted (missing_iff_rd16be.mpr zero)
  · intro off found zero
    exact l4_verifies accepted datagram.short (same_field.symm.trans found)
      (missing_iff_rd16be.mpr zero)
  · intro off found udp
    have field := same_field.symm.trans found
    obtain ⟨-, -, inside⟩ := l4Field_fixHeader accepted field
    rw [fixedPacket_some accepted field, ne_eq, ← missing_iff_rd16be]
    intro missing
    exact l4Checksum_udp udp _ (missing.of_fill inside).2
  · intro held
    have unfilled : fixHeader ip = ip := fill_held (mt missing_iff_rd16be.mp held) _
    rw [rd16be, rd16be, byteAt_fixedPacket_start accepted (by decide),
      byteAt_fixedPacket_start accepted (by decide), unfilled]
  · intro off found held
    have field := same_field.symm.trans found
    obtain ⟨-, behind, -⟩ := l4Field_fixHeader accepted field
    have held_first := mt (missing_fixHeader accepted behind).mp (mt missing_iff_rd16be.mp held)
    rw [fixedPacket_some accepted field, fill_held held_first, rd16be, rd16be, fixHeader,
      byteAt_fill (by omega) (by omega), byteAt_fill (by omega) (by omega)]
  · intro i not_high not_low outside
    apply byteAt_fixedPacket accepted not_high not_low
    rw [← same_field]
    exact outside

/-- **Filling checksums.**  Of an unfragmented datagram both sums verify where the field
was zero, nothing else changes, the accumulators fit 32 bits and a second call changes
nothing.  What is rejected stays as it is. -/
theorem atIp4FixChecksums_fixes :
    (∀ ip, WholeDatagram ip → ∃ fixed, atIp4FixChecksums ip = (fixed, 0) ∧
      ChecksumsFixed ip fixed ∧ AccumulatorsFit ip ∧ atIp4FixChecksums fixed = (fixed, 0)) ∧
    ∀ ip, (atIp4FixChecksums ip).2 = -1 → (atIp4FixChecksums ip).1 = ip := by
  constructor
  · intro ip datagram
    have accepted := datagram.accepted
    exact ⟨fixedPacket ip, atIp4FixChecksums_accepted accepted, fixedPacket_fixed datagram,
      ⟨wordSum_header_lt ip, l4Sum_lt datagram.short _⟩, fixedPacket_again accepted⟩
  · intro ip rejects
    by_cases accepted : Accepted ip
    · rw [atIp4FixChecksums_accepted accepted] at rejects
      exact absurd rejects (by decide : (0 : Int) ≠ -1)
    · rw [atIp4FixChecksums_rejected accepted]

/-- The packet of `tests/test_rndis.c`: a TCP segment without checksums. -/
def segmentWithoutChecksums : Bytes :=
  [0x45, 0, 0, 40, 0, 0, 0, 0, 64, 6, 0, 0, 10, 11, 226, 2, 10, 11, 226, 11,
    0x04, 0xd2, 0x00, 80, 0, 0, 0, 0, 0, 0, 0, 0, 0x50, 0x02, 0, 0, 0, 0, 0, 0]

theorem atIp4FixChecksums_fixes_segment :
    ∃ fixed, atIp4FixChecksums segmentWithoutChecksums = (fixed, 0) ∧
      ChecksumsFixed segmentWithoutChecksums fixed ∧
      AccumulatorsFit segmentWithoutChecksums ∧ atIp4FixChecksums fixed = (fixed, 0) :=
  atIp4FixChecksums_fixes.1 segmentWithoutChecksums
    ⟨by decide, by decide, by decide, by decide, by decide, by decide, by decide⟩

/-! ## Fragments -/

/-- A fragment of a larger datagram. -/
def Fragment (ip : Bytes) : Prop :=
  rd16be ip 6 &&& 0x1fff ≠ 0 ∨ rd16be ip 6 &&& 0x2000 ≠ 0

/-- The call leaves every byte behind the header as it is, and fills in at most the
checksum of the header. -/
structure HeaderOnly (ip behind : Bytes) : Prop where
  l4 : behind.drop (headerLen ip) = ip.drop (headerLen ip)
  header : ∀ i, i ≠ 10 → i ≠ 11 → i < headerLen ip → byteAt behind i = byteAt ip i
  held : rd16be ip 10 ≠ 0 → rd16be behind 10 = rd16be ip 10

/-- Nothing is stored behind the header: the fragment is not the first one, its message
has no checksum field that is zero, or the sum that is stored there, of a TCP or ICMP
message, comes out as zero because the words add up to a multiple of `2 ^ 16 - 1`. -/
def NoL4Store (ip : Bytes) : Prop :=
  rd16be ip 6 &&& 0x1fff ≠ 0 ∨
    ∀ off, checksumField ip = some off → rd16be ip off ≠ 0 ∨
      byteAt ip 9 ≠ 17 ∧ l4Sum ip (headerLen ip) % 2 ^ 32 ≠ 0 ∧
        l4Sum ip (headerLen ip) % 2 ^ 32 % 65535 = 0

theorem foldCarries_eq_ones_iff {s : Nat} : foldCarries s = 65535 ↔ s ≠ 0 ∧ s % 65535 = 0 := by
  have folded := foldCarries_mod s
  have small := foldCarries_lt s
  have zero := foldCarries_eq_zero_iff (s := s)
  omega

/-- When the stored checksum is zero. -/
theorem l4Checksum_eq_zero_iff {ip : Bytes} {n : Nat} :
    l4Checksum ip n = 0 ↔
      byteAt ip 9 ≠ 17 ∧ l4Sum ip n % 2 ^ 32 ≠ 0 ∧ l4Sum ip n % 2 ^ 32 % 65535 = 0 := by
  by_cases udp : byteAt ip 9 = 17
  · exact ⟨fun zero => absurd zero (l4Checksum_udp udp n), fun other => absurd udp other.1⟩
  have small := foldCarries_lt (l4Sum ip n % 2 ^ 32)
  rw [l4Checksum, if_neg fun zero => udp zero.1, ← UInt16.toNat_inj, UInt16.toNat_not,
    UInt16.toNat_ofNat', Nat.mod_eq_of_lt small, ← foldCarries_eq_ones_iff]
  change 65535 - _ = 0 ↔ _
  constructor
  · intro zero
    exact ⟨udp, by omega⟩
  · rintro ⟨-, ones⟩
    omega

theorem rd16be_drop (buf : Bytes) (n off : Nat) :
    rd16be (buf.drop n) off = rd16be buf (n + off) := by
  rw [rd16be, rd16be, byteAt_drop, byteAt_drop, Nat.add_assoc]

theorem fixedPacket_drop_iff {ip : Bytes} (accepted : Accepted ip) :
    (fixedPacket ip).drop (headerLen ip) = ip.drop (headerLen ip) ↔ NoL4Store ip := by
  by_cases later : rd16be ip 6 &&& 0x1fff ≠ 0
  · have frag : isFrag ip = true := decide_eq_true later
    have none_found : l4Field ip = none := by rw [l4Field, frag, csumOff_frag, Option.map_none]
    rw [fixedPacket_none accepted none_found]
    exact iff_of_true (fixHeader_drop accepted) (.inl later)
  have same_field := checksumField_of_offset (not_not.mp later)
  cases found : l4Field ip with
  | none =>
      rw [fixedPacket_none accepted found]
      apply iff_of_true (fixHeader_drop accepted)
      right
      intro off field
      rw [same_field, found] at field
      cases field
  | some off =>
      obtain ⟨behind, after, inside⟩ := l4Field_fixHeader accepted found
      have no_store : NoL4Store ip ↔
          (Missing ip off → l4Checksum ip (headerLen ip) = 0) := by
        rw [NoL4Store, same_field, found, l4Checksum_eq_zero_iff, missing_iff_rd16be]
        constructor
        · rintro (elsewhere | field) zero
          · exact absurd elsewhere later
          · exact (field off rfl).resolve_left (not_not.mpr zero)
        · intro zero
          right
          rintro _ ⟨⟩
          by_cases held : rd16be ip off = 0
          · exact .inr (zero held)
          · exact .inl held
      rw [no_store, ← fixHeader_drop accepted, fixedPacket_some accepted found,
        ← missing_fixHeader accepted after]
      constructor
      · intro same missing
        have read := congrArg (rd16be · (off - headerLen ip)) same
        simp only [rd16be_drop, Nat.add_sub_cancel' behind] at read
        rw [fill_missing missing, rd16be_overwrite _ inside, missing_iff_rd16be.mp missing] at read
        exact read
      · intro zero
        rw [fill_settled inside zero]

/-- **Fragments.**  Of a fragment that is accepted, the call fills in at most the header
checksum exactly if nothing is stored behind the header. -/
theorem fragment_headerOnly_iff :
    ∀ ip, (atIp4FixChecksums ip).2 = 0 → Fragment ip →
      (HeaderOnly ip (atIp4FixChecksums ip).1 ↔ NoL4Store ip) := by
  intro ip accepts fragment
  have accepted : Accepted ip := by
    by_contra rejected
    rw [atIp4FixChecksums_rejected rejected] at accepts
    exact absurd accepts (by decide : (-1 : Int) ≠ 0)
  have header := accepted.header
  have whole := accepted.whole
  rw [atIp4FixChecksums_accepted accepted]
  change HeaderOnly ip (fixedPacket ip) ↔ _
  rw [← fixedPacket_drop_iff accepted]
  constructor
  · exact HeaderOnly.l4
  · intro same
    constructor
    · exact same
    · intro i not_high not_low start
      apply byteAt_fixedPacket accepted not_high not_low
      intro off found
      have behind := (l4Field_fixHeader accepted found).1
      omega
    · intro held
      have unfilled : fixHeader ip = ip := fill_held (mt missing_iff_rd16be.mp held) _
      rw [rd16be, rd16be, byteAt_fixedPacket_start accepted (by decide),
        byteAt_fixedPacket_start accepted (by decide), unfilled]

/-- The first fragment of a UDP datagram: more fragments follow, and the checksum, which
covers the whole datagram, is left to whoever sends it. -/
def firstFragment : Bytes :=
  [0x45, 0, 0, 36, 0, 7, 0x20, 0, 64, 17, 0, 0, 10, 0, 0, 2, 10, 0, 0, 1,
    0x30, 0x39, 0, 53, 0, 40, 0, 0, 1, 2, 3, 4, 5, 6, 7, 8]

/-- It is accepted and a fragment; its checksum is no sum of all ones. -/
theorem fragment_headerOnly_iff_first :
    HeaderOnly firstFragment (atIp4FixChecksums firstFragment).1 ↔ NoL4Store firstFragment :=
  fragment_headerOnly_iff firstFragment (by decide +kernel) (.inr (by decide))

/-- The checksum that the first fragment gets. -/
theorem firstFragment_stored :
    ¬ ∀ ip, (atIp4FixChecksums ip).2 = 0 → Fragment ip →
      HeaderOnly ip (atIp4FixChecksums ip).1 := by
  intro claimed
  have only := claimed firstFragment (by decide +kernel) (.inr (by decide))
  have changed : (atIp4FixChecksums firstFragment).1.drop (headerLen firstFragment) ≠
      firstFragment.drop (headerLen firstFragment) := by
    decide +kernel
  exact changed only.l4

end WiredTethering.Common
