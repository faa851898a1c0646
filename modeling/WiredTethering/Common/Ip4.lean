import WiredTethering.Common.Checksum

/-!
# Filling in the checksums of a packet

`at_ip4_fix_checksums` of `common.c` fills the header checksum and the TCP, UDP or
ICMP checksum of an IPv4 packet where they are zero.  It is two stores, each into a
field that holds zero (`atIp4FixChecksums_accepted`); the rest of the module says
what each of them leaves.
-/

namespace WiredTethering.Common

open WiredTethering.Memory

/-! ## The code -/

/-- The offset of the checksum field in the L4 bytes, where there is one to fill. -/
def csumOff (proto : UInt8) (isFrag : Bool) (l4len : Nat) : Option Nat :=
  if isFrag = false ∧ 4 ≤ l4len then
    if proto = 6 ∧ 20 ≤ l4len then some 16
    else if proto = 17 ∧ 8 ≤ l4len then some 6
    else if proto = 1 ∧ 4 ≤ l4len then some 2
    else none
  else none

/-- The pseudo-header of TCP and UDP: addresses, protocol, L4 length. -/
def pseudoSum (ip : Bytes) (l4len : Nat) : Nat :=
  if byteAt ip 9 = 6 ∨ byteAt ip 9 = 17 then
    (rd16be ip 12).toNat + (rd16be ip 14).toNat + (rd16be ip 16).toNat + (rd16be ip 18).toNat +
      (byteAt ip 9).toNat + l4len
  else 0

/-- What the accumulator of the L4 checksum adds up, behind a header of `ihl` bytes. -/
def l4Sum (ip : Bytes) (ihl : Nat) : Nat :=
  pseudoSum ip (ip.length - ihl) + wordSum (ip.drop ihl)

/-- The L4 checksum; the accumulator has 32 bits, and a UDP checksum is never zero. -/
def l4Checksum (ip : Bytes) (ihl : Nat) : UInt16 :=
  let csum := ~~~ UInt16.ofNat (foldCarries (l4Sum ip ihl % 2 ^ 32))
  if byteAt ip 9 = 17 ∧ csum = 0 then 0xffff else csum

/-- `at_ip4_fix_checksums`: the buffer behind the call, and what it returns. -/
def atIp4FixChecksums (ip : Bytes) : Bytes × Int :=
  if ip.length < 20 then (ip, -1)
  else if byteAt ip 0 >>> 4 ≠ 4 then (ip, -1)
  else
    let ihl := (byteAt ip 0 &&& 0x0f).toNat * 4
    if ihl < 20 ∨ ip.length < ihl then (ip, -1)
    else
      let frag := rd16be ip 6
      let isFrag : Bool := frag &&& 0x1fff ≠ 0
      let off := csumOff (byteAt ip 9) isFrag (ip.length - ihl)
      let ipMissing : Bool := byteAt ip 10 ||| byteAt ip 11 = 0
      let l4Missing : Bool :=
        match off with
        | none => false
        | some off => byteAt ip (ihl + off) ||| byteAt ip (ihl + off + 1) = 0
      if !ipMissing && !l4Missing then (ip, 0)
      else
        let ip :=
          if ipMissing then
            let ip := overwrite ip 10 [0, 0]
            overwrite ip 10 (be16 (atIpChecksum (ip.take ihl)))
          else ip
        match off with
        | none => (ip, 0)
        | some off =>
            if isFrag || !l4Missing then (ip, 0)
            else
              let ip := overwrite ip (ihl + off) [0, 0]
              (overwrite ip (ihl + off) (be16 (l4Checksum ip ihl)), 0)

/-! ## Filling a field -/

/-- The field of two bytes at `off` holds zero. -/
def Missing (buf : Bytes) (off : Nat) : Prop :=
  byteAt buf off ||| byteAt buf (off + 1) = 0

instance (buf : Bytes) (off : Nat) : Decidable (Missing buf off) :=
  inferInstanceAs (Decidable (_ = _))

/-- A value stored in a field that holds zero. -/
def fill (off : Nat) (value : UInt16) (buf : Bytes) : Bytes :=
  if Missing buf off then overwrite buf off (be16 value) else buf

section Fill

variable {buf : Bytes} {off : Nat}

theorem slice_two (inside : off + 2 ≤ buf.length) :
    slice buf off 2 = [byteAt buf off, byteAt buf (off + 1)] := by
  have first : off < buf.length := by omega
  have second : off + 1 < buf.length := by omega
  rw [slice, List.drop_eq_getElem_cons first, List.drop_eq_getElem_cons second, byteAt, byteAt,
    List.getD_eq_getElem _ _ first, List.getD_eq_getElem _ _ second]
  rfl

theorem missing_iff : Missing buf off ↔ byteAt buf off = 0 ∧ byteAt buf (off + 1) = 0 :=
  UInt8.or_eq_zero_iff

theorem Missing.slice_eq (missing : Missing buf off) (inside : off + 2 ≤ buf.length) :
    slice buf off 2 = [0, 0] := by
  rcases missing_iff.mp missing with ⟨high, low⟩
  rw [slice_two inside, high, low]

/-- Clearing a field that holds zero changes nothing. -/
theorem Missing.clear (missing : Missing buf off) (inside : off + 2 ≤ buf.length) :
    overwrite buf off [0, 0] = buf := by
  rw [← missing.slice_eq inside, overwrite_self inside]

theorem fill_missing (missing : Missing buf off) (value : UInt16) :
    fill off value buf = overwrite buf off (be16 value) :=
  if_pos missing

theorem fill_held (held : ¬ Missing buf off) (value : UInt16) : fill off value buf = buf :=
  if_neg held

/-- A field that is to be filled with zero stays as it is. -/
theorem fill_settled {value : UInt16} (inside : off + 2 ≤ buf.length)
    (settled : Missing buf off → value = 0) : fill off value buf = buf := by
  by_cases missing : Missing buf off
  · rw [fill_missing missing, settled missing]
    exact missing.clear inside
  · exact fill_held missing value

theorem fill_length {value : UInt16} (inside : off + 2 ≤ buf.length) :
    (fill off value buf).length = buf.length := by
  by_cases missing : Missing buf off
  · rw [fill_missing missing]
    exact overwrite_length inside
  · rw [fill_held missing]

theorem byteAt_fill {value : UInt16} {i : Nat} (inside : off + 2 ≤ buf.length)
    (outside : i < off ∨ off + 2 ≤ i) : byteAt (fill off value buf) i = byteAt buf i := by
  by_cases missing : Missing buf off
  · rw [fill_missing missing]
    exact byteAt_overwrite inside outside
  · rw [fill_held missing]

theorem take_fill_behind {value : UInt16} {n : Nat} (front : n ≤ off)
    (inside : off + 2 ≤ buf.length) : (fill off value buf).take n = buf.take n := by
  by_cases missing : Missing buf off
  · rw [fill_missing missing]
    exact take_overwrite_behind front inside
  · rw [fill_held missing]

theorem drop_fill_front {value : UInt16} {n : Nat} (behind : off + 2 ≤ n)
    (inside : off + 2 ≤ buf.length) : (fill off value buf).drop n = buf.drop n := by
  by_cases missing : Missing buf off
  · rw [fill_missing missing]
    exact drop_overwrite_front behind inside
  · rw [fill_held missing]

/-- The word that is read from a field behind a store. -/
theorem rd16be_overwrite (value : UInt16) (inside : off + 2 ≤ buf.length) :
    rd16be (overwrite buf off (be16 value)) off = value := by
  have read (i : Nat) (within : i < 2) :
      byteAt (overwrite buf off (be16 value)) (off + i) = byteAt (be16 value) i := by
    rw [byteAt, byteAt, List.getD_eq_getElem?_getD, List.getD_eq_getElem?_getD,
      overwrite_getElem? inside, if_pos (by rw [be16_length]; omega), Nat.add_sub_cancel_left]
  have high := read 0 (by decide)
  have stored := rd16be_be16 value []
  rw [List.append_nil, rd16be] at stored
  rw [Nat.add_zero] at high
  rw [rd16be, high, read 1 (by decide)]
  exact stored

theorem missing_iff_rd16be : Missing buf off ↔ rd16be buf off = 0 := by
  rw [missing_iff, ← UInt16.toNat_inj, rd16be_toNat, ← UInt8.toNat_inj, ← UInt8.toNat_inj]
  change _ ↔ _ = 0
  simp only [UInt8.toNat_zero]
  omega

/-- A field that holds zero behind a fill was filled with zero. -/
theorem Missing.of_fill {value : UInt16} (inside : off + 2 ≤ buf.length)
    (missing : Missing (fill off value buf) off) : Missing buf off ∧ value = 0 := by
  by_cases before : Missing buf off
  · rw [fill_missing before, missing_iff_rd16be, rd16be_overwrite value inside] at missing
    exact ⟨before, missing⟩
  · rw [fill_held before] at missing
    exact absurd missing before

end Fill

/-! ## What is accepted -/

/-- The length of the header. -/
def headerLen (ip : Bytes) : Nat :=
  (byteAt ip 0 &&& 0x0f).toNat * 4

/-- A packet that is not rejected. -/
structure Accepted (ip : Bytes) : Prop where
  version : byteAt ip 0 >>> 4 = 4
  header : 20 ≤ headerLen ip
  whole : headerLen ip ≤ ip.length

/-- The fragment offset is not zero. -/
def isFrag (ip : Bytes) : Bool :=
  rd16be ip 6 &&& 0x1fff ≠ 0

/-- Where the L4 checksum to fill stands in the packet. -/
def l4Field (ip : Bytes) : Option Nat :=
  (csumOff (byteAt ip 9) (isFrag ip) (ip.length - headerLen ip)).map (headerLen ip + ·)

/-- The first store. -/
def fixHeader (ip : Bytes) : Bytes :=
  fill 10 (atIpChecksum (ip.take (headerLen ip))) ip

/-- The second store. -/
def fixL4 (ip : Bytes) : Bytes :=
  match l4Field ip with
  | none => ip
  | some off => fill off (l4Checksum ip (headerLen ip)) ip

/-- The field lies in the L4 bytes. -/
theorem csumOff_inside {proto : UInt8} {frag : Bool} {l4len off : Nat}
    (found : csumOff proto frag l4len = some off) : off + 2 ≤ l4len ∧ off % 2 = 0 := by
  unfold csumOff at found
  split_ifs at found with large tcp udp icmp
  · cases found
    exact ⟨by omega, rfl⟩
  · cases found
    exact ⟨by omega, rfl⟩
  · cases found
    exact ⟨by omega, rfl⟩

theorem csumOff_frag (proto : UInt8) (l4len : Nat) : csumOff proto true l4len = none :=
  if_neg fun large => absurd large.1 nofun

theorem l4Field_inside {ip : Bytes} {off : Nat} (accepted : Accepted ip)
    (found : l4Field ip = some off) :
    headerLen ip ≤ off ∧ off + 2 ≤ ip.length ∧ (off - headerLen ip) % 2 = 0 := by
  obtain ⟨rel, inside, rfl⟩ := Option.map_eq_some_iff.mp found
  rcases csumOff_inside inside with ⟨within, even⟩
  have whole := accepted.whole
  rw [Nat.add_sub_cancel_left]
  exact ⟨Nat.le_add_right _ _, by omega, even⟩

/-- Two packets whose bytes in front of the addresses' end are alike, the checksum of the
header aside. -/
structure SameStart (a b : Bytes) : Prop where
  length : a.length = b.length
  bytes : ∀ i, i < 20 → i ≠ 10 → i ≠ 11 → byteAt a i = byteAt b i

namespace SameStart

variable {a b : Bytes}

theorem word (same : SameStart a b) {i : Nat} (inside : i < 19) (low : i + 1 ≠ 10)
    (at_low : i ≠ 10) (at_high : i ≠ 11) : rd16be a i = rd16be b i := by
  rw [rd16be, rd16be, same.bytes i (by omega) at_low at_high,
    same.bytes (i + 1) (by omega) low (by omega)]

theorem headerLen (same : SameStart a b) : headerLen a = headerLen b := by
  rw [Common.headerLen, Common.headerLen, same.bytes 0 (by decide) (by decide) (by decide)]

theorem accepted (same : SameStart a b) (here : Accepted b) : Accepted a where
  version := by
    rw [same.bytes 0 (by decide) (by decide) (by decide)]
    exact here.version
  header := by
    rw [same.headerLen]
    exact here.header
  whole := by
    rw [same.headerLen, same.length]
    exact here.whole

theorem l4Field (same : SameStart a b) : l4Field a = l4Field b := by
  rw [Common.l4Field, Common.l4Field, same.headerLen, same.length, isFrag, isFrag,
    same.bytes 9 (by decide) (by decide) (by decide),
    same.word (by decide : 6 < 19) (by decide) (by decide) (by decide)]

theorem pseudoSum (same : SameStart a b) (l4len : Nat) :
    pseudoSum a l4len = pseudoSum b l4len := by
  rw [Common.pseudoSum, Common.pseudoSum, same.bytes 9 (by decide) (by decide) (by decide),
    same.word (by decide : 12 < 19) (by decide) (by decide) (by decide),
    same.word (by decide : 14 < 19) (by decide) (by decide) (by decide),
    same.word (by decide : 16 < 19) (by decide) (by decide) (by decide),
    same.word (by decide : 18 < 19) (by decide) (by decide) (by decide)]

end SameStart

theorem sameStart_fill {ip : Bytes} {off : Nat} (inside : off + 2 ≤ ip.length)
    (where_ : off = 10 ∨ 20 ≤ off) (value : UInt16) : SameStart (fill off value ip) ip where
  length := fill_length inside
  bytes := by
    intro i start not_high not_low
    apply byteAt_fill inside
    omega

theorem fixHeader_sameStart {ip : Bytes} (accepted : Accepted ip) :
    SameStart (fixHeader ip) ip := by
  have header := accepted.header
  have whole := accepted.whole
  exact sameStart_fill (by omega) (.inl rfl) _

/-- A field in the L4 bytes is not touched by the first store. -/
theorem missing_fixHeader {ip : Bytes} {off : Nat} (accepted : Accepted ip) (behind : 20 ≤ off) :
    Missing (fixHeader ip) off ↔ Missing ip off := by
  have header := accepted.header
  have whole := accepted.whole
  rw [missing_iff, missing_iff, fixHeader, byteAt_fill (by omega) (by omega),
    byteAt_fill (by omega) (by omega)]

/-! ## The two stores -/

theorem atIp4FixChecksums_accepted {ip : Bytes} (accepted : Accepted ip) :
    atIp4FixChecksums ip = (fixL4 (fixHeader ip), 0) := by
  have header := accepted.header
  have whole := accepted.whole
  have field_eq : l4Field (fixHeader ip) = l4Field ip := (fixHeader_sameStart accepted).l4Field
  have length_eq : (byteAt ip 0 &&& 0x0f).toNat * 4 = headerLen ip := rfl
  have frag_eq : decide (rd16be ip 6 &&& 0x1fff ≠ 0) = isFrag ip := rfl
  have missing_eq (buf : Bytes) (off : Nat) :
      decide (byteAt buf off ||| byteAt buf (off + 1) = 0) = decide (Missing buf off) := rfl
  have first : (if decide (Missing ip 10) = true then
      overwrite (overwrite ip 10 [0, 0]) 10
        (be16 (atIpChecksum ((overwrite ip 10 [0, 0]).take (headerLen ip)))) else ip) =
          fixHeader ip := by
    by_cases missing : Missing ip 10
    · rw [if_pos (decide_eq_true missing), missing.clear (by omega), fixHeader,
        fill_missing missing]
    · rw [if_neg (by simpa using missing), fixHeader, fill_held missing]
  unfold atIp4FixChecksums
  rw [if_neg (by omega), if_neg (not_not.mpr accepted.version)]
  dsimp only
  rw [length_eq, frag_eq, missing_eq ip 10, if_neg (by omega), first]
  cases found : csumOff (byteAt ip 9) (isFrag ip) (ip.length - headerLen ip) with
  | none =>
      have field : l4Field ip = none := by rw [l4Field, found, Option.map_none]
      dsimp only
      rw [fixL4, field_eq, field, Bool.not_false, Bool.and_true]
      by_cases missing : Missing ip 10
      · rw [decide_eq_true missing]
        rfl
      · rw [decide_eq_false missing, fixHeader, fill_held missing]
        rfl
  | some rel =>
      have field : l4Field ip = some (headerLen ip + rel) := by rw [l4Field, found, Option.map_some]
      have inside := l4Field_inside accepted field
      have whole_packet : isFrag ip = false := by
        cases frag : isFrag ip with
        | false => rfl
        | true => rw [frag, csumOff_frag] at found; exact absurd found nofun
      have second : fixL4 (fixHeader ip) = fill (headerLen ip + rel)
          (l4Checksum (fixHeader ip) (headerLen ip)) (fixHeader ip) := by
        rw [fixL4, field_eq, field, (fixHeader_sameStart accepted).headerLen]
      have length := (fixHeader_sameStart accepted).length
      dsimp only
      simp only [missing_eq, second, whole_packet, Bool.false_or]
      by_cases missing : Missing ip (headerLen ip + rel)
      · have missing_first := (missing_fixHeader accepted (by omega)).mpr missing
        rw [decide_eq_true missing, Bool.not_true, Bool.and_false, if_neg nofun, if_neg nofun,
          missing_first.clear (by omega), fill_missing missing_first]
      · have held_first := mt (missing_fixHeader accepted (by omega)).mp missing
        rw [decide_eq_false missing, Bool.not_false, Bool.and_true, if_pos rfl,
          fill_held held_first]
        by_cases header_missing : Missing ip 10
        · rw [decide_eq_true header_missing, if_neg nofun]
        · rw [decide_eq_false header_missing, Bool.not_false, if_pos rfl, fixHeader,
            fill_held header_missing]

/-- What is not accepted is rejected, and stays as it is. -/
theorem atIp4FixChecksums_rejected {ip : Bytes} (rejected : ¬ Accepted ip) :
    atIp4FixChecksums ip = (ip, -1) := by
  unfold atIp4FixChecksums
  by_cases short : ip.length < 20
  · rw [if_pos short]
  by_cases version : byteAt ip 0 >>> 4 = 4
  · have header : headerLen ip < 20 ∨ ip.length < headerLen ip := by
      by_contra inside
      push Not at inside
      exact rejected ⟨version, inside.1, inside.2⟩
    rw [if_neg short, if_neg (not_not.mpr version)]
    exact if_pos header
  · rw [if_neg short, if_pos version]

end WiredTethering.Common
