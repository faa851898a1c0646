import WiredTethering.Common.Fixed
import WiredTethering.Dhcp.Options
import WiredTethering.Dhcp.Reply

/-!
# Well-formed frames

What a receiver finds in a frame of the client: an IPv4 datagram and a UDP datagram
whose lengths and checksums are right, and a BOOTP message whose options area holds
the options of the client's state and nothing else.

The builder computes both checksums by itself.  It computes the ones that
`at_ip4_fix_checksums` fills in (`datagram_eq`), so that the results on that function
say what there is to know about them.
-/

namespace WiredTethering.Dhcp

open WiredTethering.Memory
open WiredTethering.Common
open WiredTethering.Tlv
open WiredTethering.Transition

/-! ## The datagram -/

/-- The header before its checksum is stored. -/
def plainHeader (ipLen : UInt16) (srcIp dstIp : UInt32) : Bytes :=
  [0x45, 0] ++ be16 ipLen ++ [0, 0, 0, 0, 64, 17, 0, 0] ++ le32 srcIp ++ le32 dstIp

/-- The UDP datagram before its checksum is stored. -/
def plainUdp (udpLen : UInt16) (bootp : Bytes) : Bytes :=
  be16 dhcpClientPort ++ be16 dhcpServerPort ++ be16 udpLen ++ [0, 0] ++ bootp

/-- The datagram before the two checksums are stored. -/
def plainDatagram (ipLen udpLen : UInt16) (srcIp dstIp : UInt32) (bootp : Bytes) : Bytes :=
  plainHeader ipLen srcIp dstIp ++ plainUdp udpLen bootp

/-- The datagram that is sent. -/
def datagram (srcIp dstIp : UInt32) (bootp : Bytes) : Bytes :=
  ipHeader (20 + (8 + bootp.length)) srcIp dstIp ++ udpDatagram srcIp dstIp bootp

section Datagram

variable (ipLen udpLen : UInt16) (srcIp dstIp : UInt32) (bootp : Bytes)

theorem plainHeader_length : (plainHeader ipLen srcIp dstIp).length = 20 :=
  rfl

theorem plainUdp_length : (plainUdp udpLen bootp).length = 8 + bootp.length := by
  rw [plainUdp, List.length_append]
  rfl

theorem plainDatagram_length :
    (plainDatagram ipLen udpLen srcIp dstIp bootp).length = 28 + bootp.length := by
  rw [plainDatagram, List.length_append, plainHeader_length, plainUdp_length]
  omega

theorem plainDatagram_first : byteAt (plainDatagram ipLen udpLen srcIp dstIp bootp) 0 = 0x45 :=
  rfl

theorem headerLen_plain : headerLen (plainDatagram ipLen udpLen srcIp dstIp bootp) = 20 := by
  rw [headerLen, plainDatagram_first]
  decide

theorem plainDatagram_accepted : Accepted (plainDatagram ipLen udpLen srcIp dstIp bootp) := by
  have length := headerLen_plain ipLen udpLen srcIp dstIp bootp
  constructor
  · rw [plainDatagram_first]
    decide
  · rw [length]
  · rw [length, plainDatagram_length]
    omega

theorem plainDatagram_field :
    l4Field (plainDatagram ipLen udpLen srcIp dstIp bootp) = some 26 := by
  have proto : byteAt (plainDatagram ipLen udpLen srcIp dstIp bootp) 9 = 17 := rfl
  have high : byteAt (plainDatagram ipLen udpLen srcIp dstIp bootp) 6 = 0 := rfl
  have low : byteAt (plainDatagram ipLen udpLen srcIp dstIp bootp) (6 + 1) = 0 := rfl
  have whole : isFrag (plainDatagram ipLen udpLen srcIp dstIp bootp) = false := by
    rw [isFrag, rd16be, high, low]
    decide
  have long : 8 ≤ 28 + bootp.length - 20 := by omega
  rw [l4Field, proto, whole, plainDatagram_length, headerLen_plain, csumOff,
    if_pos ⟨rfl, by omega⟩, if_neg (fun tcp => absurd tcp.1 (by decide)), if_pos ⟨rfl, long⟩]
  rfl

theorem plainDatagram_drop :
    (plainDatagram ipLen udpLen srcIp dstIp bootp).drop 20 = plainUdp udpLen bootp :=
  List.drop_left' (plainHeader_length ipLen srcIp dstIp)

theorem plainDatagram_take :
    (plainDatagram ipLen udpLen srcIp dstIp bootp).take 20 = plainHeader ipLen srcIp dstIp :=
  List.take_left' (plainHeader_length ipLen srcIp dstIp)

theorem plainDatagram_missing_header :
    Missing (plainDatagram ipLen udpLen srcIp dstIp bootp) 10 :=
  missing_iff.mpr ⟨rfl, rfl⟩

theorem plainDatagram_missing_udp :
    Missing (plainDatagram ipLen udpLen srcIp dstIp bootp) 26 :=
  missing_iff.mpr ⟨rfl, rfl⟩

/-- The words of the two addresses. -/
theorem wordSum_addresses :
    wordSum (le32 srcIp ++ le32 dstIp) =
      (rd16be (plainDatagram ipLen udpLen srcIp dstIp bootp) 12).toNat +
        (rd16be (plainDatagram ipLen udpLen srcIp dstIp bootp) 14).toNat +
        (rd16be (plainDatagram ipLen udpLen srcIp dstIp bootp) 16).toNat +
        (rd16be (plainDatagram ipLen udpLen srcIp dstIp bootp) 18).toNat := by
  rw [rd16be_toNat, rd16be_toNat, rd16be_toNat, rd16be_toNat]
  change srcIp.toUInt8.toNat * 2 ^ 8 + (srcIp >>> 8).toUInt8.toNat +
    ((srcIp >>> 16).toUInt8.toNat * 2 ^ 8 + (srcIp >>> 24).toUInt8.toNat +
      (dstIp.toUInt8.toNat * 2 ^ 8 + (dstIp >>> 8).toUInt8.toNat +
        ((dstIp >>> 16).toUInt8.toNat * 2 ^ 8 + (dstIp >>> 24).toUInt8.toNat + 0))) =
    srcIp.toUInt8.toNat * 2 ^ 8 + (srcIp >>> 8).toUInt8.toNat +
      ((srcIp >>> 16).toUInt8.toNat * 2 ^ 8 + (srcIp >>> 24).toUInt8.toNat) +
      (dstIp.toUInt8.toNat * 2 ^ 8 + (dstIp >>> 8).toUInt8.toNat) +
      ((dstIp >>> 16).toUInt8.toNat * 2 ^ 8 + (dstIp >>> 24).toUInt8.toNat)
  omega

/-- The pseudo-header of the builder adds up to the one of the checksum function. -/
theorem wordSum_pseudo (length : udpLen.toNat = 8 + bootp.length) :
    wordSum (le32 srcIp ++ le32 dstIp ++ [0, 17] ++ be16 udpLen ++ plainUdp udpLen bootp) =
      l4Sum (plainDatagram ipLen udpLen srcIp dstIp bootp) 20 := by
  have proto : byteAt (plainDatagram ipLen udpLen srcIp dstIp bootp) 9 = 17 := rfl
  have addresses := wordSum_addresses ipLen udpLen srcIp dstIp bootp
  have protocol : wordSum [0, 17] = 17 := by decide
  have front : (le32 srcIp ++ le32 dstIp ++ [0, 17] ++ be16 udpLen).length = 12 := rfl
  have middle : (le32 srcIp ++ le32 dstIp ++ [0, 17]).length = 10 := rfl
  have first : (le32 srcIp ++ le32 dstIp).length = 8 := rfl
  have size : 28 + bootp.length - 20 = udpLen.toNat := by omega
  rw [wordSum_append (by rw [front]), wordSum_append (by rw [middle]),
    wordSum_append (by rw [first]), wordSum_be16, protocol, l4Sum, plainDatagram_drop, pseudoSum,
    proto, if_pos (.inr rfl), plainDatagram_length, size, addresses]
  rfl

/-- The header that is sent is the plain one with its checksum stored. -/
theorem ipHeader_stores (length : Nat) :
    ipHeader length srcIp dstIp =
      overwrite (plainHeader (UInt16.ofNat length) srcIp dstIp) 10
        (be16 (atIpChecksum (plainHeader (UInt16.ofNat length) srcIp dstIp))) :=
  rfl

/-- So is the UDP datagram, when it fits the builder's buffer. -/
theorem udpDatagram_stores (fits : 8 + bootp.length ≤ 1024) :
    udpDatagram srcIp dstIp bootp =
      overwrite (plainUdp (UInt16.ofNat (8 + bootp.length)) bootp) 6
        (be16 (l4Checksum (plainDatagram ipLen (UInt16.ofNat (8 + bootp.length)) srcIp dstIp bootp)
          20)) := by
  have length : (UInt16.ofNat (8 + bootp.length)).toNat = 8 + bootp.length := by
    rw [UInt16.toNat_ofNat']
    exact Nat.mod_eq_of_lt (by omega)
  have proto : byteAt (plainDatagram ipLen (UInt16.ofNat (8 + bootp.length)) srcIp dstIp bootp) 9 =
      17 := rfl
  have sum := wordSum_pseudo ipLen _ srcIp dstIp bootp length
  have checksum : l4Checksum
      (plainDatagram ipLen (UInt16.ofNat (8 + bootp.length)) srcIp dstIp bootp) 20 =
        if atIpChecksum (le32 srcIp ++ le32 dstIp ++ [0, 17] ++
            be16 (UInt16.ofNat (8 + bootp.length)) ++
            plainUdp (UInt16.ofNat (8 + bootp.length)) bootp) = 0 then 0xffff
        else atIpChecksum (le32 srcIp ++ le32 dstIp ++ [0, 17] ++
          be16 (UInt16.ofNat (8 + bootp.length)) ++
          plainUdp (UInt16.ofNat (8 + bootp.length)) bootp) := by
    rw [l4Checksum, proto, atIpChecksum, sum]
    simp only [true_and]
  rw [checksum]
  exact if_pos fits

/-- The datagram that is sent is the plain one with both checksums filled in. -/
theorem datagram_eq (fits : 8 + bootp.length ≤ 1024) :
    datagram srcIp dstIp bootp =
      fixedPacket (plainDatagram (UInt16.ofNat (20 + (8 + bootp.length)))
        (UInt16.ofNat (8 + bootp.length)) srcIp dstIp bootp) := by
  generalize header : UInt16.ofNat (20 + (8 + bootp.length)) = ipLen
  have accepted := plainDatagram_accepted ipLen (UInt16.ofNat (8 + bootp.length)) srcIp dstIp bootp
  have udp := udpDatagram_stores ipLen srcIp dstIp bootp fits
  have missing := plainDatagram_missing_header ipLen (UInt16.ofNat (8 + bootp.length)) srcIp dstIp
    bootp
  have udp_missing := plainDatagram_missing_udp ipLen (UInt16.ofNat (8 + bootp.length)) srcIp dstIp
    bootp
  have stored : (overwrite (plainHeader ipLen srcIp dstIp) 10
      (be16 (atIpChecksum (plainHeader ipLen srcIp dstIp)))).length = 20 :=
    overwrite_length (by rw [be16_length, plainHeader_length]; decide)
  rw [fixedPacket_some accepted (plainDatagram_field ipLen _ srcIp dstIp bootp),
    fill_missing ((missing_fixHeader accepted (by decide)).mpr udp_missing), fixHeader,
    fill_missing missing, headerLen_plain, plainDatagram_take, datagram, ipHeader_stores, header,
    udp]
  generalize l4Checksum _ 20 = checksum
  rw [plainDatagram, overwrite_append_left _ (by rw [be16_length, plainHeader_length]; decide)]
  have behind := overwrite_append_right (overwrite (plainHeader ipLen srcIp dstIp) 10
    (be16 (atIpChecksum (plainHeader ipLen srcIp dstIp))))
    (plainUdp (UInt16.ofNat (8 + bootp.length)) bootp) (be16 checksum) 6
  rw [stored] at behind
  exact behind.symm

/-- Clearing both fields gives back the plain datagram. -/
theorem datagram_cleared (fits : 8 + bootp.length ≤ 1024) :
    overwrite (overwrite (datagram srcIp dstIp bootp) 10 [0, 0]) 26 [0, 0] =
      plainDatagram (UInt16.ofNat (20 + (8 + bootp.length)))
        (UInt16.ofNat (8 + bootp.length)) srcIp dstIp bootp := by
  have udp := udpDatagram_stores (UInt16.ofNat (20 + (8 + bootp.length))) srcIp dstIp bootp fits
  rw [datagram, udp, ipHeader_stores]
  generalize UInt16.ofNat (20 + (8 + bootp.length)) = ipLen
  generalize UInt16.ofNat (8 + bootp.length) = udpLen
  generalize atIpChecksum _ = first
  generalize l4Checksum _ 20 = second
  have header_length := plainHeader_length ipLen srcIp dstIp
  have header_fits : 10 + (be16 first).length ≤ (plainHeader ipLen srcIp dstIp).length := by
    rw [be16_length, header_length]
    decide
  have udp_fits : 6 + (be16 second).length ≤ (plainUdp udpLen bootp).length := by
    rw [be16_length, plainUdp_length]
    omega
  have word (value : UInt16) : (be16 value).length = ([0, 0] : Bytes).length := rfl
  have header_cleared : overwrite (overwrite (plainHeader ipLen srcIp dstIp) 10 (be16 first)) 10
      [0, 0] = plainHeader ipLen srcIp dstIp := by
    rw [overwrite_overwrite (word first) header_fits]
    exact overwrite_self header_fits
  have udp_cleared : overwrite (overwrite (plainUdp udpLen bootp) 6 (be16 second)) 6 [0, 0] =
      plainUdp udpLen bootp := by
    rw [overwrite_overwrite (word second) udp_fits]
    exact overwrite_self udp_fits
  have stored : (overwrite (plainHeader ipLen srcIp dstIp) 10 (be16 first)).length = 20 :=
    overwrite_length header_fits
  have behind := overwrite_append_right (plainHeader ipLen srcIp dstIp)
    (overwrite (plainUdp udpLen bootp) 6 (be16 second)) [0, 0] 6
  rw [overwrite_append_left _ (by rw [stored]; decide), header_cleared]
  rw [header_length, udp_cleared] at behind
  exact behind

end Datagram

/-- The plain datagram is a whole one. -/
theorem plainDatagram_whole {srcIp dstIp : UInt32} {bootp : Bytes}
    (fits : 8 + bootp.length ≤ 1024) :
    WholeDatagram (plainDatagram (UInt16.ofNat (20 + (8 + bootp.length)))
      (UInt16.ofNat (8 + bootp.length)) srcIp dstIp bootp) := by
  have length : (UInt16.ofNat (20 + (8 + bootp.length))).toNat = 28 + bootp.length := by
    rw [UInt16.toNat_ofNat', Nat.mod_eq_of_lt (by omega)]
    omega
  revert length
  generalize UInt16.ofNat (20 + (8 + bootp.length)) = ipLen
  generalize UInt16.ofNat (8 + bootp.length) = udpLen
  intro length
  have accepted := plainDatagram_accepted ipLen udpLen srcIp dstIp bootp
  have high : byteAt (plainDatagram ipLen udpLen srcIp dstIp bootp) 6 = 0 := rfl
  have low : byteAt (plainDatagram ipLen udpLen srcIp dstIp bootp) (6 + 1) = 0 := rfl
  have total : rd16be (plainDatagram ipLen udpLen srcIp dstIp bootp) 2 = ipLen :=
    rd16be_be16 ipLen []
  constructor
  · rw [plainDatagram_length]
    omega
  · exact accepted.version
  · exact accepted.header
  · exact accepted.whole
  · rw [rd16be, high, low]
    decide
  · rw [rd16be, high, low]
    decide
  · rw [total, length, plainDatagram_length]

/-! ## The options -/

/-- The options of a request of a client in its state. -/
def requestItems (d : AtDhcp) : List Item :=
  [⟨optType, [if d.state = .init ∨ d.state = .selecting then dhcpDiscover else dhcpRequest]⟩,
    ⟨optParamReq, [0x01, 0x03, 0x06, 0x1c, 0x33, 0x3a, 0x3b]⟩] ++
  if d.state = .requesting then
    ⟨optReqIp, le32 d.yiaddr⟩ ::
      if d.server ≠ 0 then [⟨optServer, le32 d.server⟩] else []
  else []

/-- The options area of a message that is sent. -/
theorem bootpOptions_items {d : AtDhcp} (unbound : d.state ≠ .bound)
    (named : d.state = .requesting → d.yiaddr ≠ 0) :
    bootpOptions d (wantedType d) 308 = (requestItems d).flatMap Item.encode ++ [optEnd] := by
  cases state : d.state with
  | init =>
      rw [bootpOptions_plain (.inl (by simp [wantedType, state, dhcpDiscover, dhcpRequest]))]
      simp [requestItems, wantedType, state, plainOptions, Item.encode, optType, optParamReq,
        optEnd]
  | selecting =>
      rw [bootpOptions_plain (.inl (by simp [wantedType, state, dhcpDiscover, dhcpRequest]))]
      simp [requestItems, wantedType, state, plainOptions, Item.encode, optType, optParamReq,
        optEnd]
  | requesting =>
      have address := named state
      by_cases server : d.server = 0
      · simp [bootpOptions, appendOpt, requestItems, wantedType, state, address, server,
          Item.encode, optType, optParamReq, optReqIp, optEnd, le32]
      · simp [bootpOptions, appendOpt, requestItems, wantedType, state, address, server,
          Item.encode, optType, optParamReq, optReqIp, optServer, optEnd, le32]
  | bound => exact absurd state unbound
  | renewing =>
      rw [bootpOptions_plain (.inr (.inl state))]
      simp [requestItems, wantedType, state, plainOptions, Item.encode, optType, optParamReq,
        optEnd]
  | rebinding =>
      rw [bootpOptions_plain (.inr (.inr state))]
      simp [requestItems, wantedType, state, plainOptions, Item.encode, optType, optParamReq,
        optEnd]

theorem requestItems_writable (d : AtDhcp) :
    ∀ item ∈ requestItems d, item.Writable optPad optEnd := by
  have word (t : UInt8) (tag : t ≠ optPad ∧ t ≠ optEnd) (value : UInt32) :
      Item.Writable optPad optEnd ⟨t, le32 value⟩ :=
    ⟨tag.1, tag.2, by rw [le32_length]; decide⟩
  intro item member
  rw [requestItems, List.mem_append] at member
  rcases member with first | asked
  · rcases List.mem_cons.mp first with rfl | rest
    · exact ⟨(by decide : optType ≠ optPad), (by decide : optType ≠ optEnd), by simp⟩
    · rw [List.mem_singleton.mp rest]
      exact ⟨by decide, by decide, by decide⟩
  · split_ifs at asked with requesting server
    · rcases List.mem_cons.mp asked with rfl | rest
      · exact word _ (by decide) d.yiaddr
      · rw [List.mem_singleton.mp rest]
        exact word _ (by decide) d.server
    · rw [List.mem_singleton.mp asked]
      exact word _ (by decide) d.yiaddr
    · exact absurd asked List.not_mem_nil

theorem requestItems_length (d : AtDhcp) :
    ((requestItems d).flatMap Item.encode ++ [optEnd]).length ≤ 60 := by
  rw [requestItems]
  split_ifs <;> simp [Item.encode, le32]

/-! ## The frame -/

/-- The Ethernet header. -/
def frameHead (mac : Vector UInt8 6) : Bytes :=
  List.replicate 6 0xff ++ mac.toList ++ [0x08, 0x00]

theorem frameHead_length (mac : Vector UInt8 6) : (frameHead mac).length = 14 := by
  simp [frameHead, mac.length_toList]

/-- The message of a client, of 300 bytes. -/
def message (d : AtDhcp) : Bytes :=
  bootpHead d.xid ++ ([bootpFlag d, 0] ++ (le32 (bootpClient d) ++ (bootpBody d.mac ++
    ((requestItems d).flatMap Item.encode ++ [optEnd] ++
      zeros (60 - ((requestItems d).flatMap Item.encode ++ [optEnd]).length)))))

section Frame

variable {d : AtDhcp} (unbound : d.state ≠ .bound) (named : d.state = .requesting → d.yiaddr ≠ 0)

include unbound named

theorem buildBootp_message : buildBootp d (wantedType d) 548 = message d := by
  have options := bootpOptions_items unbound named
  rw [buildBootp_eq (by rw [options]; exact requestItems_length d), options]
  rfl

theorem message_length : (message d).length = 300 := by
  have options := bootpOptions_items unbound named
  rw [← buildBootp_message unbound named]
  exact buildBootp_length (by rw [options]; exact requestItems_length d)

/-- The frame of a client, empty where the buffer is too short. -/
theorem wantedFrame_eq (cap : Nat) :
    wantedFrame d cap =
      if cap < 342 then []
      else frameHead d.mac ++ datagram (wantedSource d) (wantedDestination d) (message d) := by
  have length := message_length unbound named
  rw [wantedFrame, buildBootp_message unbound named, length, if_neg (by decide),
    encapsulateUdpIpEth, length]
  by_cases short : cap < 342
  · rw [if_pos short, if_pos short]
  · rw [if_neg short, if_neg short, datagram, length]
    simp only [frameHead, List.append_assoc]

end Frame

/-- A frame that a client sends in its state. -/
structure WellFormedFrame (d : AtDhcp) (eth : Bytes) : Prop where
  length : eth.length = 342
  ethertype : rd16be eth 12 = 0x0800
  version : byteAt (eth.drop 14) 0 = 0x45
  total : (rd16be (eth.drop 14) 2).toNat = eth.length - 14
  header : foldCarries (wordSum ((eth.drop 14).take 20)) = 0xffff
  protocol : byteAt (eth.drop 14) 9 = 17
  ports : rd16be (eth.drop 14) 20 = dhcpClientPort ∧ rd16be (eth.drop 14) 22 = dhcpServerPort
  udpLength : (rd16be (eth.drop 14) 24).toNat = eth.length - 34
  udpChecksum : rd16be (eth.drop 14) 26 ≠ 0
  udp : foldCarries (l4Sum (eth.drop 14) 20) = 0xffff
  xid : rd32le (eth.drop 42) 4 = d.xid
  mac : slice (eth.drop 42) 28 6 = d.mac.toList
  cookie : slice (eth.drop 42) 236 4 = dhcpCookie
  options : ∃ area rest, eth.drop 282 = area ++ optEnd :: rest ∧
    Complete optPad optEnd area (requestItems d)
  decoded : decode optPad optEnd (eth.drop 282) 0 = requestItems d
  refilled : atIp4FixChecksums (overwrite (overwrite (eth.drop 14) 10 [0, 0]) 26 [0, 0]) =
    (eth.drop 14, 0)

theorem frameHead_ethertype (mac : Vector UInt8 6) (back : Bytes) :
    rd16be (frameHead mac ++ back) 12 = 0x0800 := by
  have split : frameHead mac ++ back =
      (List.replicate 6 0xff ++ mac.toList) ++ ([0x08, 0x00] ++ back) := by
    simp only [frameHead, List.append_assoc]
  have length : (List.replicate 6 0xff ++ mac.toList : Bytes).length = 12 := by
    simp [mac.length_toList]
  have high := byteAt_length_add (List.replicate 6 0xff ++ mac.toList) ([0x08, 0x00] ++ back) 0
  have low := byteAt_length_add (List.replicate 6 0xff ++ mac.toList) ([0x08, 0x00] ++ back) 1
  rw [length, ← split] at high low
  have first : byteAt ([0x08, 0x00] ++ back) 0 = 0x08 := rfl
  have second : byteAt ([0x08, 0x00] ++ back) 1 = 0x00 := rfl
  rw [rd16be, high, low, first, second]
  decide

/-! ### The fields of the message -/

/-- The message in front of the hardware address. -/
def messageHead (d : AtDhcp) : Bytes :=
  bootpHead d.xid ++ [bootpFlag d, 0] ++ le32 (bootpClient d) ++ zeros 12

theorem messageHead_length (d : AtDhcp) : (messageHead d).length = 28 :=
  rfl

theorem message_split (d : AtDhcp) :
    message d = messageHead d ++ (d.mac.toList ++ (zeros 202 ++ (dhcpCookie ++
      ((requestItems d).flatMap Item.encode ++ (optEnd ::
        zeros (60 - ((requestItems d).flatMap Item.encode ++ [optEnd]).length)))))) := by
  simp only [message, messageHead, bootpBody, List.append_assoc, List.cons_append,
    List.nil_append]

theorem message_xid (d : AtDhcp) : rd32le (message d) 4 = d.xid := by
  have split : message d = [1, 1, 6, 0] ++ (le32 d.xid ++ (message d).drop 8) := by
    rw [message, bootpHead]
    rfl
  rw [split]
  exact rd32le_append_le32 d.xid _ rfl

theorem message_mac (d : AtDhcp) : slice (message d) 28 6 = d.mac.toList := by
  have read := slice_length_add (messageHead d) (d.mac.toList ++ (zeros 202 ++ (dhcpCookie ++
    ((requestItems d).flatMap Item.encode ++ (optEnd ::
      zeros (60 - ((requestItems d).flatMap Item.encode ++ [optEnd]).length)))))) 0 6
  have first := slice_append_exact d.mac.toList (zeros 202 ++ (dhcpCookie ++
    ((requestItems d).flatMap Item.encode ++ (optEnd ::
      zeros (60 - ((requestItems d).flatMap Item.encode ++ [optEnd]).length)))))
  rw [d.mac.length_toList] at first
  rw [message_split, ← messageHead_length d]
  exact read.trans first

theorem message_cookie (d : AtDhcp) : slice (message d) 236 4 = dhcpCookie := by
  have length : (messageHead d ++ d.mac.toList ++ zeros 202).length = 236 := by
    rw [List.length_append, List.length_append, messageHead_length, d.mac.length_toList,
      zeros_length]
  have read := slice_length_add (messageHead d ++ d.mac.toList ++ zeros 202) (dhcpCookie ++
    ((requestItems d).flatMap Item.encode ++ (optEnd ::
      zeros (60 - ((requestItems d).flatMap Item.encode ++ [optEnd]).length)))) 0 4
  rw [length] at read
  simp only [List.append_assoc] at read
  rw [message_split]
  exact read

theorem message_options (d : AtDhcp) :
    (message d).drop 240 = (requestItems d).flatMap Item.encode ++ optEnd ::
      zeros (60 - ((requestItems d).flatMap Item.encode ++ [optEnd]).length) := by
  rw [message_split]
  simp only [← List.append_assoc]
  rw [List.append_assoc _ _ (optEnd :: _)]
  apply List.drop_left'
  simp only [List.length_append, messageHead_length, d.mac.length_toList, zeros_length]
  rfl

/-! ### The datagram of a message -/

theorem udpDatagram_length {srcIp dstIp : UInt32} {bootp : Bytes} :
    (udpDatagram srcIp dstIp bootp).length = 8 + bootp.length := by
  obtain ⟨head, length, split⟩ := udpDatagram_eq srcIp dstIp bootp
  rw [split, List.length_append, length]

/-- The message stands behind the two headers. -/
theorem datagram_drop (srcIp dstIp : UInt32) (bootp : Bytes) :
    (datagram srcIp dstIp bootp).drop 28 = bootp := by
  obtain ⟨head, length, split⟩ := udpDatagram_eq srcIp dstIp bootp
  rw [datagram, split, ← List.append_assoc]
  apply List.drop_left'
  rw [List.length_append, length]
  rfl

/-- A byte outside of the checksums. -/
theorem byteAt_datagram {srcIp dstIp : UInt32} {bootp : Bytes} (fits : 8 + bootp.length ≤ 1024)
    {i : Nat} (outside : i ≠ 10 ∧ i ≠ 11 ∧ i ≠ 26 ∧ i ≠ 27) :
    byteAt (datagram srcIp dstIp bootp) i =
      byteAt (plainDatagram (UInt16.ofNat (20 + (8 + bootp.length)))
        (UInt16.ofNat (8 + bootp.length)) srcIp dstIp bootp) i := by
  rw [datagram_eq srcIp dstIp bootp fits]
  apply byteAt_fixedPacket (plainDatagram_accepted _ _ srcIp dstIp bootp) outside.1 outside.2.1
  intro off found
  rw [plainDatagram_field] at found
  cases found
  exact ⟨outside.2.2.1, outside.2.2.2⟩

/-- A word outside of the checksums. -/
theorem rd16be_datagram {srcIp dstIp : UInt32} {bootp : Bytes} (fits : 8 + bootp.length ≤ 1024)
    {i : Nat} (first : i ≠ 10 ∧ i ≠ 11 ∧ i ≠ 26 ∧ i ≠ 27)
    (second : i + 1 ≠ 10 ∧ i + 1 ≠ 11 ∧ i + 1 ≠ 26 ∧ i + 1 ≠ 27) :
    rd16be (datagram srcIp dstIp bootp) i =
      rd16be (plainDatagram (UInt16.ofNat (20 + (8 + bootp.length)))
        (UInt16.ofNat (8 + bootp.length)) srcIp dstIp bootp) i := by
  rw [rd16be, rd16be, byteAt_datagram fits first, byteAt_datagram fits second]

/-- The datagram of a message of 300 bytes. -/
theorem wellFormedFrame (d : AtDhcp) (srcIp dstIp : UInt32) (sized : (message d).length = 300) :
    WellFormedFrame d (frameHead d.mac ++ datagram srcIp dstIp (message d)) := by
  have fits : 8 + (message d).length ≤ 1024 := by omega
  have payload : (frameHead d.mac ++ datagram srcIp dstIp (message d)).drop 14 =
      datagram srcIp dstIp (message d) := List.drop_left' (frameHead_length d.mac)
  have behind : (frameHead d.mac ++ datagram srcIp dstIp (message d)).drop 42 = message d := by
    have twice : ((frameHead d.mac ++ datagram srcIp dstIp (message d)).drop 14).drop 28 =
        message d := by
      rw [payload, datagram_drop]
    rw [List.drop_drop] at twice
    exact twice
  have area : (frameHead d.mac ++ datagram srcIp dstIp (message d)).drop 282 =
      (requestItems d).flatMap Item.encode ++ optEnd ::
        zeros (60 - ((requestItems d).flatMap Item.encode ++ [optEnd]).length) := by
    have deeper := message_options d
    rw [← behind, List.drop_drop] at deeper
    exact deeper
  have datagram_length : (datagram srcIp dstIp (message d)).length = 328 := by
    rw [datagram, List.length_append, udpDatagram_length, sized]
    rfl
  have length : (frameHead d.mac ++ datagram srcIp dstIp (message d)).length = 342 := by
    rw [List.length_append, frameHead_length, datagram_length]
  have whole := @plainDatagram_whole srcIp dstIp (message d) fits
  have fixed := fixedPacket_fixed whole
  have field : checksumField (plainDatagram (UInt16.ofNat (20 + (8 + (message d).length)))
      (UInt16.ofNat (8 + (message d).length)) srcIp dstIp (message d)) = some 26 := by
    rw [checksumField_of_offset whole.offset, plainDatagram_field]
  rw [← datagram_eq srcIp dstIp (message d) fits] at fixed
  constructor
  · exact length
  · exact frameHead_ethertype d.mac _
  · rw [payload, byteAt_datagram fits (by decide), plainDatagram_first]
  · rw [payload, rd16be_datagram fits (by decide) (by decide), whole.total, length,
      plainDatagram_length, sized]
  · have header := fixed.header (missing_iff_rd16be.mp (plainDatagram_missing_header _ _ _ _ _))
    rw [headerLen_plain] at header
    rw [payload]
    exact header
  · rw [payload, byteAt_datagram fits (by decide)]
    rfl
  · rw [payload, rd16be_datagram fits (by decide) (by decide),
      rd16be_datagram fits (by decide) (by decide)]
    exact ⟨rd16be_be16 dhcpClientPort [], rd16be_be16 dhcpServerPort []⟩
  · have read : rd16be (plainDatagram (UInt16.ofNat (20 + (8 + (message d).length)))
        (UInt16.ofNat (8 + (message d).length)) srcIp dstIp (message d)) 24 =
          UInt16.ofNat (8 + (message d).length) := rd16be_be16 _ []
    rw [payload, rd16be_datagram fits (by decide) (by decide), read, length, sized]
    rfl
  · rw [payload]
    exact fixed.udp 26 field rfl
  · have udp := fixed.l4 26 field (missing_iff_rd16be.mp (plainDatagram_missing_udp _ _ _ _ _))
    rw [headerLen_plain] at udp
    rw [payload]
    exact udp
  · rw [behind]
    exact message_xid d
  · rw [behind]
    exact message_mac d
  · rw [behind]
    exact message_cookie d
  · exact ⟨_, _, area, complete_flatMap (requestItems_writable d)⟩
  · have different : optEnd ≠ optPad := by decide
    rw [area, (complete_flatMap (requestItems_writable d)).decode_append different,
      decode_of_stop different rfl, List.append_nil]
  · rw [payload, datagram_cleared srcIp dstIp (message d) fits,
      atIp4FixChecksums_accepted whole.accepted, datagram_eq srcIp dstIp (message d) fits]
    rfl

/-! ## Runs -/

/-- A client that requests an address has one. -/
def RequestingNamed (d : AtDhcp) : Prop :=
  d.state = .requesting → d.yiaddr ≠ 0

theorem RequestingNamed.of_other {d : AtDhcp} (other : d.state ≠ .requesting) :
    RequestingNamed d :=
  fun requesting => absurd requesting other

theorem RequestingNamed.advance {d : AtDhcp} (named : RequestingNamed d) (now : Nat) :
    RequestingNamed (advanceRenewState d now) := by
  rcases advanceRenewState_cases d now with same | ⟨-, reset⟩ | ⟨-, state, kind, moved⟩
  · rw [same]
    exact named
  · rw [reset]
    exact .of_other nofun
  · rw [moved]
    rcases kind with rfl | rfl
    · exact .of_other nofun
    · exact .of_other nofun

theorem RequestingNamed.call {d : AtDhcp} (named : RequestingNamed d) (p : Poll) :
    RequestingNamed (p.call d).1 := by
  have advanced := named.advance p.now
  rcases transmit_spec (advanceRenewState d p.now) p.cap p.now p.sent with
    silent | ⟨-, sends⟩
  · rw [Poll.call, atDhcpWantTx, silent]
    exact advanced
  · rw [Poll.call, atDhcpWantTx, sends]
    by_cases init : (advanceRenewState d p.now).state = .init
    · rw [if_pos init]
      exact .of_other (by rintro ⟨⟩)
    · rw [if_neg init]
      exact advanced

theorem RequestingNamed.frame {d : AtDhcp} (named : RequestingNamed d) (eth : Bytes) (now : Nat) :
    RequestingNamed (atDhcpOnFrame d eth now).1 := by
  have outcome := atDhcpOnFrame_outcome d eth now
  generalize (atDhcpOnFrame d eth now).1 = d' at outcome ⊢
  cases outcome with
  | noReply found => exact named
  | offered r found offer address free =>
      rw [onOffer]
      split_ifs
      · exact named
      · exact fun _ => address
  | acked r found ack address =>
      rw [onAck_eq]
      exact .of_other (by rintro ⟨⟩)
  | naked r found nak => exact .of_other (by rintro ⟨⟩)
  | ignored r found notAck notNak => exact named

theorem requesting_named {d : AtDhcp} (reachable : Reachable d) : RequestingNamed d := by
  rcases reachable with ⟨mac, xid, events, ran⟩
  have start : RequestingNamed (atDhcpCreate mac xid) := .of_other nofun
  apply run_invariant _ start ran
  intro d ev next named stepped
  cases ev with
  | poll p =>
      cases stepped
      exact named.call p
  | frame eth now =>
      cases stepped
      exact named.frame eth now

/-- **Well-formed frames.**  Each frame that a client sends is well formed; a buffer that
is too short for it leaves the client as the timer check does, and nothing is sent. -/
theorem sent_frames_wellFormed :
    ∀ d, Reachable d → ∀ p : Poll,
      ((p.call d).2 ≠ [] → WellFormedFrame (advanceRenewState d p.now) (p.call d).2) ∧
        (p.cap < 342 → p.call d = (advanceRenewState d p.now, [])) := by
  intro d reachable p
  have named := (requesting_named reachable).advance p.now
  rw [Poll.call, atDhcpWantTx]
  generalize advanceRenewState d p.now = e at named ⊢
  rcases transmit_spec e p.cap p.now p.sent with silent | ⟨⟨unbound, -, -, room⟩, sends⟩
  · rw [silent]
    exact ⟨fun frame => absurd rfl frame, fun _ => rfl⟩
  · have frame := wantedFrame_eq unbound named p.cap
    have long : ¬ p.cap < 342 := by
      intro short
      rw [if_pos short] at frame
      exact room frame
    rw [sends]
    constructor
    · intro _
      rw [frame, if_neg long]
      exact wellFormedFrame e _ _ (message_length unbound named)
    · exact fun short => absurd short long

/-- A new client sends its first DISCOVER. -/
theorem sent_frames_wellFormed_discover :
    WellFormedFrame (atDhcpCreate #v[2, 0, 0, 0, 0, 1] 7)
      (Poll.call (atDhcpCreate #v[2, 0, 0, 0, 0, 1] 7) ⟨1000, ⟨1, 0⟩, 1518⟩).2 :=
  (sent_frames_wellFormed _ ⟨_, 7, [], rfl⟩ ⟨1000, ⟨1, 0⟩, 1518⟩).1 (by decide +kernel)

end WiredTethering.Dhcp
