import WiredTethering.Dhcp.Client
import WiredTethering.Tlv.Options

/-!
# The frames of the DHCP client

What a receiver reads in a frame that `at_dhcp_want_tx` sends.  The BOOTP buffer
is laid out first (`buildBootp_eq`), then the whole frame
(`encapsulateUdpIpEth_eq`); the fields are read from this layout.
-/

namespace WiredTethering.Dhcp

open WiredTethering.Memory
open WiredTethering.Tlv

/-! ## Reading a frame -/

/-- The source address of the IPv4 header. -/
def frameSource (eth : Bytes) : UInt32 := rd32le eth 26

/-- The destination address of the IPv4 header. -/
def frameDestination (eth : Bytes) : UInt32 := rd32le eth 30

/-- The two bytes of the BOOTP flags; 0x80 in the first is the broadcast flag. -/
def frameFlags (eth : Bytes) : UInt8 × UInt8 := (byteAt eth 52, byteAt eth 53)

/-- `ciaddr`. -/
def frameClient (eth : Bytes) : UInt32 := rd32le eth 54

/-- The message type an option holds. -/
def messageTypeOf (item : Item) : Option UInt8 :=
  if item.tag = optType ∧ 1 ≤ item.value.length then some (byteAt item.value 0) else none

/-- The message type of a frame without IPv4 options. -/
def frameMessage (eth : Bytes) : Option UInt8 :=
  lastWrite messageTypeOf (decode optPad optEnd (eth.drop 282) 0)

/-- A REQUEST from and for a client address. -/
structure IsRequest (eth : Bytes) (address receiver : UInt32) (broadcast : Bool) : Prop where
  message : frameMessage eth = some dhcpRequest
  client : frameClient eth = address
  source : frameSource eth = address
  destination : frameDestination eth = receiver
  flags : frameFlags eth = (if broadcast then 0x80 else 0, 0)

/-! ## The layout of the BOOTP message -/

/-- The options of a message without option 50 and 54. -/
def plainOptions (msgType : UInt8) : Bytes :=
  [53, 1, msgType, 55, 7, 0x01, 0x03, 0x06, 0x1c, 0x33, 0x3a, 0x3b, 255]

theorem bootpOptions_plain {d : AtDhcp} {msgType : UInt8}
    (plain : msgType ≠ dhcpRequest ∨ d.state = .renewing ∨ d.state = .rebinding) :
    bootpOptions d msgType 308 = plainOptions msgType := by
  have unasked : ¬ (msgType = dhcpRequest ∧ d.yiaddr ≠ 0 ∧ d.state ≠ .renewing ∧
      d.state ≠ .rebinding) := by
    rintro ⟨request, _, not_renewing, not_rebinding⟩
    rcases plain with other | renewing | rebinding
    · exact other request
    · exact not_renewing renewing
    · exact not_rebinding rebinding
  simp [bootpOptions, appendOpt, unasked, optType, optParamReq, optEnd, plainOptions]

/-- `ciaddr` of a message. -/
def bootpClient (d : AtDhcp) : UInt32 :=
  if d.state = .renewing ∨ d.state = .rebinding then d.yiaddr else 0

/-- The high byte of the flags of a message. -/
def bootpFlag (d : AtDhcp) : UInt8 :=
  if d.state ≠ .renewing then 0x80 else 0

/-- The message up to the flags. -/
def bootpHead (xid : UInt32) : Bytes :=
  [1, 1, 6, 0] ++ le32 xid ++ zeros 2

/-- The message between `ciaddr` and the options. -/
def bootpBody (mac : Vector UInt8 6) : Bytes :=
  zeros 12 ++ mac.toList ++ zeros 202 ++ dhcpCookie

/-- The stores of `build_bootp`, in the order of the source. -/
theorem bootp_stores (d : AtDhcp) (opt rest : Bytes) :
    (let bootp := overwrite (zeros (dhcpFixed + opt.length) ++ rest) 0 [1, 1, 6]
      let bootp := wr32le bootp 4 d.xid
      let bootp :=
        if d.state = .renewing ∨ d.state = .rebinding then wr32le bootp 12 d.yiaddr else bootp
      let bootp := if d.state ≠ .renewing then overwrite bootp 10 [0x80] else bootp
      let bootp := overwrite bootp 28 d.mac.toList
      let bootp := overwrite bootp 236 dhcpCookie
      overwrite bootp dhcpFixed opt) =
      bootpHead d.xid ++ ([bootpFlag d, 0] ++ (le32 (bootpClient d) ++
        (bootpBody d.mac ++ (opt ++ rest)))) := by
  have blank : zeros (dhcpFixed + opt.length) ++ rest =
      zeros 3 ++ (zeros 1 ++ (zeros 4 ++ (zeros 2 ++ (zeros 1 ++ (zeros 1 ++ (zeros 4 ++
        (zeros 12 ++ (zeros 6 ++ (zeros 202 ++ (zeros 4 ++ (zeros opt.length ++ rest))))))))))) := by
    simp only [← List.append_assoc, zeros_append]
    exact congrArg (zeros · ++ rest) (by simp only [dhcpFixed]; omega)
  let tail := zeros 12 ++ (zeros 6 ++ (zeros 202 ++ (zeros 4 ++ (zeros opt.length ++ rest))))
  let start : Bytes := [1, 1, 6] ++ zeros 1 ++ le32 d.xid ++ zeros 2
  let front := start ++ [bootpFlag d] ++ zeros 1 ++ le32 (bootpClient d) ++ zeros 12
  have op := overwrite_field 0 3 [] [1, 1, 6]
    (zeros 1 ++ (zeros 4 ++ (zeros 2 ++ (zeros 1 ++ (zeros 1 ++ (zeros 4 ++ tail)))))) rfl rfl
  have id := overwrite_field 4 4 ([1, 1, 6] ++ zeros 1) (le32 d.xid)
    (zeros 2 ++ (zeros 1 ++ (zeros 1 ++ (zeros 4 ++ tail)))) rfl rfl
  have client : (if d.state = .renewing ∨ d.state = .rebinding then overwrite
      ([1, 1, 6] ++ (zeros 1 ++ (le32 d.xid ++ (zeros 2 ++ (zeros 1 ++ (zeros 1 ++
        (zeros 4 ++ tail))))))) 12 (le32 d.yiaddr)
      else [1, 1, 6] ++ (zeros 1 ++ (le32 d.xid ++ (zeros 2 ++ (zeros 1 ++ (zeros 1 ++
        (zeros 4 ++ tail))))))) =
      [1, 1, 6] ++ (zeros 1 ++ (le32 d.xid ++ (zeros 2 ++ (zeros 1 ++ (zeros 1 ++
        (le32 (bootpClient d) ++ tail)))))) := by
    unfold bootpClient
    split_ifs
    · exact overwrite_field 12 4 (start ++ zeros 1 ++ zeros 1) (le32 d.yiaddr) tail rfl rfl
    · rfl
  have flags : (if d.state ≠ .renewing then overwrite
      ([1, 1, 6] ++ (zeros 1 ++ (le32 d.xid ++ (zeros 2 ++ (zeros 1 ++ (zeros 1 ++
        (le32 (bootpClient d) ++ tail))))))) 10 [0x80]
      else [1, 1, 6] ++ (zeros 1 ++ (le32 d.xid ++ (zeros 2 ++ (zeros 1 ++ (zeros 1 ++
        (le32 (bootpClient d) ++ tail))))))) =
      [1, 1, 6] ++ (zeros 1 ++ (le32 d.xid ++ (zeros 2 ++ ([bootpFlag d] ++ (zeros 1 ++
        (le32 (bootpClient d) ++ tail)))))) := by
    unfold bootpFlag
    split_ifs
    · exact overwrite_field 10 1 start [0x80] (zeros 1 ++ (le32 (bootpClient d) ++ tail)) rfl rfl
    · rfl
  have hardware := overwrite_field 28 6 front d.mac.toList
    (zeros 202 ++ (zeros 4 ++ (zeros opt.length ++ rest))) rfl d.mac.length_toList
  have cookie := overwrite_field 236 4 (front ++ d.mac.toList ++ zeros 202) dhcpCookie
    (zeros opt.length ++ rest) (by simp [front, start, d.mac.length_toList]) rfl
  have options := overwrite_field dhcpFixed opt.length
    (front ++ d.mac.toList ++ zeros 202 ++ dhcpCookie) opt rest
    (by simp [front, start, d.mac.length_toList, dhcpCookie, dhcpFixed]) rfl
  have three : ([1, 1, 6, 0] : Bytes) = [1, 1, 6] ++ zeros 1 := rfl
  have low : ([bootpFlag d, 0] : Bytes) = [bootpFlag d] ++ zeros 1 := rfl
  rw [bootpHead, bootpBody, three, low]
  simp only [tail, front, start, List.append_assoc, List.nil_append]
    at op id client flags hardware cookie options ⊢
  simp only [wr32le]
  rw [blank, op, id, client, flags, hardware, cookie, options]

/-- The message that `build_bootp` leaves in its buffer. -/
theorem buildBootp_eq {d : AtDhcp} {msgType : UInt8}
    (short : (bootpOptions d msgType 308).length ≤ 60) :
    buildBootp d msgType 548 =
      bootpHead d.xid ++ ([bootpFlag d, 0] ++ (le32 (bootpClient d) ++ (bootpBody d.mac ++
        (bootpOptions d msgType 308 ++ zeros (60 - (bootpOptions d msgType 308).length))))) := by
  have area : zeros 548 = zeros (dhcpFixed + (bootpOptions d msgType 308).length) ++
      zeros (308 - (bootpOptions d msgType 308).length) := by
    rw [zeros_append]
    exact congrArg zeros (by simp only [dhcpFixed]; omega)
  have stores := bootp_stores d (bootpOptions d msgType 308)
    (zeros (308 - (bootpOptions d msgType 308).length))
  have length : (if dhcpFixed + (bootpOptions d msgType 308).length < 300 then 300
      else dhcpFixed + (bootpOptions d msgType 308).length) = 300 := by
    refine ite_eq_left_iff.mpr fun long => ?_
    simp only [dhcpFixed] at long ⊢
    omega
  have unused : zeros (308 - (bootpOptions d msgType 308).length) =
      zeros (60 - (bootpOptions d msgType 308).length) ++ zeros 248 := by
    rw [zeros_append]
    exact congrArg zeros (by omega)
  unfold buildBootp
  rw [if_neg (by decide), area, show 548 - dhcpFixed = 308 from rfl]
  dsimp only at stores ⊢
  rw [length, stores, unused]
  simp only [← List.append_assoc]
  apply List.take_left'
  simp only [bootpHead, bootpBody, dhcpCookie, List.length_append, le32_length, zeros_length,
    Vector.length_toList, List.length_cons, List.length_nil]
  omega

theorem buildBootp_length {d : AtDhcp} {msgType : UInt8}
    (short : (bootpOptions d msgType 308).length ≤ 60) :
    (buildBootp d msgType 548).length = 300 := by
  rw [buildBootp_eq short]
  simp only [bootpHead, bootpBody, dhcpCookie, List.length_append, le32_length, zeros_length,
    Vector.length_toList, List.length_cons, List.length_nil]
  omega

/-! ## The layout of the frame -/

theorem ipHeader_eq (ipLen : Nat) (srcIp dstIp : UInt32) :
    ∃ head : Bytes, head.length = 12 ∧
      ipHeader ipLen srcIp dstIp = head ++ (le32 srcIp ++ le32 dstIp) :=
  ⟨_, rfl, rfl⟩

theorem udpDatagram_eq (srcIp dstIp : UInt32) (bootp : Bytes) :
    ∃ head : Bytes, head.length = 8 ∧ udpDatagram srcIp dstIp bootp = head ++ bootp := by
  unfold udpDatagram
  dsimp only
  split_ifs
  · exact ⟨_, rfl, rfl⟩
  · exact ⟨_, rfl, rfl⟩
  · exact ⟨_, rfl, rfl⟩

/-- A frame is 26 bytes, the two addresses, eight bytes and the message. -/
theorem encapsulateUdpIpEth_eq (mac : Vector UInt8 6) (srcIp dstIp : UInt32) (bootp : Bytes)
    (cap : Nat) :
    encapsulateUdpIpEth mac srcIp dstIp bootp cap = [] ∨
      ∃ head udp : Bytes, head.length = 26 ∧ udp.length = 8 ∧
        encapsulateUdpIpEth mac srcIp dstIp bootp cap =
          head ++ (le32 srcIp ++ (le32 dstIp ++ (udp ++ bootp))) := by
  unfold encapsulateUdpIpEth
  dsimp only
  split_ifs with small
  · exact .inl rfl
  · right
    obtain ⟨ip, ip_length, ip_eq⟩ := ipHeader_eq (20 + (8 + bootp.length)) srcIp dstIp
    obtain ⟨udp, udp_length, udp_eq⟩ := udpDatagram_eq srcIp dstIp bootp
    refine ⟨List.replicate 6 0xff ++ mac.toList ++ [0x08, 0x00] ++ ip, udp, ?_, udp_length, ?_⟩
    · simp [mac.length_toList, ip_length]
    · simp only [ip_eq, udp_eq, List.append_assoc]

/-! ## The fields of a frame -/

theorem bootpHead_length (xid : UInt32) : (bootpHead xid).length = 10 :=
  rfl

theorem bootpBody_length (mac : Vector UInt8 6) : (bootpBody mac).length = 224 := by
  simp [bootpBody, mac.length_toList, dhcpCookie]

/-- The fields are read where the layout puts them. -/
theorem read_frame {head udp : Bytes} (srcIp dstIp : UInt32) (d : AtDhcp) (opt : Bytes)
    (head_length : head.length = 26) (udp_length : udp.length = 8) :
    let eth := head ++ (le32 srcIp ++ (le32 dstIp ++ (udp ++ (bootpHead d.xid ++
      ([bootpFlag d, 0] ++ (le32 (bootpClient d) ++ (bootpBody d.mac ++ opt)))))))
    frameSource eth = srcIp ∧ frameDestination eth = dstIp ∧
      frameFlags eth = (bootpFlag d, 0) ∧ frameClient eth = bootpClient d ∧
      eth.drop 282 = opt := by
  intro eth
  have to_flags : eth = (head ++ le32 srcIp ++ le32 dstIp ++ udp ++ bootpHead d.xid) ++
      ([bootpFlag d, 0] ++ (le32 (bootpClient d) ++ (bootpBody d.mac ++ opt))) := by
    simp only [eth, List.append_assoc]
  have flags_at : (head ++ le32 srcIp ++ le32 dstIp ++ udp ++ bootpHead d.xid).length = 52 := by
    simp only [List.length_append, head_length, udp_length, le32_length, bootpHead_length]
  refine ⟨rd32le_append_le32 srcIp _ head_length, ?_, ?_, ?_, ?_⟩
  · have to_destination : eth = (head ++ le32 srcIp) ++ (le32 dstIp ++ (udp ++ (bootpHead d.xid ++
        ([bootpFlag d, 0] ++ (le32 (bootpClient d) ++ (bootpBody d.mac ++ opt)))))) := by
      simp only [eth, List.append_assoc]
    rw [frameDestination, to_destination]
    exact rd32le_append_le32 dstIp _ (by simp [head_length])
  · have high := byteAt_length_add (head ++ le32 srcIp ++ le32 dstIp ++ udp ++ bootpHead d.xid)
      ([bootpFlag d, 0] ++ (le32 (bootpClient d) ++ (bootpBody d.mac ++ opt))) 0
    have low := byteAt_length_add (head ++ le32 srcIp ++ le32 dstIp ++ udp ++ bootpHead d.xid)
      ([bootpFlag d, 0] ++ (le32 (bootpClient d) ++ (bootpBody d.mac ++ opt))) 1
    rw [flags_at] at high low
    rw [frameFlags, to_flags]
    exact Prod.ext high low
  · rw [frameClient, to_flags, ← List.append_assoc]
    exact rd32le_append_le32 _ _ (by rw [List.length_append, flags_at]; rfl)
  · have to_options : eth = (head ++ le32 srcIp ++ le32 dstIp ++ udp ++ bootpHead d.xid ++
        [bootpFlag d, 0] ++ le32 (bootpClient d) ++ bootpBody d.mac) ++ opt := by
      simp only [eth, List.append_assoc]
    rw [to_options]
    apply List.drop_left'
    simp only [List.length_append, flags_at, le32_length, bootpBody_length, List.length_cons,
      List.length_nil]

/-- The frame of a message with plain options, when the buffer has room. -/
theorem encapsulate_reads {d : AtDhcp} {msgType : UInt8} {srcIp dstIp : UInt32} {cap : Nat}
    (plain : bootpOptions d msgType 308 = plainOptions msgType)
    (room : encapsulateUdpIpEth d.mac srcIp dstIp (buildBootp d msgType 548) cap ≠ []) :
    let eth := encapsulateUdpIpEth d.mac srcIp dstIp (buildBootp d msgType 548) cap
    frameSource eth = srcIp ∧ frameDestination eth = dstIp ∧
      frameFlags eth = (bootpFlag d, 0) ∧ frameClient eth = bootpClient d ∧
      frameMessage eth =
        lastWrite messageTypeOf (decode optPad optEnd (plainOptions msgType ++ zeros 47) 0) := by
  intro eth
  have short : (bootpOptions d msgType 308).length ≤ 60 := by
    rw [plain]
    exact Nat.le_of_ble_eq_true rfl
  have layout := buildBootp_eq short
  rw [plain] at layout
  rcases encapsulateUdpIpEth_eq d.mac srcIp dstIp (buildBootp d msgType 548) cap with
    none | ⟨head, udp, head_length, udp_length, framed⟩
  · exact absurd none room
  · have fields := read_frame srcIp dstIp d (plainOptions msgType ++ zeros 47) head_length
      udp_length
    have eth_eq : eth = _ := framed
    rw [layout] at eth_eq
    rw [eth_eq]
    obtain ⟨source, destination, flags, client, options⟩ := fields
    exact ⟨source, destination, flags, client, congrArg
      (fun area => lastWrite messageTypeOf (decode optPad optEnd area 0)) options⟩

theorem plainOptions_message (msgType : UInt8)
    (sent : msgType = dhcpDiscover ∨ msgType = dhcpRequest) :
    lastWrite messageTypeOf (decode optPad optEnd (plainOptions msgType ++ zeros 47) 0) =
      some msgType := by
  rcases sent with rfl | rfl
  · decide +kernel
  · decide +kernel

/-- What a frame with plain options says. -/
theorem wantedFrame_reads {d : AtDhcp} {cap : Nat}
    (plain : wantedType d ≠ dhcpRequest ∨ d.state = .renewing ∨ d.state = .rebinding)
    (room : wantedFrame d cap ≠ []) :
    frameSource (wantedFrame d cap) = wantedSource d ∧
      frameDestination (wantedFrame d cap) = wantedDestination d ∧
      frameFlags (wantedFrame d cap) = (bootpFlag d, 0) ∧
      frameClient (wantedFrame d cap) = bootpClient d ∧
      frameMessage (wantedFrame d cap) = some (wantedType d) := by
  have options := bootpOptions_plain plain
  have nonempty : (buildBootp d (wantedType d) 548).length ≠ 0 := by
    rw [buildBootp_length (by rw [options]; exact Nat.le_of_ble_eq_true rfl)]
    decide
  have sent : wantedFrame d cap = encapsulateUdpIpEth d.mac (wantedSource d)
      (wantedDestination d) (buildBootp d (wantedType d) 548) cap := by
    rw [wantedFrame, if_neg nonempty]
  have types : wantedType d = dhcpDiscover ∨ wantedType d = dhcpRequest := by
    unfold wantedType
    split_ifs
    · exact .inr rfl
    · exact .inl rfl
  rw [sent] at room ⊢
  obtain ⟨source, destination, flags, client, message⟩ := encapsulate_reads options room
  rw [plainOptions_message _ types] at message
  exact ⟨source, destination, flags, client, message⟩

/-- Renewing, the client asks its server for its own address. -/
theorem wantedFrame_renewing {d : AtDhcp} {cap : Nat} (renewing : d.state = .renewing)
    (room : wantedFrame d cap ≠ []) :
    IsRequest (wantedFrame d cap) d.yiaddr (if d.server ≠ 0 then d.server else 0xffffffff)
      false := by
  obtain ⟨source, destination, flags, client, message⟩ :=
    wantedFrame_reads (.inr (.inl renewing)) room
  simp only [wantedSource, wantedDestination, bootpFlag, bootpClient, wantedType, renewing,
    true_or, or_true, true_and, if_true, ne_eq, not_true_eq_false, if_false]
    at source destination flags client message
  exact ⟨message, client, source, destination, flags⟩

/-- Rebinding, it asks everyone for its own address. -/
theorem wantedFrame_rebinding {d : AtDhcp} {cap : Nat} (rebinding : d.state = .rebinding)
    (room : wantedFrame d cap ≠ []) :
    IsRequest (wantedFrame d cap) d.yiaddr 0xffffffff true := by
  obtain ⟨source, destination, flags, client, message⟩ :=
    wantedFrame_reads (.inr (.inr rebinding)) room
  simp [wantedSource, wantedDestination, bootpFlag, bootpClient, wantedType, rebinding]
    at source destination flags client message
  exact ⟨message, client, source, destination, flags⟩

/-- Without a lease or an offer it sends a DISCOVER. -/
theorem wantedFrame_discover {d : AtDhcp} {cap : Nat}
    (searching : d.state = .init ∨ d.state = .selecting) (room : wantedFrame d cap ≠ []) :
    frameMessage (wantedFrame d cap) = some dhcpDiscover := by
  have discover : wantedType d = dhcpDiscover := by
    rcases searching with init | selecting
    · simp [wantedType, init]
    · simp [wantedType, selecting]
  have message := (wantedFrame_reads (.inl (by rw [discover]; decide)) room).2.2.2.2
  rw [message, discover]

/-! ## Replies -/

/-- `build_reply` of `tests/test_dhcp.c`: a server's message to a client. -/
def buildReply (d : AtDhcp) (msgType : UInt8) (yiaddr server : UInt32) (lease : Bytes) : Bytes :=
  let opt := [optType, 1, msgType, optServer, 4] ++ le32 server ++
    [optSubnet, 4, 255, 255, 255, 0, optRouter, 4] ++ le32 server ++ [optLease, 4] ++ lease ++
    [optEnd]
  let bootp := [2, 1, 6, 0] ++ le32 d.xid ++ zeros 8 ++ le32 yiaddr ++ le32 server ++ zeros 4 ++
    d.mac.toList ++ zeros 202 ++ dhcpCookie ++ opt ++ zeros (60 - opt.length)
  List.replicate 6 0xff ++ [2, 0, 0, 0, 0, 1, 0x08, 0x00] ++
    ([0x45, 0] ++ be16 (UInt16.ofNat (28 + bootp.length)) ++ [0, 0, 0, 0, 64, 17, 0, 0] ++
      le32 server ++ [255, 255, 255, 255]) ++
    ([0, 67, 0, 68] ++ be16 (UInt16.ofNat (8 + bootp.length)) ++ [0, 0]) ++ bootp

end WiredTethering.Dhcp
