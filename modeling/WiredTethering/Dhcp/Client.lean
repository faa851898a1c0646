import WiredTethering.Common.Checksum
import WiredTethering.Transition.Core

/-!
# The DHCP client

`dhcp_client.c`.  Addresses and the transaction id are kept in network byte
order, as `memcpy` loads and stores them on the little-endian host; option
values in seconds are converted by `ntohl`.  The clock is an argument: `now` is
`now_ms()`, `sent` is what the second `gettimeofday` of a transmission reads.
Milliseconds and seconds since the epoch are natural numbers.
-/

namespace WiredTethering.Dhcp

open WiredTethering.Memory
open WiredTethering.Common
open WiredTethering.Transition

/-! ## Constants -/

def dhcpClientPort : UInt16 := 68
def dhcpServerPort : UInt16 := 67
def dhcpCookie : Bytes := [0x63, 0x82, 0x53, 0x63]
def optPad : UInt8 := 0
def optSubnet : UInt8 := 1
def optRouter : UInt8 := 3
def optDns : UInt8 := 6
def optReqIp : UInt8 := 50
def optLease : UInt8 := 51
def optType : UInt8 := 53
def optServer : UInt8 := 54
def optParamReq : UInt8 := 55
def optT1 : UInt8 := 58
def optT2 : UInt8 := 59
def optEnd : UInt8 := 255
def dhcpDiscover : UInt8 := 1
def dhcpOffer : UInt8 := 2
def dhcpRequest : UInt8 := 3
def dhcpAck : UInt8 := 5
def dhcpNak : UInt8 := 6
def leaseInfinite : UInt32 := 0xFFFFFFFF
def defaultLease : UInt32 := 3600
/-- `op` to the cookie inclusive. -/
def dhcpFixed : Nat := 240

/-! ## State -/

inductive DhcpState where
  | init
  | selecting
  | requesting
  | bound
  | renewing
  | rebinding
deriving DecidableEq, Repr

@[ext]
structure Timeval where
  sec : Nat
  usec : Nat
deriving DecidableEq, Repr

/-- `tv_ms`. -/
def Timeval.ms (tv : Timeval) : Nat :=
  tv.sec * 1000 + tv.usec / 1000

/-- `struct at_dhcp`. -/
@[ext]
structure AtDhcp where
  mac : Vector UInt8 6
  xid : UInt32
  state : DhcpState
  yiaddr : UInt32
  server : UInt32
  netmask : UInt32
  router : UInt32
  dns0 : UInt32
  dns1 : UInt32
  dnsN : Nat
  leaseSecs : UInt32
  t1Secs : UInt32
  t2Secs : UInt32
  boundMs : Nat
  lastTx : Timeval
  backoffMs : Nat
deriving DecidableEq, Repr

/-- `at_dhcp_create`; `xid` is computed from the process id and the time. -/
def atDhcpCreate (mac : Vector UInt8 6) (xid : UInt32) : AtDhcp where
  mac := mac
  xid := xid
  state := .init
  yiaddr := 0
  server := 0
  netmask := 0x00ffffff
  router := 0
  dns0 := 0
  dns1 := 0
  dnsN := 0
  leaseSecs := 0
  t1Secs := 0
  t2Secs := 0
  boundMs := 0
  lastTx := ⟨0, 0⟩
  backoffMs := 500

def leaseActive (d : AtDhcp) : Bool :=
  d.state = .bound ∨ d.state = .renewing ∨ d.state = .rebinding

def resetSelect (d : AtDhcp) : AtDhcp :=
  { d with
    state := .init
    yiaddr := 0
    server := 0
    leaseSecs := 0
    t1Secs := 0
    t2Secs := 0
    boundMs := 0
    backoffMs := 500
    lastTx := ⟨0, 0⟩ }

/-- `apply_lease_timers`.  A primed name is a field that is assigned again. -/
def applyLeaseTimers (d : AtDhcp) (now : Nat) : AtDhcp :=
  let lease := if d.leaseSecs = 0 then defaultLease else d.leaseSecs
  if lease = leaseInfinite then
    { d with boundMs := now, leaseSecs := lease, t1Secs := 0, t2Secs := 0 }
  else
    let t1 := if d.t1Secs = 0 ∨ lease ≤ d.t1Secs then lease / 2 else d.t1Secs
    let t2 :=
      if d.t2Secs = 0 ∨ d.t2Secs ≤ t1 ∨ lease ≤ d.t2Secs then lease - lease / 8 else d.t2Secs
    let t1' := if t1 = 0 then 1 else t1
    let t2' := if t2 ≤ t1' then t1' + 1 else t2
    { d with boundMs := now, leaseSecs := lease, t1Secs := t1', t2Secs := t2' }

/-! ## Building frames -/

/-- `append_opt`: `opt` is the part of the options area written so far, of which
the whole area has `cap` bytes. -/
def appendOpt (opt : Bytes) (cap : Nat) (t : UInt8) (v : Bytes) : Bytes :=
  if cap ≤ opt.length + 2 + v.length then opt
  else opt ++ [t, UInt8.ofNat v.length] ++ v

/-- The options of `build_bootp` in an area of `oc` bytes. -/
def bootpOptions (d : AtDhcp) (msgType : UInt8) (oc : Nat) : Bytes :=
  let opt := appendOpt [] oc optType [msgType]
  let opt := appendOpt opt oc optParamReq [0x01, 0x03, 0x06, 0x1c, 0x33, 0x3a, 0x3b]
  let opt :=
    if msgType = dhcpRequest ∧ d.yiaddr ≠ 0 ∧ d.state ≠ .renewing ∧ d.state ≠ .rebinding then
      let opt := appendOpt opt oc optReqIp (le32 d.yiaddr)
      if d.server ≠ 0 then appendOpt opt oc optServer (le32 d.server) else opt
    else opt
  if opt.length < oc then opt ++ [optEnd] else opt

/-- `build_bootp`: the bytes of the message in a buffer of `cap` bytes, empty
when the buffer is too small. -/
def buildBootp (d : AtDhcp) (msgType : UInt8) (cap : Nat) : Bytes :=
  if cap < 300 then []
  else
    let bootp := zeros cap
    let bootp := overwrite bootp 0 [1, 1, 6]
    let bootp := wr32le bootp 4 d.xid
    let bootp :=
      if d.state = .renewing ∨ d.state = .rebinding then wr32le bootp 12 d.yiaddr else bootp
    let bootp := if d.state ≠ .renewing then overwrite bootp 10 [0x80] else bootp
    let bootp := overwrite bootp 28 d.mac.toList
    let bootp := overwrite bootp 236 dhcpCookie
    let opt := bootpOptions d msgType (cap - dhcpFixed)
    let bootp := overwrite bootp dhcpFixed opt
    let bootpLen := dhcpFixed + opt.length
    bootp.take (if bootpLen < 300 then 300 else bootpLen)

/-- The IPv4 header of `encapsulate_udp_ip_eth`. -/
def ipHeader (ipLen : Nat) (srcIp dstIp : UInt32) : Bytes :=
  let ip := [0x45, 0] ++ be16 (UInt16.ofNat ipLen) ++ [0, 0, 0, 0, 64, 17, 0, 0] ++
    le32 srcIp ++ le32 dstIp
  overwrite ip 10 (be16 (atIpChecksum ip))

/-- The UDP datagram of `encapsulate_udp_ip_eth`. -/
def udpDatagram (srcIp dstIp : UInt32) (bootp : Bytes) : Bytes :=
  let udpLen := 8 + bootp.length
  let udp := be16 dhcpClientPort ++ be16 dhcpServerPort ++ be16 (UInt16.ofNat udpLen) ++
    [0, 0] ++ bootp
  if 8 + bootp.length ≤ 1024 then
    let pseudo := le32 srcIp ++ le32 dstIp ++ [0, 17] ++ be16 (UInt16.ofNat udpLen) ++ udp
    let u := atIpChecksum pseudo
    overwrite udp 6 (be16 (if u = 0 then 0xffff else u))
  else udp

/-- `encapsulate_udp_ip_eth`: the frame, empty when it does not fit `cap`. -/
def encapsulateUdpIpEth (mac : Vector UInt8 6) (srcIp dstIp : UInt32) (bootp : Bytes)
    (cap : Nat) : Bytes :=
  let ipLen := 20 + (8 + bootp.length)
  if cap < 14 + ipLen then []
  else
    List.replicate 6 0xff ++ mac.toList ++ [0x08, 0x00] ++ ipHeader ipLen srcIp dstIp ++
      udpDatagram srcIp dstIp bootp

/-! ## Polling -/

/-- `advance_renew_state`. -/
def advanceRenewState (d : AtDhcp) (now : Nat) : AtDhcp :=
  if !leaseActive d then d
  else if d.leaseSecs = leaseInfinite then d
  else
    let age := if d.boundMs ≤ now then now - d.boundMs else 0
    let leaseMs := d.leaseSecs.toNat * 1000
    let t1Ms := d.t1Secs.toNat * 1000
    let t2Ms := d.t2Secs.toNat * 1000
    if leaseMs ≠ 0 ∧ leaseMs ≤ age then resetSelect d
    else if d.state ≠ .rebinding ∧ t2Ms ≠ 0 ∧ t2Ms ≤ age then
      { d with state := .rebinding, backoffMs := 1000, lastTx := ⟨0, 0⟩ }
    else if d.state = .bound ∧ t1Ms ≠ 0 ∧ t1Ms ≤ age then
      { d with state := .renewing, backoffMs := 1000, lastTx := ⟨0, 0⟩ }
    else d

/-- The message type that `at_dhcp_want_tx` sends. -/
def wantedType (d : AtDhcp) : UInt8 :=
  if d.state = .requesting ∨ d.state = .renewing ∨ d.state = .rebinding then dhcpRequest
  else dhcpDiscover

/-- The source address it sends from. -/
def wantedSource (d : AtDhcp) : UInt32 :=
  if d.state = .renewing ∨ d.state = .rebinding then d.yiaddr else 0

/-- The destination address it sends to. -/
def wantedDestination (d : AtDhcp) : UInt32 :=
  if d.state = .renewing ∧ d.server ≠ 0 then d.server else 0xffffffff

/-- The frame that `at_dhcp_want_tx` sends; the message is built in a buffer of
548 bytes. -/
def wantedFrame (d : AtDhcp) (cap : Nat) : Bytes :=
  let bootp := buildBootp d (wantedType d) 548
  if bootp.length = 0 then []
  else encapsulateUdpIpEth d.mac (wantedSource d) (wantedDestination d) bootp cap

/-- `at_dhcp_want_tx` behind `advance_renew_state`. -/
def transmit (d : AtDhcp) (cap now : Nat) (sent : Timeval) : AtDhcp × Bytes :=
  if d.state = .bound then (d, [])
  else if d.leaseSecs = leaseInfinite ∧ leaseActive d then (d, [])
  else if (d.lastTx.sec ≠ 0 ∨ d.lastTx.usec ≠ 0) ∧ now < d.lastTx.ms + d.backoffMs then (d, [])
  else
    let eth := wantedFrame d cap
    if eth.length = 0 then (d, [])
    else
      ({ d with
          lastTx := sent
          state := if d.state = .init then .selecting else d.state
          backoffMs := if d.backoffMs < 4000 then d.backoffMs * 2 else 8000 }, eth)

/-- `at_dhcp_want_tx` into a buffer of `cap` bytes: the frame to send, empty when
there is none. -/
def atDhcpWantTx (d : AtDhcp) (cap now : Nat) (sent : Timeval) : AtDhcp × Bytes :=
  transmit (advanceRenewState d now) cap now sent

/-! ## Receiving -/

/-- What `parse_options` does with one option. -/
def storeOption (d : AtDhcp) (msgType t : UInt8) (v : Bytes) : AtDhcp × UInt8 :=
  if t = optType ∧ 1 ≤ v.length then (d, byteAt v 0)
  else if t = optServer ∧ 4 ≤ v.length then ({ d with server := rd32le v 0 }, msgType)
  else if t = optSubnet ∧ 4 ≤ v.length then ({ d with netmask := rd32le v 0 }, msgType)
  else if t = optRouter ∧ 4 ≤ v.length then ({ d with router := rd32le v 0 }, msgType)
  else if t = optLease ∧ 4 ≤ v.length then ({ d with leaseSecs := rd32be v 0 }, msgType)
  else if t = optT1 ∧ 4 ≤ v.length then ({ d with t1Secs := rd32be v 0 }, msgType)
  else if t = optT2 ∧ 4 ≤ v.length then ({ d with t2Secs := rd32be v 0 }, msgType)
  else if t = optDns ∧ 4 ≤ v.length then
    let d := { d with dns0 := rd32le v 0, dnsN := 1 }
    (if 8 ≤ v.length then { d with dns1 := rd32le v 4, dnsN := 2 } else d, msgType)
  else (d, msgType)

/-- The loop of `parse_options` from offset `i`. -/
def parseOptionsFrom (opt : Bytes) (i : Nat) (d : AtDhcp) (msgType : UInt8) :
    AtDhcp × UInt8 :=
  if i < opt.length then
    let t := byteAt opt i
    if t = optPad then parseOptionsFrom opt (i + 1) d msgType
    else if t = optEnd then (d, msgType)
    else if opt.length ≤ i + 1 then (d, msgType)
    else
      let n := (byteAt opt (i + 1)).toNat
      if opt.length < i + 2 + n then (d, msgType)
      else
        let stored := storeOption d msgType t (slice opt (i + 2) n)
        parseOptionsFrom opt (i + 2 + n) stored.1 stored.2
  else (d, msgType)
termination_by opt.length - i

/-- `parse_options`. -/
def parseOptions (d : AtDhcp) (opt : Bytes) : AtDhcp × UInt8 :=
  parseOptionsFrom opt 0 d 0

/-- The checks of `at_dhcp_on_frame` before it reads options: where the BOOTP
message of a reply to `xid` starts. -/
def bootpReplyAt (xid : UInt32) (eth : Bytes) : Option Nat :=
  if eth.length < 14 + 20 + 8 + dhcpFixed then none
  else if byteAt eth 12 ≠ 0x08 ∨ byteAt eth 13 ≠ 0x00 then none
  else if byteAt eth 14 >>> 4 ≠ 4 then none
  else
    let ihl := (byteAt eth 14 &&& 0x0f).toNat * 4
    if ihl < 20 ∨ eth.length < 14 + ihl + 8 + dhcpFixed then none
    else if byteAt eth (14 + 9) ≠ 17 then none
    else
      let udp := 14 + ihl
      if rd16be eth (udp + 2) ≠ dhcpClientPort then none
      else
        let bootp := udp + 8
        if eth.length - bootp < dhcpFixed then none
        else if byteAt eth bootp ≠ 2 then none
        else if rd32le eth (bootp + 4) ≠ xid then none
        else if slice eth (bootp + 236) 4 ≠ dhcpCookie then none
        else some bootp

/-- `at_dhcp_on_frame` for an OFFER. -/
def onOffer (d : AtDhcp) (newYi : UInt32) : AtDhcp × Int :=
  if leaseActive d then (d, 0)
  else
    ({ d with yiaddr := newYi, state := .requesting, backoffMs := 200, lastTx := ⟨0, 0⟩ }, 0)

/-- `at_dhcp_on_frame` for an ACK. -/
def onAck (d : AtDhcp) (newYi : UInt32) (now : Nat) : AtDhcp × Int :=
  let wasActive := leaseActive d
  let oldIp := d.yiaddr
  let d := { d with yiaddr := newYi }
  let d := if d.dnsN = 0 ∧ d.router ≠ 0 then { d with dns0 := d.router, dnsN := 1 } else d
  let d := if d.router = 0 ∧ d.server ≠ 0 then { d with router := d.server } else d
  let d := applyLeaseTimers d now
  let d := { d with state := .bound, backoffMs := 500, lastTx := ⟨0, 0⟩ }
  (d, if !wasActive then 1 else if oldIp ≠ d.yiaddr then 1 else 0)

/-- `at_dhcp_on_frame` for a NAK. -/
def onNak (d : AtDhcp) : AtDhcp × Int :=
  (resetSelect d, if leaseActive d ∨ d.state = .requesting then -1 else 0)

/-- `at_dhcp_on_frame`. -/
def atDhcpOnFrame (d : AtDhcp) (eth : Bytes) (now : Nat) : AtDhcp × Int :=
  match bootpReplyAt d.xid eth with
  | none => (d, 0)
  | some bootp =>
      let (d, msg) := parseOptions d (eth.drop (bootp + dhcpFixed))
      let newYi := rd32le eth (bootp + 16)
      if msg = dhcpOffer ∧ newYi ≠ 0 then onOffer d newYi
      else if msg = dhcpAck ∧ newYi ≠ 0 then onAck d newYi now
      else if msg = dhcpNak then onNak d
      else (d, 0)

/-! ## Runs -/

/-- A call of `at_dhcp_want_tx`: its two clock readings and its buffer length. -/
structure Poll where
  now : Nat
  sent : Timeval
  cap : Nat

def Poll.call (d : AtDhcp) (p : Poll) : AtDhcp × Bytes :=
  atDhcpWantTx d p.cap p.now p.sent

/-- What happens to a client: it is polled, or it receives a frame. -/
inductive ClientEvent where
  | poll (p : Poll)
  | frame (eth : Bytes) (now : Nat)

/-- One event. -/
def clientStep : Step AtDhcp ClientEvent
  | d, .poll p => some (p.call d).1
  | d, .frame eth now => some (atDhcpOnFrame d eth now).1

/-- The states of clients that started in `at_dhcp_create`. -/
def Reachable (d : AtDhcp) : Prop :=
  ∃ mac xid events, run clientStep (atDhcpCreate mac xid) events = some d

end WiredTethering.Dhcp
