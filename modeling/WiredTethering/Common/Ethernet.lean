import WiredTethering.Memory.Bytes

/-!
# Ethernet frames

The reads that the data path does on a frame before it knows what it holds:
`ethertype`, the DHCP pre-filter, and the source that a gateway address is
learned from.
-/

namespace WiredTethering.Common

open WiredTethering.Memory

abbrev Mac := Vector UInt8 6

/-- `mac[i]`. -/
def octet (mac : Mac) (i : Nat) : UInt8 :=
  mac.toList.getD i 0

/-- The address at an offset. -/
def macAt (frame : Bytes) (off : Nat) : Mac :=
  Vector.ofFn fun i : Fin 6 => byteAt frame (off + i)

def ethertype (eth : Bytes) : UInt16 :=
  rd16be eth 12

/-- `looks_like_dhcp_to_client`. -/
def looksLikeDhcpToClient (frame : Bytes) : Bool :=
  if frame.length < 14 + 20 + 8 then false
  else if ethertype frame ≠ 0x0800 then false
  else if byteAt frame 14 >>> 4 ≠ 4 then false
  else
    let ihl := (byteAt frame 14 &&& 0x0f).toNat * 4
    if ihl < 20 ∨ frame.length < 14 + ihl + 8 then false
    else if byteAt frame (14 + 9) ≠ 17 then false
    else rd16be frame (14 + ihl + 2) = 68

/-- `at_eth_learn_gw_mac`: the address learned from an ARP reply or an IPv4 packet
of the gateway. -/
def atEthLearnGwMac (frame : Bytes) (hostMac : Mac) (gwIp : UInt32) : Option Mac :=
  if gwIp = 0 ∨ frame.length < 14 then none
  else if macAt frame 6 = hostMac then none
  else
    let et := rd16be frame 12
    if et = 0x0806 then
      if frame.length < 42 then none
      else
        let op := rd16be frame 20
        let spa := rd32le frame 28
        if op ≠ 2 ∨ spa ≠ gwIp then none
        else some (macAt frame 22)
    else if et = 0x0800 then
      if frame.length < 14 + 20 then none
      else if byteAt frame 14 >>> 4 ≠ 4 then none
      else
        let src := rd32le frame (14 + 12)
        if src ≠ gwIp then none
        else some (macAt frame 6)
    else none

end WiredTethering.Common
