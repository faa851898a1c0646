import WiredTethering.Common.Ethernet
import WiredTethering.Rndis.Control

/-!
# The control channel

The control half of `usb_rndis.c`.  A device decides on every transfer by what has
happened so far, so it can play any script of outcomes.  Every entry point holds `mu`
from its first transfer to its last one, so a session is a sequence of calls.
-/

namespace WiredTethering.Usb

open WiredTethering.Memory
open WiredTethering.Common
open WiredTethering.Rndis

/-- A control transfer, or the return of a reply to the caller of `rndis_rpc`. -/
inductive Event
  | out (message : Bytes) (sent : Bool)
  | read (received : Option Bytes)
  | returned (request : UInt32) (reply : Bytes)
deriving DecidableEq, Repr

/-- Whether an OUT succeeds, and what an IN delivers, if anything. -/
structure Device where
  accepts : List Event → Bytes → Bool
  answers : List Event → Option Bytes

/-- The fields of `struct at_usb_rndis` that the control channel uses, and what happened
on it. -/
structure UsbRndis where
  opened : Bool
  xid : UInt32
  maxXfer : UInt32
  maxPackets : UInt32
  packetAlignShift : UInt32
  rndisLinkMbps : UInt32
  maxFrame : UInt32
  trace : List Event
deriving DecidableEq, Repr

/-- `AT_MAX_TRANSFER`. -/
def maxTransfer : UInt32 := 16384

/-- What `at_usb_open` returns on success. -/
def atUsbOpen : UsbRndis where
  opened := true
  xid := 1
  maxXfer := maxTransfer
  maxPackets := 1
  packetAlignShift := 2
  rndisLinkMbps := 0
  maxFrame := 0
  trace := []

/-! ## Transfers -/

/-- `next_xid`: the id of the next request. -/
def nextXid (xid : UInt32) : UInt32 :=
  if xid + 1 = 0 then 1 else xid + 1

/-- `control_out`. -/
def controlOut (device : Device) (u : UsbRndis) (data : Bytes) : Bool × UsbRndis :=
  let sent := device.accepts u.trace data
  (sent, { u with trace := u.trace ++ [.out data sent] })

/-- `control_in`: at most `cap` bytes. -/
def controlIn (device : Device) (u : UsbRndis) (cap : Nat) : Option Bytes × UsbRndis :=
  let received := (device.answers u.trace).map (List.take cap)
  (received, { u with trace := u.trace ++ [.read received] })

/-- The request id of a message, or 0 if the message is too short for one. -/
def requestIdOf (resp : Bytes) : UInt32 :=
  if 12 ≤ resp.length then rd32le resp 8 else 0

/-- The answer to a `KEEPALIVE` of the device. -/
def keepaliveAnswer (rid : UInt32) : Bytes :=
  (rndisBuildKeepaliveCmplt 16 rid).message

/-- The loop of `rndis_rpc`. -/
def rndisPoll (device : Device) (expectId : UInt32) : Nat → UsbRndis → Option Bytes × UsbRndis
  | 0, u => (none, u)
  | polls + 1, u =>
      match controlIn device u controlBuf with
      | (none, u) => rndisPoll device expectId polls u
      | (some resp, u) =>
          if resp.length < 8 then rndisPoll device expectId polls u
          else if rd32le resp 0 = msgKeepalive then
            rndisPoll device expectId polls
              (controlOut device u (keepaliveAnswer (requestIdOf resp))).2
          else if rd32le resp 0 = msgIndicateStatus then rndisPoll device expectId polls u
          else if requestIdOf resp = expectId ∨ expectId = 0 then
            (some resp, { u with trace := u.trace ++ [.returned expectId resp] })
          else rndisPoll device expectId polls u

/-- `rndis_rpc`, with the read of the interrupt pipe left out. -/
def rndisRpc (device : Device) (u : UsbRndis) (message : Bytes) (expectId : UInt32) :
    Option Bytes × UsbRndis :=
  match controlOut device u message with
  | (false, u) => (none, u)
  | (true, u) => rndisPoll device expectId 12 u

/-! ## Initialisation -/

/-- The `INITIALIZE` request. -/
def requestInitialize (device : Device) (u : UsbRndis) : Option RndisInitResult × UsbRndis :=
  let id := nextXid u.xid
  let (reply, u) := rndisRpc device { u with xid := id }
    (rndisBuildInitialize controlBuf id maxTransfer).message id
  (reply.bind fun resp => (rndisParseInitializeCmplt resp id).toOption, u)

/-- The limits of the device, each kept in its range. -/
def adopt (u : UsbRndis) (init : RndisInitResult) : UsbRndis :=
  let maxXfer :=
    if 1024 ≤ init.maxTransferSize ∧ init.maxTransferSize ≤ maxTransfer then init.maxTransferSize
    else u.maxXfer
  let maxPackets := if init.maxPacketsPerXfer ≠ 0 then init.maxPacketsPerXfer else 1
  let maxPackets := if 32 < maxPackets then 32 else maxPackets
  let shift := init.packetAlignment
  let shift := if shift < 2 then 2 else shift
  let shift := if 8 < shift then 8 else shift
  { u with maxXfer := maxXfer, maxPackets := maxPackets, packetAlignShift := shift }

/-- A `QUERY` request, and the information buffer of its reply: what stands from its start
on, and its length. -/
def queryOid (device : Device) (u : UsbRndis) (oid : UInt32) (input : Option Bytes)
    (inLen : UInt32) : Option (Bytes × UInt32) × UsbRndis :=
  let id := nextXid u.xid
  let (reply, u) := rndisRpc device { u with xid := id }
    (rndisBuildQuery controlBuf id oid input inLen).message id
  (reply.bind fun resp => (rndisParseQueryCmplt resp id).toOption.map fun (start, ilen) =>
    (resp.drop start, ilen), u)

/-- `AT_MAC_LEN`. -/
def macLen : UInt32 := 6

/-- The loop over `mac_oids`. -/
def queryMac (device : Device) : List UInt32 → UsbRndis → Option Mac × UsbRndis
  | [], u => (none, u)
  | oid :: oids, u =>
      match queryOid device u oid (some (zeros 48)) 48 with
      | (some (info, ilen), u) =>
          if macLen ≤ ilen then (some (macAt info 0), u) else queryMac device oids u
      | (none, u) => queryMac device oids u

def macOids : List UInt32 :=
  [oid8023PermanentAddress, oid8023CurrentAddress]

def fallbackMac : Mac :=
  sixBytes 0x0A 0x54 0x48 0x00 0x00 0x01

/-- A capacity OID: the first word of its information buffer. -/
def queryWord (device : Device) (u : UsbRndis) (oid : UInt32) : Option UInt32 × UsbRndis :=
  match queryOid device u oid none 0 with
  | (some (info, ilen), u) => (if 4 ≤ ilen then some (rd32le info 0) else none, u)
  | (none, u) => (none, u)

def queryLinkSpeed (device : Device) (u : UsbRndis) : UsbRndis :=
  match queryWord device u oidGenLinkSpeed with
  | (some speed100, u) => if 0 < speed100 then { u with rndisLinkMbps := speed100 / 10000 } else u
  | (none, u) => u

def queryMaximumFrameSize (device : Device) (u : UsbRndis) : UsbRndis :=
  match queryWord device u oidGenMaximumFrameSize with
  | (some frame, u) => { u with maxFrame := frame }
  | (none, u) => u

/-- The `SET` request of the packet filter. -/
def setPacketFilter (device : Device) (u : UsbRndis) : Bool × UsbRndis :=
  let id := nextXid u.xid
  let (reply, u) := rndisRpc device { u with xid := id }
    (rndisBuildSet controlBuf id oidGenCurrentPacketFilter (le32 defaultFilter) 4).message id
  (match reply with
    | some resp => rndisParseSetCmplt resp id = 0
    | none => false, u)

/-- The return value of `at_usb_rndis_init`, and what it writes to `mac_out` and
`init_out`. -/
structure InitReturn where
  rc : Int
  macOut : Option Mac
  initOut : Option RndisInitResult
deriving DecidableEq, Repr

/-- `at_usb_rndis_init`. -/
def atUsbRndisInit (device : Device) (u : UsbRndis) : InitReturn × UsbRndis :=
  if !u.opened then (⟨-1, none, none⟩, u)
  else
    match requestInitialize device u with
    | (none, u) => (⟨-1, none, none⟩, u)
    | (some init, u) =>
        let (mac, u) := queryMac device macOids (adopt u init)
        let u := queryMaximumFrameSize device (queryLinkSpeed device u)
        let (filtered, u) := setPacketFilter device u
        (⟨if filtered then 0 else -1, some (mac.getD fallbackMac), some init⟩, u)

/-! ## The other entry points -/

/-- `at_usb_rndis_halt`. -/
def atUsbRndisHalt (device : Device) (u : UsbRndis) (gone : Bool) : UsbRndis :=
  if !u.opened then u
  else if gone then u
  else
    let id := nextXid u.xid
    (controlOut device { u with xid := id } (rndisBuildHalt 16 id).message).2

/-- `at_usb_keepalive`. -/
def atUsbKeepalive (device : Device) (u : UsbRndis) : UsbRndis :=
  let id := nextXid u.xid
  (rndisRpc device { u with xid := id } (rndisBuildKeepalive 16 id).message id).2

/-- `at_usb_handle_control_events`. -/
def atUsbHandleControlEvents (device : Device) (u : UsbRndis) : UsbRndis :=
  match controlIn device u controlBuf with
  | (none, u) => u
  | (some resp, u) =>
      if resp.length < 8 then u
      else if rd32le resp 0 = msgKeepalive then
        (controlOut device u (keepaliveAnswer (requestIdOf resp))).2
      else u

/-- A call of an entry point; `gone` is what a halt finds in the flag. -/
inductive Call
  | init
  | halt (gone : Bool)
  | keepalive
  | controlEvents
deriving DecidableEq, Repr

def call (device : Device) (u : UsbRndis) : Call → UsbRndis
  | .init => (atUsbRndisInit device u).2
  | .halt gone => atUsbRndisHalt device u gone
  | .keepalive => atUsbKeepalive device u
  | .controlEvents => atUsbHandleControlEvents device u

/-- A device after a sequence of calls. -/
def session (device : Device) (calls : List Call) : UsbRndis :=
  calls.foldl (call device) atUsbOpen

end WiredTethering.Usb
