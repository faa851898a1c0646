import WiredTethering.Rndis.Packet

/-!
# RNDIS control messages

The control half of `rndis.c`.  A builder is described by its stores, in order, and
by the length it returns; a completion is parsed to what the caller reads of it, or to
the error code.
-/

namespace WiredTethering.Rndis

open WiredTethering.Memory

/-! ## Constants -/

def msgInitialize : UInt32 := 0x00000002
def msgHalt : UInt32 := 0x00000003
def msgQuery : UInt32 := 0x00000004
def msgSet : UInt32 := 0x00000005
def msgIndicateStatus : UInt32 := 0x00000007
def msgKeepalive : UInt32 := 0x00000008
def msgInitializeCmplt : UInt32 := 0x80000002
def msgQueryCmplt : UInt32 := 0x80000004
def msgSetCmplt : UInt32 := 0x80000005
def msgKeepaliveCmplt : UInt32 := 0x80000008
def statusSuccess : UInt32 := 0
def oidGenMaximumFrameSize : UInt32 := 0x00010106
def oidGenLinkSpeed : UInt32 := 0x00010107
def oidGenCurrentPacketFilter : UInt32 := 0x0001010E
def oid8023PermanentAddress : UInt32 := 0x01010101
def oid8023CurrentAddress : UInt32 := 0x01010102

/-- `RNDIS_DEFAULT_FILTER`: directed, broadcast, all multicast and promiscuous. -/
def defaultFilter : UInt32 := 0x00000001 ||| 0x00000008 ||| 0x00000004 ||| 0x00000020

def initializeLen : Nat := 24
def querySetHdrLen : UInt32 := 28
def controlBuf : Nat := 1024

/-! ## Builders -/

/-- The stores of a builder into its buffer, and the length it returns. -/
structure Built where
  stores : List (Nat × Bytes)
  len : Nat
deriving DecidableEq, Repr

/-- The buffer is too short. -/
def Built.refused : Built := ⟨[], 0⟩

/-- The stores, one after another. -/
def storeAll (stores : List (Nat × Bytes)) (buf : Bytes) : Bytes :=
  stores.foldl (fun buf store => overwrite buf store.1 store.2) buf

/-- The message.  The builders clear all of it first, so what stood in the buffer is of
no matter. -/
def Built.message (b : Built) : Bytes :=
  storeAll b.stores (zeros b.len)

/-- The stores that every message begins with. -/
def header (type : UInt32) (total : Nat) (requestId : UInt32) : List (Nat × Bytes) :=
  [(0, zeros total), (0, le32 type), (4, le32 (UInt32.ofNat total)), (8, le32 requestId)]

def rndisBuildInitialize (bufLen : Nat) (requestId maxXfer : UInt32) : Built :=
  if bufLen < initializeLen then .refused
  else
    ⟨header msgInitialize initializeLen requestId ++
      [(12, le32 1), (16, le32 0), (20, le32 maxXfer)], initializeLen⟩

def rndisBuildHalt (bufLen : Nat) (requestId : UInt32) : Built :=
  if bufLen < 12 then .refused else ⟨header msgHalt 12 requestId, 12⟩

def rndisBuildKeepalive (bufLen : Nat) (requestId : UInt32) : Built :=
  if bufLen < 16 then .refused else ⟨header msgKeepalive 16 requestId, 16⟩

def rndisBuildKeepaliveCmplt (bufLen : Nat) (requestId : UInt32) : Built :=
  if bufLen < 16 then .refused
  else ⟨header msgKeepaliveCmplt 16 requestId ++ [(12, le32 statusSuccess)], 16⟩

/-- `rndis_build_query`.  The total is a sum of 32-bit words. -/
def rndisBuildQuery (bufLen : Nat) (requestId oid : UInt32) (input : Option Bytes)
    (inLen : UInt32) : Built :=
  let total := (querySetHdrLen + inLen).toNat
  if bufLen < total then .refused
  else
    ⟨header msgQuery total requestId ++
      [(12, le32 oid), (16, le32 inLen), (20, le32 (if inLen ≠ 0 then 20 else 0)),
        (24, le32 0)] ++
      (match input with
        | some bytes => if inLen ≠ 0 then [(28, bytes.take inLen.toNat)] else []
        | none => []), total⟩

/-- `rndis_build_set`. -/
def rndisBuildSet (bufLen : Nat) (requestId oid : UInt32) (value : Bytes)
    (valueLen : UInt32) : Built :=
  let total := (querySetHdrLen + valueLen).toNat
  if bufLen < total then .refused
  else
    ⟨header msgSet total requestId ++
      [(12, le32 oid), (16, le32 valueLen), (20, le32 20), (24, le32 0),
        (28, value.take valueLen.toNat)], total⟩

/-! ## Completions -/

/-- `check_cmplt_header`. -/
def checkCmpltHeader (buf : Bytes) (expectType expectId : UInt32) : Int :=
  if buf.length < 16 then -1
  else if rd32le buf 0 ≠ expectType then -2
  else if buf.length < (rd32le buf 4).toNat then -3
  else if rd32le buf 8 ≠ expectId then -4
  else if rd32le buf 12 ≠ statusSuccess then -5
  else 0

/-- `rndis_init_result_t`. -/
structure RndisInitResult where
  maxTransferSize : UInt32
  maxPacketsPerXfer : UInt32
  packetAlignment : UInt32
  deviceFlags : UInt32
  medium : UInt32
deriving DecidableEq, Repr

def rndisParseInitializeCmplt (buf : Bytes) (expectId : UInt32) : Except Int RndisInitResult :=
  let rc := checkCmpltHeader buf msgInitializeCmplt expectId
  if rc ≠ 0 then .error rc
  else if buf.length < 52 then .error (-6)
  else
    .ok
      { deviceFlags := rd32le buf 24
        medium := rd32le buf 28
        maxPacketsPerXfer := rd32le buf 32
        maxTransferSize := rd32le buf 36
        packetAlignment := rd32le buf 40 }

def rndisParseSetCmplt (buf : Bytes) (expectId : UInt32) : Int :=
  checkCmpltHeader buf msgSetCmplt expectId

/-- `rndis_parse_query_cmplt`: where the information buffer starts, and its length. -/
def rndisParseQueryCmplt (buf : Bytes) (expectId : UInt32) : Except Int (Nat × UInt32) :=
  let rc := checkCmpltHeader buf msgQueryCmplt expectId
  if rc ≠ 0 then .error rc
  else if buf.length < 24 then .error (-6)
  else
    let ilen := rd32le buf 16
    let ioff := rd32le buf 20
    let start := offsetBase + ioff.toNat
    if buf.length < start + ilen.toNat then .error (-7) else .ok (start, ilen)

/-- A completion of the request `id`, whole as far as its `MessageLength` goes. -/
structure IsCompletion (buf : Bytes) (type id : UInt32) : Prop where
  header : 16 ≤ buf.length
  type : rd32le buf 0 = type
  messageLength : (rd32le buf 4).toNat ≤ buf.length
  requestId : rd32le buf 8 = id
  status : rd32le buf 12 = statusSuccess

theorem checkCmpltHeader_eq_zero_iff {buf : Bytes} {type id : UInt32} :
    checkCmpltHeader buf type id = 0 ↔ IsCompletion buf type id := by
  constructor
  · intro accepted
    rw [checkCmpltHeader] at accepted
    split_ifs at accepted with short other long stale failed
    exact ⟨Nat.le_of_not_lt short, not_not.mp other, Nat.le_of_not_lt long, not_not.mp stale,
      not_not.mp failed⟩
  · rintro ⟨header, type, messageLength, requestId, status⟩
    rw [checkCmpltHeader, if_neg (Nat.not_lt.mpr header), if_neg (not_not.mpr type),
      if_neg (Nat.not_lt.mpr messageLength), if_neg (not_not.mpr requestId),
      if_neg (not_not.mpr status)]

theorem rndisParseInitializeCmplt_ok {buf : Bytes} {id : UInt32} {init : RndisInitResult}
    (parsed : rndisParseInitializeCmplt buf id = .ok init) :
    IsCompletion buf msgInitializeCmplt id := by
  simp only [rndisParseInitializeCmplt] at parsed
  split_ifs at parsed with rc
  exact checkCmpltHeader_eq_zero_iff.mp (not_not.mp rc)

/-- The information buffer of a parsed reply is inside the reply. -/
theorem rndisParseQueryCmplt_ok {buf : Bytes} {id : UInt32} {start : Nat} {ilen : UInt32}
    (parsed : rndisParseQueryCmplt buf id = .ok (start, ilen)) :
    IsCompletion buf msgQueryCmplt id ∧ start = offsetBase + (rd32le buf 20).toNat ∧
      ilen = rd32le buf 16 ∧ start + ilen.toNat ≤ buf.length := by
  simp only [rndisParseQueryCmplt] at parsed
  split_ifs at parsed with rc short outside
  cases parsed
  exact ⟨checkCmpltHeader_eq_zero_iff.mp (not_not.mp rc), rfl, rfl, Nat.le_of_not_lt outside⟩

/-! ## The header of a message -/

theorem rd32le_overwrite {buf src : Bytes} {off i : Nat}
    (inside : off + src.length ≤ buf.length) (outside : i + 4 ≤ off ∨ off + src.length ≤ i) :
    rd32le (overwrite buf off src) i = rd32le buf i := by
  simp only [rd32le]
  rw [byteAt_overwrite inside (by omega), byteAt_overwrite inside (by omega),
    byteAt_overwrite inside (by omega), byteAt_overwrite inside (by omega)]

theorem rd32le_wr32le {buf : Bytes} {off : Nat} (word : UInt32)
    (inside : off + 4 ≤ buf.length) : rd32le (overwrite buf off (le32 word)) off = word := by
  have front : (buf.take off).length = off := by
    rw [List.length_take]
    omega
  rw [overwrite, List.append_assoc]
  exact rd32le_append_le32 word _ front

/-- Stores behind a word do not change it. -/
theorem rd32le_storeAll {stores : List (Nat × Bytes)} {buf : Bytes} {i : Nat}
    (behind : ∀ store ∈ stores, i + 4 ≤ store.1 ∧ store.1 + store.2.length ≤ buf.length) :
    rd32le (storeAll stores buf) i = rd32le buf i := by
  induction stores generalizing buf with
  | nil => rfl
  | cons store stores ih =>
      rw [List.forall_mem_cons] at behind
      have inside := behind.1.2
      have later := @ih (overwrite buf store.1 store.2) (by
        rw [overwrite_length inside]
        exact behind.2)
      rw [storeAll, List.foldl_cons]
      exact later.trans (rd32le_overwrite inside (.inl behind.1.1))

/-- The type and the request id of a message. -/
theorem message_header {type requestId : UInt32} {total : Nat} {more : List (Nat × Bytes)}
    (long : 12 ≤ total)
    (behind : ∀ store ∈ more, 12 ≤ store.1 ∧ store.1 + store.2.length ≤ total) :
    rd32le (Built.message ⟨header type total requestId ++ more, total⟩) 0 = type ∧
      rd32le (Built.message ⟨header type total requestId ++ more, total⟩) 8 = requestId := by
  have sized (word : UInt32) (off : Nat) (within : off + 4 ≤ total) {buf : Bytes}
      (whole : buf.length = total) : (overwrite buf off (le32 word)).length = total := by
    rw [overwrite_length (by rw [le32_length, whole]; exact within), whole]
  have cleared : (overwrite (zeros total) 0 (zeros total)).length = total := by
    rw [overwrite_length (by rw [zeros_length]; omega), zeros_length]
  have typed := sized type 0 (by omega) cleared
  have lengthed := sized (UInt32.ofNat total) 4 (by omega) typed
  have numbered := sized requestId 8 (by omega) lengthed
  have unchanged (i : Nat) (early : i + 4 ≤ 12) := @rd32le_storeAll more _ i (fun store mem => by
    have here := behind store mem
    rw [← numbered] at here
    exact ⟨Nat.le_trans early here.1, here.2⟩)
  have split : Built.message ⟨header type total requestId ++ more, total⟩ =
      storeAll more (overwrite (overwrite (overwrite (overwrite (zeros total) 0 (zeros total)) 0
        (le32 type)) 4 (le32 (UInt32.ofNat total))) 8 (le32 requestId)) := by
    rw [Built.message, storeAll, List.foldl_append]
    rfl
  rw [split, unchanged 0 (by decide), unchanged 8 (by decide)]
  constructor
  · rw [rd32le_overwrite (by rw [lengthed, le32_length]; omega) (.inl (by decide)),
      rd32le_overwrite (by rw [typed, le32_length]; omega) (.inl (by decide)),
      rd32le_wr32le _ (by rw [cleared]; omega)]
  · exact rd32le_wr32le _ (by rw [lengthed]; omega)

end WiredTethering.Rndis
