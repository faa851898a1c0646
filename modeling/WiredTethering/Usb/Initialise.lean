import WiredTethering.Usb.Dialogue

/-!
# Initialisation against every device

Request ids run through the nonzero words, so one comes back after `2 ^ 32 - 1`
requests.  The invariant of a session numbers its requests, and says of every returned
reply that it carries the id of the last request.
-/

namespace WiredTethering.Usb

open WiredTethering.Memory
open WiredTethering.Common
open WiredTethering.Rndis

/-! ## Request ids -/

/-- The id of the `n`-th request, counted from 1; before the first one it is that of
`at_usb_open`. -/
def xidAt (n : Nat) : UInt32 :=
  UInt32.ofNat (n % (2 ^ 32 - 1) + 1)

theorem xidAt_toNat (n : Nat) : (xidAt n).toNat = n % (2 ^ 32 - 1) + 1 := by
  have small := Nat.mod_lt n (show 0 < 2 ^ 32 - 1 by decide)
  rw [xidAt, UInt32.toNat_ofNat']
  exact Nat.mod_eq_of_lt (by omega)

theorem nextXid_xidAt (n : Nat) : nextXid (xidAt n) = xidAt (n + 1) := by
  have small := Nat.mod_lt n (show 0 < 2 ^ 32 - 1 by decide)
  have here := xidAt_toNat n
  have there := xidAt_toNat (n + 1)
  have sum : (xidAt n + 1).toNat = (n % (2 ^ 32 - 1) + 1 + 1) % 2 ^ 32 := by
    rw [UInt32.toNat_add, here]
    rfl
  apply UInt32.toNat.inj
  rw [nextXid]
  split
  · rename_i wrapped
    have zero := congrArg UInt32.toNat wrapped
    rw [sum, UInt32.toNat_zero] at zero
    rw [there, UInt32.toNat_one]
    omega
  · rename_i unwrapped
    have some_ : (xidAt n + 1).toNat ≠ 0 := fun zero => unwrapped (UInt32.toNat.inj zero)
    rw [sum] at some_
    rw [sum, there]
    omega

/-- Ids that are fewer than `2 ^ 32 - 1` requests apart differ. -/
theorem xidAt_ne {i j : Nat} (before : i < j) (near : j - i ≤ 2 ^ 32 - 2) :
    xidAt i ≠ xidAt j := by
  intro same
  have value := congrArg UInt32.toNat same
  rw [xidAt_toNat, xidAt_toNat] at value
  omega

/-- The ids of the first `n` requests. -/
def issued (n : Nat) : List UInt32 :=
  (List.range n).map fun k => xidAt (k + 1)

theorem issued_succ (n : Nat) : issued (n + 1) = issued n ++ [xidAt (n + 1)] := by
  rw [issued, List.range_succ, List.map_append]
  rfl

theorem length_issued (n : Nat) : (issued n).length = n := by
  rw [issued, List.length_map, List.length_range]

/-- A front part of the ids is the ids of fewer requests. -/
theorem eq_issued_of_append {front back : List UInt32} {n : Nat}
    (split : issued n = front ++ back) : front = issued front.length := by
  have short : front.length ≤ n := by
    have length := congrArg List.length split
    rw [length_issued, List.length_append] at length
    omega
  have taken := congrArg (List.take front.length) split
  rw [List.take_left, issued, ← List.map_take, List.take_range, Nat.min_eq_left short] at taken
  exact taken.symm

/-- The last id is none of the `2 ^ 32 - 2` before it. -/
theorem xidAt_notMem_recent (n : Nat) :
    xidAt (n + 1) ∉ (issued n).reverse.take (2 ^ 32 - 2) := by
  intro mem
  obtain ⟨i, inside, found⟩ := List.mem_iff_getElem.mp mem
  rw [List.length_take, List.length_reverse, length_issued] at inside
  simp only [issued, List.getElem_take, List.getElem_reverse, List.getElem_map,
    List.getElem_range, List.length_map, List.length_range] at found
  exact xidAt_ne (by omega) (by omega) found

/-! ## What a session keeps -/

/-- Every returned reply carries the id of the last request. -/
def Returned (trace : List Event) : Prop :=
  ∀ front id reply back, trace = front ++ .returned id reply :: back →
    (requests front).getLast? = some id ∧ rd32le reply 8 = id

/-- The limits are in their ranges. -/
def InRange (u : UsbRndis) : Prop :=
  (1024 ≤ u.maxXfer ∧ u.maxXfer ≤ 16384) ∧ (1 ≤ u.maxPackets ∧ u.maxPackets ≤ 32) ∧
    2 ≤ u.packetAlignShift ∧ u.packetAlignShift ≤ 8

structure Kept (u : UsbRndis) : Prop where
  numbered : ∃ n, requests u.trace = issued n ∧ u.xid = xidAt n
  returned : Returned u.trace
  answered : Answered u.trace
  limits : InRange u

theorem Polled.own_of_mem {id request : UInt32} {result : Option Bytes} {reply : Bytes}
    {events : List Event} (polled : Polled id result events)
    (mem : .returned request reply ∈ events) : request = id ∧ rd32le reply 8 = id := by
  induction polled with
  | stop => cases mem
  | failed _ ih =>
      rcases List.mem_cons.mp mem with never | mem
      · cases never
      · exact ih mem
  | skipped _ _ ih =>
      rcases List.mem_cons.mp mem with never | mem
      · cases never
      · exact ih mem
  | keepalive _ _ ih =>
      rcases List.mem_cons.mp mem with never | mem
      · cases never
      · rcases List.mem_cons.mp mem with never | mem
        · cases never
        · exact ih mem
  | reply _ own =>
      rcases List.mem_cons.mp mem with never | mem
      · cases never
      · cases List.mem_singleton.mp mem
        exact ⟨rfl, own⟩

theorem Returned.exchange {trace events : List Event} {message : Bytes} {id : UInt32}
    {reply : Option Bytes} (returned : Returned trace) (request : IsRequest message id)
    (sent : Bool) (polled : Polled id reply events) :
    Returned (trace ++ .out message sent :: events) := by
  intro front last found back split
  rcases List.append_eq_append_iff.mp split with ⟨more, rfl, rest⟩ | ⟨more, old, rest⟩
  · cases more with
    | nil => cases rest
    | cons head more =>
        rw [List.cons_append, List.cons.injEq] at rest
        obtain ⟨rfl, rest⟩ := rest
        have none_ := polled.requests_eq_nil
        rw [rest, requests_append, List.append_eq_nil_iff] at none_
        obtain ⟨rfl, own⟩ := polled.own_of_mem (show .returned last found ∈ events by
          rw [rest]
          exact List.mem_append_right _ (List.mem_cons_self ..))
        rw [requests_append, request_cons request, none_.1]
        exact ⟨List.getLast?_concat, own⟩
  · cases more with
    | nil => cases rest
    | cons head more =>
        rw [List.cons_append, List.cons.injEq] at rest
        obtain ⟨rfl, -⟩ := rest
        exact returned front last found more old

/-- A request keeps the invariant. -/
theorem Kept.exchange {u v : UsbRndis} {message : UInt32 → Bytes} {reply : Option Bytes}
    (kept : Kept u) (request : ∀ id, IsRequest (message id) id)
    (exchanged : Exchanged u message reply v) : Kept v := by
  obtain ⟨sent, events, rfl, polled⟩ := exchanged
  have made := request (nextXid u.xid)
  obtain ⟨n, ids, xid⟩ := kept.numbered
  constructor
  · refine ⟨n + 1, ?_, ?_⟩
    · rw [requests_append, request_cons made, polled.requests_eq_nil, ids, xid, nextXid_xidAt,
        issued_succ]
    · rw [← nextXid_xidAt, ← xid]
  · exact kept.returned.exchange made sent polled
  · exact kept.answered.append (.request made.1 polled.answered)
  · exact kept.limits

/-! ## The requests of the host -/

def initializeMessage (id : UInt32) : Bytes :=
  (rndisBuildInitialize controlBuf id maxTransfer).message

def queryMessage (oid : UInt32) (input : Option Bytes) (inLen id : UInt32) : Bytes :=
  (rndisBuildQuery controlBuf id oid input inLen).message

def filterMessage (id : UInt32) : Bytes :=
  (rndisBuildSet controlBuf id oidGenCurrentPacketFilter (le32 defaultFilter) 4).message

theorem isRequest_header {type id : UInt32} {total : Nat} {more : List (Nat × Bytes)}
    (other : type ≠ msgKeepaliveCmplt) (long : 12 ≤ total)
    (behind : ∀ store ∈ more, 12 ≤ store.1 ∧ store.1 + store.2.length ≤ total) :
    IsRequest (Built.message ⟨header type total id ++ more, total⟩) id := by
  obtain ⟨typed, numbered⟩ := @message_header type id total more long behind
  constructor
  · rw [typed]
    exact other
  · exact numbered

theorem initializeMessage_isRequest (id : UInt32) : IsRequest (initializeMessage id) id :=
  @isRequest_header msgInitialize id initializeLen
    [(12, le32 1), (16, le32 0), (20, le32 maxTransfer)] (by decide) (by decide) (by decide)

theorem filterMessage_isRequest (id : UInt32) : IsRequest (filterMessage id) id :=
  @isRequest_header msgSet id 32
    [(12, le32 oidGenCurrentPacketFilter), (16, le32 4), (20, le32 20), (24, le32 0),
      (28, (le32 defaultFilter).take 4)] (by decide) (by decide) (by decide)

theorem macMessage_isRequest (oid id : UInt32) :
    IsRequest (queryMessage oid (some (zeros 48)) 48 id) id := by
  apply @isRequest_header msgQuery id 76
    [(12, le32 oid), (16, le32 48), (20, le32 20), (24, le32 0), (28, (zeros 48).take 48)]
    (by decide) (by decide)
  simp [zeros]

theorem wordMessage_isRequest (oid id : UInt32) : IsRequest (queryMessage oid none 0 id) id := by
  apply @isRequest_header msgQuery id 28
    [(12, le32 oid), (16, le32 0), (20, le32 0), (24, le32 0)] (by decide) (by decide)
  simp

variable (device : Device)

theorem requestInitialize_exchanged (u : UsbRndis) :
    ∃ reply, Exchanged u initializeMessage reply (requestInitialize device u).2 ∧
      (requestInitialize device u).1 = reply.bind fun resp =>
        (rndisParseInitializeCmplt resp (nextXid u.xid)).toOption :=
  ⟨_, rndisRpc_exchanged device u initializeMessage, rfl⟩

theorem queryOid_exchanged (u : UsbRndis) (oid : UInt32) (input : Option Bytes)
    (inLen : UInt32) :
    ∃ reply, Exchanged u (queryMessage oid input inLen) reply
        (queryOid device u oid input inLen).2 ∧
      (queryOid device u oid input inLen).1 = reply.bind fun resp =>
        (rndisParseQueryCmplt resp (nextXid u.xid)).toOption.map fun (start, ilen) =>
          (resp.drop start, ilen) :=
  ⟨_, rndisRpc_exchanged device u (queryMessage oid input inLen), rfl⟩

theorem setPacketFilter_exchanged (u : UsbRndis) :
    ∃ reply, Exchanged u filterMessage reply (setPacketFilter device u).2 ∧
      ((setPacketFilter device u).1 = true →
        ∃ resp, reply = some resp ∧ rndisParseSetCmplt resp (nextXid u.xid) = 0) := by
  refine ⟨_, rndisRpc_exchanged device u filterMessage, ?_⟩
  intro filtered
  simp only [setPacketFilter] at filtered
  split at filtered
  · rename_i resp replied
    exact ⟨resp, replied, of_decide_eq_true filtered⟩
  · cases filtered

/-! ## The invariant along the calls -/

theorem atUsbOpen_kept : Kept atUsbOpen where
  numbered := ⟨0, rfl, rfl⟩
  returned := by
    intro front id reply back split
    cases front <;> cases split
  answered := .nil
  limits := ⟨⟨by decide, by decide⟩, ⟨by decide, by decide⟩, by decide, by decide⟩

theorem adopt_inRange {u : UsbRndis} (limits : InRange u) (init : RndisInitResult) :
    InRange (adopt u init) := by
  obtain ⟨⟨lowXfer, highXfer⟩, -, -⟩ := limits
  have positive (packets : UInt32) (some_ : packets ≠ 0) : 1 ≤ packets := by
    rw [UInt32.le_iff_toNat_le]
    exact Nat.pos_of_ne_zero fun zero => some_ (UInt32.toNat.inj zero)
  simp only [adopt, InRange]
  refine ⟨⟨?_, ?_⟩, ⟨?_, ?_⟩, ?_, ?_⟩
  · by_cases accepted : 1024 ≤ init.maxTransferSize ∧ init.maxTransferSize ≤ maxTransfer
    · rw [if_pos accepted]
      exact accepted.1
    · rw [if_neg accepted]
      exact lowXfer
  · by_cases accepted : 1024 ≤ init.maxTransferSize ∧ init.maxTransferSize ≤ maxTransfer
    · rw [if_pos accepted]
      exact accepted.2
    · rw [if_neg accepted]
      exact highXfer
  · split_ifs <;> first | decide | exact positive _ ‹_›
  · split_ifs <;> first | decide | exact UInt32.not_lt.mp ‹_›
  · split_ifs <;> first | decide | exact UInt32.not_lt.mp ‹_›
  · split_ifs <;> first | decide | exact UInt32.not_lt.mp ‹_›

theorem requestInitialize_kept {u : UsbRndis} (kept : Kept u) :
    Kept (requestInitialize device u).2 := by
  obtain ⟨_, exchanged, -⟩ := requestInitialize_exchanged device u
  exact kept.exchange initializeMessage_isRequest exchanged

/-- A property that the queries of an initialisation keep, and the writes of their results. -/
structure KeptByQueries (device : Device) (Holds : UsbRndis → Prop) : Prop where
  mac : ∀ u oid, Holds u → Holds (queryOid device u oid (some (zeros 48)) 48).2
  word : ∀ u oid, Holds u → Holds (queryOid device u oid none 0).2
  linkSpeed : ∀ u mbps, Holds u → Holds { u with rndisLinkMbps := mbps }
  frameSize : ∀ u frame, Holds u → Holds { u with maxFrame := frame }

namespace KeptByQueries

variable {device : Device} {Holds : UsbRndis → Prop} {u : UsbRndis}

theorem queryMac (kept : KeptByQueries device Holds) (oids : List UInt32) (holds : Holds u) :
    Holds (Usb.queryMac device oids u).2 := by
  induction oids generalizing u with
  | nil => exact holds
  | cons oid oids ih =>
      have asked := kept.mac u oid holds
      rw [Usb.queryMac]
      split
      · rename_i info ilen v found
        rw [found] at asked
        split
        · exact asked
        · exact ih asked
      · rename_i v found
        rw [found] at asked
        exact ih asked

theorem queryWord (kept : KeptByQueries device Holds) (oid : UInt32) (holds : Holds u) :
    Holds (Usb.queryWord device u oid).2 := by
  have asked := kept.word u oid holds
  rw [Usb.queryWord]
  split
  · rename_i info ilen v found
    rw [found] at asked
    exact asked
  · rename_i v found
    rw [found] at asked
    exact asked

theorem queryLinkSpeed (kept : KeptByQueries device Holds) (holds : Holds u) :
    Holds (Usb.queryLinkSpeed device u) := by
  have asked := kept.queryWord oidGenLinkSpeed holds
  rw [Usb.queryLinkSpeed]
  split
  · rename_i speed100 v found
    rw [found] at asked
    split
    · exact kept.linkSpeed v _ asked
    · exact asked
  · rename_i v found
    rw [found] at asked
    exact asked

theorem queryMaximumFrameSize (kept : KeptByQueries device Holds) (holds : Holds u) :
    Holds (Usb.queryMaximumFrameSize device u) := by
  have asked := kept.queryWord oidGenMaximumFrameSize holds
  rw [Usb.queryMaximumFrameSize]
  split
  · rename_i frame v found
    rw [found] at asked
    exact kept.frameSize v frame asked
  · rename_i v found
    rw [found] at asked
    exact asked

end KeptByQueries

theorem kept_keptByQueries : KeptByQueries device Kept where
  mac := by
    intro u oid kept
    obtain ⟨_, exchanged, -⟩ := queryOid_exchanged device u oid (some (zeros 48)) 48
    exact kept.exchange (macMessage_isRequest oid) exchanged
  word := by
    intro u oid kept
    obtain ⟨_, exchanged, -⟩ := queryOid_exchanged device u oid none 0
    exact kept.exchange (wordMessage_isRequest oid) exchanged
  linkSpeed := fun _ _ kept => ⟨kept.numbered, kept.returned, kept.answered, kept.limits⟩
  frameSize := fun _ _ kept => ⟨kept.numbered, kept.returned, kept.answered, kept.limits⟩

/-- The state in which the packet filter is requested. -/
def beforeFilter (device : Device) (u : UsbRndis) : UsbRndis :=
  queryMaximumFrameSize device (queryLinkSpeed device (queryMac device macOids u).2)

theorem beforeFilter_kept {u : UsbRndis} (kept : Kept u) : Kept (beforeFilter device u) := by
  have queries := kept_keptByQueries device
  exact queries.queryMaximumFrameSize (queries.queryLinkSpeed (queries.queryMac macOids kept))

/-- What an initialisation does. -/
theorem atUsbRndisInit_cases (u : UsbRndis) :
    atUsbRndisInit device u = (⟨-1, none, none⟩, u) ∨
      ((requestInitialize device u).1 = none ∧
        atUsbRndisInit device u = (⟨-1, none, none⟩, (requestInitialize device u).2)) ∨
      ∃ init v, requestInitialize device u = (some init, v) ∧
        atUsbRndisInit device u =
          (⟨if (setPacketFilter device (beforeFilter device (adopt v init))).1 then 0 else -1,
              some ((queryMac device macOids (adopt v init)).1.getD fallbackMac), some init⟩,
            (setPacketFilter device (beforeFilter device (adopt v init))).2) := by
  by_cases opened : u.opened = true
  · right
    have proceeds : (!u.opened) ≠ true := by rw [opened]; decide
    rw [atUsbRndisInit, if_neg proceeds]
    cases found : requestInitialize device u with
    | mk init v =>
        cases init with
        | none => exact .inl ⟨rfl, rfl⟩
        | some init => exact .inr ⟨init, v, rfl, rfl⟩
  · left
    have refused : (!u.opened) = true := by
      rw [Bool.not_eq_true] at opened
      rw [opened]
      rfl
    rw [atUsbRndisInit, if_pos refused]

theorem atUsbRndisInit_kept {u : UsbRndis} (kept : Kept u) : Kept (atUsbRndisInit device u).2 := by
  have asked := requestInitialize_kept device kept
  rcases atUsbRndisInit_cases device u with same | ⟨-, same⟩ | ⟨init, v, found, same⟩
  · rw [same]
    exact kept
  · rw [same]
    exact asked
  · rw [found] at asked
    have adopted : Kept (adopt v init) :=
      ⟨asked.numbered, asked.returned, asked.answered, adopt_inRange asked.limits init⟩
    obtain ⟨_, exchanged, -⟩ :=
      setPacketFilter_exchanged device (beforeFilter device (adopt v init))
    rw [same]
    exact (beforeFilter_kept device adopted).exchange filterMessage_isRequest exchanged

theorem keepaliveMessage_isRequest (id : UInt32) :
    IsRequest (rndisBuildKeepalive 16 id).message id :=
  @isRequest_header msgKeepalive id 16 [] (by decide) (by decide) (by decide)

theorem haltMessage_isRequest (id : UInt32) : IsRequest (rndisBuildHalt 16 id).message id :=
  @isRequest_header msgHalt id 12 [] (by decide) (by decide) (by decide)

/-- Events that neither request nor return anything keep the invariant. -/
theorem Kept.record {u : UsbRndis} {events : List Event} (kept : Kept u)
    (answered : Answered events) (silent : requests events = [])
    (unreturned : ∀ id reply, .returned id reply ∉ events) : Kept (u.record events) := by
  constructor
  · rw [record_trace, requests_append, silent, List.append_nil]
    exact kept.numbered
  · intro front id reply back split
    rcases List.append_eq_append_iff.mp split with ⟨more, rfl, rest⟩ | ⟨more, old, rest⟩
    · exact absurd (by rw [rest]; simp) (unreturned id reply)
    · cases more with
      | nil => exact absurd (by rw [← List.nil_append events, ← rest]; simp) (unreturned id reply)
      | cons head more =>
          rw [List.cons_append, List.cons.injEq] at rest
          obtain ⟨rfl, -⟩ := rest
          exact kept.returned front id reply more old
  · exact kept.answered.append answered
  · exact kept.limits

theorem atUsbHandleControlEvents_kept {u : UsbRndis} (kept : Kept u) :
    Kept (atUsbHandleControlEvents device u) := by
  have read : controlIn device u controlBuf =
      ((controlIn device u controlBuf).1,
        u.record [.read (controlIn device u controlBuf).1]) := rfl
  rw [atUsbHandleControlEvents, read]
  generalize (controlIn device u controlBuf).1 = received
  cases received with
  | none => exact kept.record (.failed .nil) rfl (by simp)
  | some resp =>
      dsimp only
      split_ifs with short keepalive
      · have other : ¬ IsKeepalive resp := fun h => absurd h.1 (Nat.not_le.mpr short)
        exact kept.record (.skipped other .nil) rfl (by simp)
      · have alive : IsKeepalive resp := ⟨Nat.le_of_not_lt short, keepalive⟩
        have answer : (controlOut device (u.record [.read (some resp)])
            (keepaliveAnswer (requestIdOf resp))).2 =
              (u.record [.read (some resp)]).record
                [.out (keepaliveAnswer (requestIdOf resp))
                  (controlOut device (u.record [.read (some resp)])
                    (keepaliveAnswer (requestIdOf resp))).1] := rfl
        rw [answer, record_record]
        generalize (controlOut device (u.record [.read (some resp)])
          (keepaliveAnswer (requestIdOf resp))).1 = sent
        have polled : Polled 1 none
            [.read (some resp), .out (keepaliveAnswer (requestIdOf resp)) sent] :=
          .keepalive alive .stop
        exact kept.record polled.answered polled.requests_eq_nil (by simp)
      · have other : ¬ IsKeepalive resp := fun h => keepalive h.2
        exact kept.record (.skipped other .nil) rfl (by simp)

theorem call_kept {u : UsbRndis} (kept : Kept u) (c : Call) : Kept (call device u c) := by
  cases c with
  | init => exact atUsbRndisInit_kept device kept
  | halt gone =>
      rw [call, atUsbRndisHalt]
      split_ifs
      · exact kept
      · exact kept
      · have asked : Exchanged u (fun id => (rndisBuildHalt 16 id).message) none
            (controlOut device { u with xid := nextXid u.xid }
              (rndisBuildHalt 16 (nextXid u.xid)).message).2 :=
          ⟨_, [], rfl, .stop⟩
        exact kept.exchange haltMessage_isRequest asked
  | keepalive =>
      exact kept.exchange keepaliveMessage_isRequest
        (rndisRpc_exchanged device u fun id => (rndisBuildKeepalive 16 id).message)
  | controlEvents => exact atUsbHandleControlEvents_kept device kept

/-- The invariant holds after every sequence of calls. -/
theorem session_kept (calls : List Call) : Kept (session device calls) := by
  have from_ : ∀ u, Kept u → Kept (calls.foldl (call device) u) := by
    induction calls with
    | nil => exact fun u kept => kept
    | cons c calls ih => exact fun u kept => ih _ (call_kept device kept c)
  exact from_ atUsbOpen atUsbOpen_kept

/-! ## Completed requests -/

/-- `v` is reached from `u` with more events. -/
def Extends (u v : UsbRndis) : Prop :=
  ∃ events, v.trace = u.trace ++ events

theorem Extends.refl (u : UsbRndis) : Extends u u :=
  ⟨[], (List.append_nil _).symm⟩

theorem Extends.trans {u v w : UsbRndis} (first : Extends u v) (second : Extends v w) :
    Extends u w := by
  obtain ⟨one, uv⟩ := first
  obtain ⟨two, vw⟩ := second
  exact ⟨one ++ two, by rw [vw, uv, List.append_assoc]⟩

theorem Exchanged.extends {u v : UsbRndis} {message : UInt32 → Bytes} {reply : Option Bytes}
    (exchanged : Exchanged u message reply v) : Extends u v := by
  obtain ⟨_, _, rfl, -⟩ := exchanged
  exact ⟨_, rfl⟩

theorem extends_keptByQueries (u : UsbRndis) : KeptByQueries device (Extends u) where
  mac := by
    intro v oid reached
    obtain ⟨_, exchanged, -⟩ := queryOid_exchanged device v oid (some (zeros 48)) 48
    exact reached.trans exchanged.extends
  word := by
    intro v oid reached
    obtain ⟨_, exchanged, -⟩ := queryOid_exchanged device v oid none 0
    exact reached.trans exchanged.extends
  linkSpeed := fun _ _ reached => reached
  frameSize := fun _ _ reached => reached

/-- The events of a request that the device has completed: its message, polls, and at
last the reply, which is a completion with the id of the message. -/
def Completed (message : UInt32 → Bytes) (type : UInt32) (reply : Bytes) (events : List Event) :
    Prop :=
  ∃ id sent polls,
    events = .out (message id) sent :: (polls ++ [.read (some reply), .returned id reply]) ∧
      IsCompletion reply type id

theorem Exchanged.completed {u v : UsbRndis} {message : UInt32 → Bytes} {reply : Bytes}
    {type : UInt32} (exchanged : Exchanged u message (some reply) v)
    (completion : IsCompletion reply type (nextXid u.xid)) :
    ∃ events, v.trace = u.trace ++ events ∧ Completed message type reply events := by
  obtain ⟨sent, events, rfl, polled⟩ := exchanged
  obtain ⟨polls, rfl, -⟩ := polled.ends
  exact ⟨_, rfl, nextXid u.xid, sent, polls, rfl, completion⟩

theorem toOption_eq_some {ε α : Type} {result : Except ε α} {value : α}
    (some_ : result.toOption = some value) : result = .ok value := by
  cases result with
  | error _ => cases some_
  | ok found =>
      cases some_
      rfl

theorem requestInitialize_completed {u v : UsbRndis} {init : RndisInitResult}
    (done : requestInitialize device u = (some init, v)) :
    ∃ events reply, v.trace = u.trace ++ events ∧
      Completed initializeMessage msgInitializeCmplt reply events := by
  obtain ⟨reply, exchanged, parsed⟩ := requestInitialize_exchanged device u
  rw [done] at exchanged parsed
  obtain ⟨resp, rfl, ok⟩ := Option.bind_eq_some_iff.mp parsed.symm
  have completion := rndisParseInitializeCmplt_ok (toOption_eq_some ok)
  obtain ⟨events, trace, completed⟩ := exchanged.completed completion
  exact ⟨events, resp, trace, completed⟩

/-- The address that the information buffer of a reply begins with; the buffer is inside
the reply. -/
def IsMacOf (mac : Mac) (reply : Bytes) : Prop :=
  6 ≤ rd32le reply 16 ∧
    offsetBase + (rd32le reply 20).toNat + (rd32le reply 16).toNat ≤ reply.length ∧
      mac = macAt reply (offsetBase + (rd32le reply 20).toNat)

theorem macAt_drop (buf : Bytes) (start : Nat) : macAt (buf.drop start) 0 = macAt buf start := by
  simp only [macAt, byteAt_drop, Nat.zero_add]

theorem queryMac_completed {oids : List UInt32} {u v : UsbRndis} {mac : Mac}
    (found : queryMac device oids u = (some mac, v)) :
    ∃ oid ∈ oids, ∃ front events reply, v.trace = u.trace ++ front ++ events ∧
      Completed (queryMessage oid (some (zeros 48)) 48) msgQueryCmplt reply events ∧
        IsMacOf mac reply := by
  induction oids generalizing u with
  | nil => cases found
  | cons oid oids ih =>
      obtain ⟨reply, exchanged, parsed⟩ := queryOid_exchanged device u oid (some (zeros 48)) 48
      rw [queryMac] at found
      -- what the later ids find is found behind this request
      have later : ∀ w, Extends u w → queryMac device oids w = (some mac, v) →
          ∃ oid' ∈ oid :: oids, ∃ front events reply, v.trace = u.trace ++ front ++ events ∧
            Completed (queryMessage oid' (some (zeros 48)) 48) msgQueryCmplt reply events ∧
              IsMacOf mac reply := by
        rintro w ⟨asked, uw⟩ rest
        obtain ⟨oid', mem, front, events, reply, trace, completed, isMac⟩ := ih rest
        refine ⟨oid', List.mem_cons_of_mem _ mem, asked ++ front, events, reply, ?_, completed,
          isMac⟩
        rw [trace, uw, List.append_assoc u.trace]
      split at found
      · rename_i info ilen w asked
        rw [asked] at exchanged parsed
        split at found
        · rename_i long
          cases found
          obtain ⟨resp, rfl, mapped⟩ := Option.bind_eq_some_iff.mp parsed.symm
          obtain ⟨⟨start, len⟩, ok, same⟩ := Option.map_eq_some_iff.mp mapped
          cases same
          obtain ⟨completion, rfl, rfl, inside⟩ := rndisParseQueryCmplt_ok (toOption_eq_some ok)
          obtain ⟨events, trace, completed⟩ := exchanged.completed completion
          refine ⟨oid, List.mem_cons_self .., [], events, resp, ?_, completed, long, inside,
            macAt_drop _ _⟩
          rw [trace, List.append_nil]
        · exact later w exchanged.extends found
      · rename_i w asked
        rw [asked] at exchanged
        exact later w exchanged.extends found

theorem setPacketFilter_completed {u : UsbRndis}
    (filtered : (setPacketFilter device u).1 = true) :
    ∃ events reply, (setPacketFilter device u).2.trace = u.trace ++ events ∧
      Completed filterMessage msgSetCmplt reply events := by
  obtain ⟨reply, exchanged, accepted⟩ := setPacketFilter_exchanged device u
  obtain ⟨resp, rfl, parsed⟩ := accepted filtered
  have completion := checkCmpltHeader_eq_zero_iff.mp parsed
  obtain ⟨events, trace, completed⟩ := exchanged.completed completion
  exact ⟨events, resp, trace, completed⟩

/-! ## Initialisation -/

theorem beforeFilter_trace (u : UsbRndis) :
    ∃ events, (beforeFilter device u).trace = (queryMac device macOids u).2.trace ++ events := by
  have queries := extends_keptByQueries device (queryMac device macOids u).2
  exact queries.queryMaximumFrameSize (queries.queryLinkSpeed (.refl _))

/-- A returned reply carries the id of its own request, which none of the recent ones
has. -/
theorem Kept.fresh {u : UsbRndis} (kept : Kept u) {front back : List Event} {id : UInt32}
    {reply : Bytes} (split : u.trace = front ++ .returned id reply :: back) :
    ∃ earlier, requests front = earlier ++ [id] ∧ rd32le reply 8 = id ∧
      ∀ old ∈ earlier.reverse.take (2 ^ 32 - 2), rd32le reply 8 ≠ old := by
  obtain ⟨last, own⟩ := kept.returned front id reply back split
  obtain ⟨n, ids, -⟩ := kept.numbered
  rw [split, requests_append] at ids
  have numbered := eq_issued_of_append ids.symm
  obtain ⟨earlier, shape⟩ := List.getLast?_eq_some_iff.mp last
  rw [shape, List.length_append, List.length_singleton, issued_succ] at numbered
  obtain ⟨same, id_⟩ := List.append_inj' numbered rfl
  refine ⟨earlier, shape, own, ?_⟩
  rintro old mem rfl
  apply xidAt_notMem_recent earlier.length
  rw [← same, ← (List.cons.inj id_).1, ← own]
  exact mem

/-- What an initialisation guarantees, whatever the device does. -/
structure InitSound (u : UsbRndis) : Prop where
  /-- It returns 0 only behind two completed requests. -/
  completions : (atUsbRndisInit device u).1.rc = 0 →
    ∃ first middle last initReply setReply,
      (atUsbRndisInit device u).2.trace = u.trace ++ first ++ middle ++ last ∧
        Completed initializeMessage msgInitializeCmplt initReply first ∧
        Completed filterMessage msgSetCmplt setReply last
  /-- A `KEEPALIVE` is answered at once. -/
  answered : ∀ front resp back,
    (atUsbRndisInit device u).2.trace = front ++ .read (some resp) :: back → IsKeepalive resp →
      ∃ message sent rest, back = .out message sent :: rest ∧ IsAnswer message resp
  /-- There are no other answers. -/
  once : List.Forall₂ IsAnswer (answers (atUsbRndisInit device u).2.trace)
    (keepalives (atUsbRndisInit device u).2.trace)
  /-- No reply to an earlier request is returned. -/
  fresh : ∀ front id reply back,
    (atUsbRndisInit device u).2.trace = front ++ .returned id reply :: back →
      ∃ earlier, requests front = earlier ++ [id] ∧ rd32le reply 8 = id ∧
        ∀ old ∈ earlier.reverse.take (2 ^ 32 - 2), rd32le reply 8 ≠ old
  limits : InRange (atUsbRndisInit device u).2
  unchanged : (atUsbRndisInit device u).1.initOut = none →
    (atUsbRndisInit device u).2.maxXfer = u.maxXfer ∧
      (atUsbRndisInit device u).2.maxPackets = u.maxPackets ∧
      (atUsbRndisInit device u).2.packetAlignShift = u.packetAlignShift
  /-- The address is that of a completed query of this initialisation, or the fallback. -/
  mac : ∀ mac, (atUsbRndisInit device u).1.macOut = some mac → mac = fallbackMac ∨
    ∃ oid ∈ macOids, ∃ front events back reply,
      (atUsbRndisInit device u).2.trace = u.trace ++ front ++ events ++ back ∧
        Completed (queryMessage oid (some (zeros 48)) 48) msgQueryCmplt reply events ∧
        IsMacOf mac reply

theorem init_completions {u : UsbRndis} (success : (atUsbRndisInit device u).1.rc = 0) :
    ∃ first middle last initReply setReply,
      (atUsbRndisInit device u).2.trace = u.trace ++ first ++ middle ++ last ∧
        Completed initializeMessage msgInitializeCmplt initReply first ∧
        Completed filterMessage msgSetCmplt setReply last := by
  rcases atUsbRndisInit_cases device u with same | ⟨-, same⟩ | ⟨init, v, found, same⟩
  · rw [same] at success
    cases success
  · rw [same] at success
    cases success
  · rw [same] at success ⊢
    have filtered : (setPacketFilter device (beforeFilter device (adopt v init))).1 = true := by
      by_contra failed
      rw [if_neg failed] at success
      cases success
    obtain ⟨first, initReply, trace, initialized⟩ := requestInitialize_completed device found
    obtain ⟨macs, macTrace⟩ :=
      (extends_keptByQueries device (adopt v init)).queryMac macOids (.refl _)
    obtain ⟨words, wordTrace⟩ := beforeFilter_trace device (adopt v init)
    obtain ⟨last, setReply, lastTrace, filter⟩ := setPacketFilter_completed device filtered
    refine ⟨first, macs ++ words, last, initReply, setReply, ?_, initialized, filter⟩
    rw [lastTrace, wordTrace, macTrace, show (adopt v init).trace = v.trace from rfl, trace]
    simp only [List.append_assoc]

theorem init_unchanged {u : UsbRndis} (failed : (atUsbRndisInit device u).1.initOut = none) :
    (atUsbRndisInit device u).2.maxXfer = u.maxXfer ∧
      (atUsbRndisInit device u).2.maxPackets = u.maxPackets ∧
      (atUsbRndisInit device u).2.packetAlignShift = u.packetAlignShift := by
  rcases atUsbRndisInit_cases device u with same | ⟨-, same⟩ | ⟨init, v, -, same⟩
  · rw [same]
    exact ⟨rfl, rfl, rfl⟩
  · obtain ⟨_, ⟨_, _, state, -⟩, -⟩ := requestInitialize_exchanged device u
    rw [same, state]
    exact ⟨rfl, rfl, rfl⟩
  · rw [same] at failed
    cases failed

theorem init_mac {u : UsbRndis} {mac : Mac}
    (reported : (atUsbRndisInit device u).1.macOut = some mac) : mac = fallbackMac ∨
      ∃ oid ∈ macOids, ∃ front events back reply,
        (atUsbRndisInit device u).2.trace = u.trace ++ front ++ events ++ back ∧
          Completed (queryMessage oid (some (zeros 48)) 48) msgQueryCmplt reply events ∧
          IsMacOf mac reply := by
  rcases atUsbRndisInit_cases device u with same | ⟨-, same⟩ | ⟨init, v, asked, same⟩
  · rw [same] at reported
    cases reported
  · rw [same] at reported
    cases reported
  · rw [same] at reported ⊢
    have value := Option.some.inj reported
    cases found : queryMac device macOids (adopt v init) with
    | mk result w =>
        rw [found] at value
        cases result with
        | none => exact .inl value.symm
        | some address =>
            right
            obtain rfl : address = mac := value
            obtain ⟨initial, _, trace, -⟩ := requestInitialize_completed device asked
            obtain ⟨oid, mem, front, events, reply, macTrace, completed, isMac⟩ :=
              queryMac_completed device found
            obtain ⟨words, wordTrace⟩ := beforeFilter_trace device (adopt v init)
            obtain ⟨_, exchanged, -⟩ :=
              setPacketFilter_exchanged device (beforeFilter device (adopt v init))
            obtain ⟨last, lastTrace⟩ := exchanged.extends
            refine ⟨oid, mem, initial ++ front, events, words ++ last, reply, ?_, completed, isMac⟩
            rw [lastTrace, wordTrace, found, macTrace,
              show (adopt v init).trace = v.trace from rfl, trace]
            simp only [List.append_assoc]

/-- Initialisation is sound in every session with every device. -/
theorem usb_rndis_init_sound (calls : List Call) :
    InitSound device (session device calls) := by
  have kept := atUsbRndisInit_kept device (session_kept device calls)
  constructor
  · exact init_completions device
  · intro front resp back split alive
    exact kept.answered.next split alive
  · exact kept.answered.forall₂
  · intro front id reply back split
    exact kept.fresh split
  · exact kept.limits
  · exact init_unchanged device
  · intro mac reported
    exact init_mac device reported

end WiredTethering.Usb
