import WiredTethering.Usb.Control

/-!
# Requests and their polls

What a request of the host leaves in the trace: the OUT of its message and the reads of
the polling loop, with the answers to the keepalives among them.  The loop returns a
reply only if it carries the id of the request.
-/

namespace WiredTethering.Usb

open WiredTethering.Memory
open WiredTethering.Rndis

/-! ## Traces -/

/-- The device with more events behind it. -/
def UsbRndis.record (u : UsbRndis) (events : List Event) : UsbRndis :=
  { u with trace := u.trace ++ events }

@[simp]
theorem record_trace (u : UsbRndis) (events : List Event) :
    (u.record events).trace = u.trace ++ events :=
  rfl

theorem record_nil (u : UsbRndis) : u.record [] = u := by
  rw [UsbRndis.record, List.append_nil]

theorem record_record (u : UsbRndis) (first second : List Event) :
    (u.record first).record second = u.record (first ++ second) := by
  simp only [UsbRndis.record, List.append_assoc]

/-- A `KEEPALIVE` of the device. -/
def IsKeepalive (resp : Bytes) : Prop :=
  8 ≤ resp.length ∧ rd32le resp 0 = msgKeepalive

instance (resp : Bytes) : Decidable (IsKeepalive resp) :=
  inferInstanceAs (Decidable (_ ∧ _))

/-- A `KEEPALIVE` completion with the request id of `resp`. -/
def IsAnswer (message resp : Bytes) : Prop :=
  rd32le message 0 = msgKeepaliveCmplt ∧ rd32le message 8 = requestIdOf resp

/-- What the polls of the request `id` leave behind. -/
inductive Polled (id : UInt32) : Option Bytes → List Event → Prop
  | stop : Polled id none []
  | failed {reply : Option Bytes} {rest : List Event} :
      Polled id reply rest → Polled id reply (.read none :: rest)
  | skipped {resp : Bytes} {reply : Option Bytes} {rest : List Event} :
      ¬ IsKeepalive resp → Polled id reply rest → Polled id reply (.read (some resp) :: rest)
  | keepalive {resp : Bytes} {sent : Bool} {reply : Option Bytes} {rest : List Event} :
      IsKeepalive resp → Polled id reply rest →
        Polled id reply
          (.read (some resp) :: .out (keepaliveAnswer (requestIdOf resp)) sent :: rest)
  | reply {resp : Bytes} :
      ¬ IsKeepalive resp → rd32le resp 8 = id →
        Polled id (some resp) [.read (some resp), .returned id resp]

theorem requestIdOf_eq {resp : Bytes} {id : UInt32} (same : requestIdOf resp = id)
    (some_ : id ≠ 0) : rd32le resp 8 = id := by
  rw [requestIdOf] at same
  split at same
  · exact same
  · exact absurd same.symm some_

theorem rndisPoll_polled (device : Device) {id : UInt32} (some_ : id ≠ 0) (polls : Nat)
    (u : UsbRndis) :
    ∃ events, (rndisPoll device id polls u).2 = u.record events ∧
      Polled id (rndisPoll device id polls u).1 events := by
  induction polls generalizing u with
  | zero => exact ⟨[], (record_nil u).symm, .stop⟩
  | succ polls ih =>
      have read : controlIn device u controlBuf =
          ((controlIn device u controlBuf).1,
            u.record [.read (controlIn device u controlBuf).1]) := rfl
      rw [rndisPoll, read]
      generalize (controlIn device u controlBuf).1 = received
      cases received with
      | none =>
          obtain ⟨events, state, polled⟩ := ih (u.record [.read none])
          rw [record_record] at state
          exact ⟨_, state, .failed polled⟩
      | some resp =>
          obtain ⟨events, state, polled⟩ := ih (u.record [.read (some resp)])
          rw [record_record] at state
          dsimp only
          split_ifs with short keepalive status mine
          · have other : ¬ IsKeepalive resp := fun h => absurd h.1 (Nat.not_le.mpr short)
            exact ⟨_, state, .skipped other polled⟩
          · have alive : IsKeepalive resp := ⟨Nat.le_of_not_lt short, keepalive⟩
            have answer : controlOut device (u.record [.read (some resp)])
                (keepaliveAnswer (requestIdOf resp)) =
                  ((controlOut device (u.record [.read (some resp)])
                    (keepaliveAnswer (requestIdOf resp))).1,
                    (u.record [.read (some resp)]).record
                      [.out (keepaliveAnswer (requestIdOf resp))
                        (controlOut device (u.record [.read (some resp)])
                          (keepaliveAnswer (requestIdOf resp))).1]) := rfl
            rw [answer]
            generalize (controlOut device (u.record [.read (some resp)])
              (keepaliveAnswer (requestIdOf resp))).1 = sent
            obtain ⟨events, state, polled⟩ := ih ((u.record [.read (some resp)]).record
              [.out (keepaliveAnswer (requestIdOf resp)) sent])
            have whole : ((u.record [.read (some resp)]).record
                [.out (keepaliveAnswer (requestIdOf resp)) sent]).record events =
                  u.record (.read (some resp) ::
                    .out (keepaliveAnswer (requestIdOf resp)) sent :: events) := by
              rw [record_record, record_record]
              rfl
            exact ⟨_, state.trans whole, .keepalive alive polled⟩
          · exact ⟨_, state, .skipped (fun h => keepalive h.2) polled⟩
          · have own : rd32le resp 8 = id := by
              rcases mine with same | zero
              · exact requestIdOf_eq same some_
              · exact absurd zero some_
            exact ⟨_, record_record u [.read (some resp)] [.returned id resp],
              .reply (fun h => keepalive h.2) own⟩
          · exact ⟨_, state, .skipped (fun h => keepalive h.2) polled⟩

/-- The polls that return a reply end with it. -/
theorem Polled.ends {id : UInt32} {reply : Bytes} {events : List Event}
    (polled : Polled id (some reply) events) :
    ∃ front, events = front ++ [.read (some reply), .returned id reply] ∧
      rd32le reply 8 = id := by
  generalize found : some reply = result at polled
  induction polled with
  | stop => cases found
  | failed _ ih =>
      obtain ⟨front, rfl, own⟩ := ih found
      exact ⟨_ :: front, rfl, own⟩
  | skipped _ _ ih =>
      obtain ⟨front, rfl, own⟩ := ih found
      exact ⟨_ :: front, rfl, own⟩
  | keepalive _ _ ih =>
      obtain ⟨front, rfl, own⟩ := ih found
      exact ⟨_ :: _ :: front, rfl, own⟩
  | reply _ own =>
      cases found
      exact ⟨[], rfl, own⟩

/-! ## Requests -/

theorem nextXid_ne_zero (xid : UInt32) : nextXid xid ≠ 0 := by
  rw [nextXid]
  split
  · decide
  · assumption

/-- A request with the next id has been made, and `reply` is what it returned. -/
def Exchanged (u : UsbRndis) (message : UInt32 → Bytes) (reply : Option Bytes) (v : UsbRndis) :
    Prop :=
  ∃ sent events, v = { u with
      xid := nextXid u.xid
      trace := u.trace ++ .out (message (nextXid u.xid)) sent :: events } ∧
    Polled (nextXid u.xid) reply events

theorem rndisRpc_exchanged (device : Device) (u : UsbRndis) (message : UInt32 → Bytes) :
    Exchanged u message
      (rndisRpc device { u with xid := nextXid u.xid } (message (nextXid u.xid))
        (nextXid u.xid)).1
      (rndisRpc device { u with xid := nextXid u.xid } (message (nextXid u.xid))
        (nextXid u.xid)).2 := by
  generalize asked : { u with xid := nextXid u.xid } = v
  have out : controlOut device v (message (nextXid u.xid)) =
      ((controlOut device v (message (nextXid u.xid))).1,
        v.record [.out (message (nextXid u.xid))
          (controlOut device v (message (nextXid u.xid))).1]) := rfl
  rw [rndisRpc, out]
  generalize (controlOut device v (message (nextXid u.xid))).1 = sent
  subst asked
  cases sent with
  | false => exact ⟨false, [], rfl, .stop⟩
  | true =>
      obtain ⟨events, state, polled⟩ := rndisPoll_polled device (nextXid_ne_zero u.xid) 12
        (UsbRndis.record { u with xid := nextXid u.xid } [.out (message (nextXid u.xid)) true])
      rw [record_record] at state
      exact ⟨true, events, state, polled⟩

/-- The request that a transfer makes. -/
def Event.request? : Event → Option UInt32
  | .out message _ =>
      if rd32le message 0 = msgKeepaliveCmplt then none else some (rd32le message 8)
  | _ => none

/-- The ids of the requests, in order. -/
def requests (trace : List Event) : List UInt32 :=
  trace.filterMap Event.request?

@[simp]
theorem requests_append (first second : List Event) :
    requests (first ++ second) = requests first ++ requests second :=
  List.filterMap_append

/-- A message that makes the request `id`. -/
def IsRequest (message : Bytes) (id : UInt32) : Prop :=
  rd32le message 0 ≠ msgKeepaliveCmplt ∧ rd32le message 8 = id

theorem request_cons {message : Bytes} {id : UInt32} (request : IsRequest message id)
    (sent : Bool) (events : List Event) :
    requests (.out message sent :: events) = id :: requests events := by
  have made : Event.request? (.out message sent) = some id := by
    rw [Event.request?, if_neg request.1, request.2]
  rw [requests, List.filterMap_cons_some made]
  rfl

theorem keepaliveAnswer_isAnswer (resp : Bytes) :
    IsAnswer (keepaliveAnswer (requestIdOf resp)) resp :=
  @message_header msgKeepaliveCmplt (requestIdOf resp) 16 [(12, le32 statusSuccess)] (by decide)
    (by decide)

/-- Polling makes no request. -/
theorem Polled.requests_eq_nil {id : UInt32} {reply : Option Bytes} {events : List Event}
    (polled : Polled id reply events) : requests events = [] := by
  induction polled with
  | stop => rfl
  | failed _ ih => exact ih
  | skipped _ _ ih => exact ih
  | @keepalive resp sent _ _ _ _ ih =>
      have none_ : Event.request? (.out (keepaliveAnswer (requestIdOf resp)) sent) = none := by
        rw [Event.request?, if_pos (keepaliveAnswer_isAnswer resp).1]
      rw [requests, List.filterMap_cons_none rfl, List.filterMap_cons_none none_]
      exact ih
  | reply => rfl

/-! ## Keepalives -/

/-- Every `KEEPALIVE` is followed by its answer, and no other answer is sent. -/
inductive Answered : List Event → Prop
  | nil : Answered []
  | failed {rest : List Event} : Answered rest → Answered (.read none :: rest)
  | skipped {resp : Bytes} {rest : List Event} :
      ¬ IsKeepalive resp → Answered rest → Answered (.read (some resp) :: rest)
  | keepalive {resp message : Bytes} {sent : Bool} {rest : List Event} :
      IsKeepalive resp → IsAnswer message resp → Answered rest →
        Answered (.read (some resp) :: .out message sent :: rest)
  | request {message : Bytes} {sent : Bool} {rest : List Event} :
      rd32le message 0 ≠ msgKeepaliveCmplt → Answered rest → Answered (.out message sent :: rest)
  | returned {request : UInt32} {reply : Bytes} {rest : List Event} :
      Answered rest → Answered (.returned request reply :: rest)

theorem Answered.append {first second : List Event} (one : Answered first)
    (two : Answered second) : Answered (first ++ second) := by
  induction one with
  | nil => exact two
  | failed _ ih => exact .failed ih
  | skipped other _ ih => exact .skipped other ih
  | keepalive alive answer _ ih => exact .keepalive alive answer ih
  | request other _ ih => exact .request other ih
  | returned _ ih => exact .returned ih

theorem Polled.answered {id : UInt32} {reply : Option Bytes} {events : List Event}
    (polled : Polled id reply events) : Answered events := by
  induction polled with
  | stop => exact .nil
  | failed _ ih => exact .failed ih
  | skipped other _ ih => exact .skipped other ih
  | @keepalive resp _ _ _ alive _ ih => exact .keepalive alive (keepaliveAnswer_isAnswer resp) ih
  | reply other _ => exact .skipped other (.returned .nil)

/-- The next event behind a `KEEPALIVE` is its answer. -/
theorem Answered.next {trace front back : List Event} {resp : Bytes} (answered : Answered trace)
    (split : trace = front ++ .read (some resp) :: back) (alive : IsKeepalive resp) :
    ∃ message sent rest, back = .out message sent :: rest ∧ IsAnswer message resp := by
  induction answered generalizing front with
  | nil => cases front <;> cases split
  | failed _ ih =>
      cases front with
      | nil => cases split
      | cons _ front =>
          cases split
          exact ih rfl
  | skipped other _ ih =>
      cases front with
      | nil =>
          cases split
          exact absurd alive other
      | cons _ front =>
          cases split
          exact ih rfl
  | keepalive _ answer _ ih =>
      cases front with
      | nil =>
          cases split
          exact ⟨_, _, _, rfl, answer⟩
      | cons _ front =>
          cases front with
          | nil => cases split
          | cons _ front =>
              cases split
              exact ih rfl
  | request _ _ ih =>
      cases front with
      | nil => cases split
      | cons _ front =>
          cases split
          exact ih rfl
  | returned _ ih =>
      cases front with
      | nil => cases split
      | cons _ front =>
          cases split
          exact ih rfl

/-- A `KEEPALIVE` that was read. -/
def Event.keepalive? : Event → Option Bytes
  | .read (some resp) => if IsKeepalive resp then some resp else none
  | _ => none

/-- A `KEEPALIVE` completion, whether or not its transfer succeeds. -/
def Event.answer? : Event → Option Bytes
  | .out message _ => if rd32le message 0 = msgKeepaliveCmplt then some message else none
  | _ => none

def keepalives (trace : List Event) : List Bytes :=
  trace.filterMap Event.keepalive?

def answers (trace : List Event) : List Bytes :=
  trace.filterMap Event.answer?

theorem keepalives_cons_of_ne {event : Event} (other : event.keepalive? = none)
    (trace : List Event) : keepalives (event :: trace) = keepalives trace :=
  List.filterMap_cons_none other

theorem answers_cons_of_ne {event : Event} (other : event.answer? = none) (trace : List Event) :
    answers (event :: trace) = answers trace :=
  List.filterMap_cons_none other

/-- As many answers as keepalives, each with the id of its keepalive. -/
theorem Answered.forall₂ {trace : List Event} (answered : Answered trace) :
    List.Forall₂ IsAnswer (answers trace) (keepalives trace) := by
  induction answered with
  | nil => exact .nil
  | failed _ ih => exact ih
  | @skipped resp rest other _ ih =>
      have none_ : Event.keepalive? (.read (some resp)) = none := if_neg other
      rw [keepalives_cons_of_ne none_]
      exact ih
  | @keepalive resp message sent rest alive answer _ ih =>
      have read : Event.keepalive? (.read (some resp)) = some resp := if_pos alive
      have out : Event.answer? (.out message sent) = some message := if_pos answer.1
      rw [answers_cons_of_ne rfl, answers, List.filterMap_cons_some out, keepalives,
        List.filterMap_cons_some read, List.filterMap_cons_none rfl]
      exact .cons answer ih
  | @request message sent rest other _ ih =>
      have none_ : Event.answer? (.out message sent) = none := if_neg other
      rw [answers_cons_of_ne none_]
      exact ih
  | returned _ ih => exact ih

end WiredTethering.Usb
