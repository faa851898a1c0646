import WiredTethering.App.Dispatch
import WiredTethering.Concurrent.Monitor
import WiredTethering.Status.CutScalar

/-!
# The status channel

Every thread of the engine writes its lines through `at_status_emit`, which holds `g_mu` while
`write_all` writes.  A write may be short, be interrupted or fail, and the app reads the stream
in pieces of its own.
-/

namespace WiredTethering.Status

open WiredTethering.Memory
open WiredTethering.Common
open WiredTethering.Text
open WiredTethering.Transition
open WiredTethering.Concurrent
open WiredTethering.App

/-! ## What is written -/

/-- A status line of `cmd_connect` itself; without an error the state is idle. -/
def lastText : Option Bytes → Bytes
  | none => cstr "\x7b\"type\":\"status\",\"state\":\"idle\"\x7d"
  | some error =>
      cstr "\x7b\"type\":\"status\",\"state\":\"error\",\"error\":\"" ++ escapeInto error 512 ++
        cstr "\"\x7d"

inductive Message
  | log (level : AtLogLevel) (message : Bytes)
  | engine (e : EngineView) (pid : Int32)
  | ended (error : Option Bytes)
deriving DecidableEq

/-- What is formatted in `at_status_emit`. -/
def Message.text : Message → Bytes
  | .log level message => logText level (escapeInto message 1024)
  | .engine e pid =>
      statusText e pid (escapeInto e.iface 32) (escapeInto e.net.ip 64)
        (escapeInto e.net.gateway 64) (escapeInto e.net.dns 160) (escapeInto e.error 512)
  | .ended error => lastText error

/-- What `write_all` is handed. -/
def Message.line (m : Message) : Bytes :=
  atStatusEmit m.text

/-! ## The channel -/

/-- What `g_fd` is open on. -/
inductive Fd
  | stdout
  | socket
deriving DecidableEq, Repr

/-- `g_fd`, none where it is negative, what was written to it and whether the socket was
closed. -/
structure Channel where
  fd : Option Fd
  sent : Bytes
  hungUp : Bool
deriving DecidableEq, Repr

/-- The channel behind `at_status_open`. -/
def Channel.opened (fd : Fd) : Channel :=
  ⟨some fd, [], false⟩

/-- What `write` answers; `wrote 0` is an answer too. -/
inductive Written
  | wrote (w : Nat)
  | interrupted
  | failed
deriving DecidableEq, Repr

inductive StatusCall
  | emit (m : Message)
  | fd
  | close
deriving DecidableEq

inductive Reply
  | code (rc : Int)
  | fd (fd : Option Fd)
  | done
deriving DecidableEq, Repr

/-- A call that holds `g_mu`: inside `write_all`, or about to return. -/
inductive Sending
  | writing (rest : Bytes)
  | returning (reply : Reply)
deriving DecidableEq, Repr

/-- The head of the loop of `write_all`. -/
def writeAll (rest : Bytes) : Sending :=
  if rest = [] then .returning (.code 0) else .writing rest

/-- `at_status_emit`, `at_status_fd` and `at_status_close` behind the lock. -/
def enterCall (c : Channel) : StatusCall → Channel × Sending
  | .emit m => (c, if c.fd = none then .returning (.code 0) else writeAll m.line)
  | .fd => (c, .returning (.fd c.fd))
  | .close =>
      ({ c with fd := none, hungUp := c.hungUp || c.fd == some .socket }, .returning .done)

/-- A round of `write_all`. -/
def writeRound (c : Channel) : Sending → Written → Option (Channel × Sending)
  | .returning _, _ => none
  | .writing rest, .interrupted => some (c, .writing rest)
  | .writing _, .failed => some (c, .returning (.code (-1)))
  | .writing rest, .wrote w =>
      if w = 0 then some (c, .returning (.code (-1)))
      else if w ≤ rest.length then
        some ({ c with sent := c.sent ++ rest.take w }, writeAll (rest.drop w))
      else none

def Sending.reply : Sending → Option Reply
  | .writing _ => none
  | .returning reply => some reply

/-- `json_status.c` under its lock. -/
def channel : Monitor Channel StatusCall Sending Written Reply where
  enter := enterCall
  advance := writeRound
  result := Sending.reply

/-! ## Lines -/

theorem newline_notMem_lastText (error : Option Bytes) : 0x0a ∉ lastText error := by
  cases error with
  | none => decide +kernel
  | some error =>
      have opening : 0x0a ∉ cstr "\x7b\"type\":\"status\",\"state\":\"error\",\"error\":\"" := by
        decide +kernel
      have closing : 0x0a ∉ cstr "\"\x7d" := by decide
      rw [lastText, List.mem_append, List.mem_append, not_or, not_or]
      exact ⟨⟨opening, newline_notMem_escapeInto error 512⟩, closing⟩

theorem newline_notMem_logText (level : AtLogLevel) (message : Bytes) :
    0x0a ∉ logText level (escapeInto message 1024) :=
  (atStatusLog_line level message).2 _ List.mem_cons_self

theorem newline_notMem_text (m : Message) : 0x0a ∉ m.text := by
  cases m with
  | log level message => exact newline_notMem_logText level message
  | engine e pid =>
      exact newline_notMem_statusText e pid
        ⟨newline_notMem_escapeInto _ _, newline_notMem_escapeInto _ _,
          newline_notMem_escapeInto _ _, newline_notMem_escapeInto _ _,
          newline_notMem_escapeInto _ _⟩
  | ended error => exact newline_notMem_lastText error

theorem length_lastText (error : Option Bytes) : (lastText error).length < lineRoom := by
  cases error with
  | none => decide +kernel
  | some error =>
      have room := @length_escapeInto error 512 (by decide)
      have opening :
          (cstr "\x7b\"type\":\"status\",\"state\":\"error\",\"error\":\"").length = 42 := by
        decide +kernel
      have closing : (cstr "\"\x7d").length = 2 := by decide
      rw [lastText, List.length_append, List.length_append, opening, closing, lineRoom]
      omega

theorem length_text (m : Message) : m.text.length < lineRoom := by
  cases m with
  | log level message =>
      have room := @length_escapeInto message 1024 (by decide)
      have length := length_logText level (escapeInto message 1024)
      rw [Message.text, lineRoom]
      omega
  | engine e pid =>
      have iface := @length_escapeInto e.iface 32 (by decide)
      have ip := @length_escapeInto e.net.ip 64 (by decide)
      have gateway := @length_escapeInto e.net.gateway 64 (by decide)
      have dns := @length_escapeInto e.net.dns 160 (by decide)
      have error := @length_escapeInto e.error 512 (by decide)
      have length := length_statusText e pid (escapeInto e.iface 32) (escapeInto e.net.ip 64)
        (escapeInto e.net.gateway 64) (escapeInto e.net.dns 160) (escapeInto e.error 512)
      rw [Message.text, lineRoom]
      omega
  | ended error => exact length_lastText error

/-- A message is written as one line, and no line is cut. -/
theorem line_eq (m : Message) : m.line = m.text ++ [0x0a] :=
  atStatusEmit_free (newline_notMem_text m) (length_text m)

/-! ## What a call leaves -/

/-- What an emit on an open channel has written of its line, and where it is then. -/
inductive Leaves (m : Message) : Bytes → Sending → Prop
  | whole : Leaves m m.line (.returning (.code 0))
  | part {put rest : Bytes} (cut : put ++ rest = m.line) (more : rest ≠ []) :
      Leaves m put (.writing rest)
  | failed {put rest : Bytes} (cut : put ++ rest = m.line) (more : rest ≠ []) :
      Leaves m put (.returning (.code (-1)))

theorem leaves_writeAll {m : Message} {put rest : Bytes} (cut : put ++ rest = m.line) :
    Leaves m put (writeAll rest) := by
  rw [writeAll]
  split_ifs with done
  · subst done
    rw [List.append_nil] at cut
    rw [cut]
    exact .whole
  · exact .part cut done

/-- A round of `write_all` puts some more of the line. -/
theorem Leaves.round {m : Message} {put : Bytes} {at_ after : Sending} {c next : Channel}
    {w : Written} (leaves : Leaves m put at_) (step : writeRound c at_ w = some (next, after)) :
    ∃ more, next = { c with sent := c.sent ++ more } ∧ Leaves m (put ++ more) after := by
  cases leaves with
  | whole => cases step
  | failed => cases step
  | @part _ rest cut more =>
      have stays : c = { c with sent := c.sent ++ [] } := by rw [List.append_nil]
      have same : put = put ++ [] := (List.append_nil put).symm
      cases w with
      | interrupted =>
          cases step
          exact ⟨[], stays, same ▸ .part cut more⟩
      | failed =>
          cases step
          exact ⟨[], stays, same ▸ .failed cut more⟩
      | wrote w =>
          rw [writeRound] at step
          split_ifs at step with zero fits
          · cases step
            exact ⟨[], stays, same ▸ .failed cut more⟩
          · cases step
            refine ⟨rest.take w, rfl, leaves_writeAll ?_⟩
            rw [List.append_assoc, List.take_append_drop, cut]

theorem reaches_emit {first object : Channel} {m : Message} {at_ : Sending}
    (some_ : first.fd ≠ none) (reached : channel.Reaches first (.emit m) object at_) :
    ∃ put, object = { first with sent := first.sent ++ put } ∧ Leaves m put at_ := by
  induction reached with
  | enter =>
      refine ⟨[], ?_, ?_⟩
      · rw [List.append_nil]
        rfl
      · have entered : (channel.enter first (.emit m)).2 = writeAll m.line := if_neg some_
        rw [entered]
        exact leaves_writeAll (List.nil_append _)
  | advance w before step ih =>
      obtain ⟨put, rfl, leaves⟩ := ih
      obtain ⟨more, rfl, after⟩ := leaves.round step
      refine ⟨put ++ more, ?_, after⟩
      dsimp only
      rw [List.append_assoc]

/-- A call that returns at once. -/
theorem reaches_returning {first object : Channel} {call : StatusCall} {at_ : Sending}
    {reply : Reply} (entered : (enterCall first call).2 = .returning reply)
    (reached : channel.Reaches first call object at_) :
    object = (enterCall first call).1 ∧ at_ = .returning reply := by
  induction reached with
  | enter => exact ⟨rfl, entered⟩
  | advance w before step ih =>
      rw [ih.2] at step
      cases step

/-- On a closed channel nothing is written. -/
theorem reaches_unsent {first object : Channel} {m : Message} {at_ : Sending}
    (none_ : first.fd = none) (reached : channel.Reaches first (.emit m) object at_) :
    object = first ∧ at_ = .returning (.code 0) := by
  have entered : (enterCall first (.emit m)).2 = .returning (.code 0) := if_pos none_
  exact reaches_returning entered reached

/-! ## What is on the wire -/

/-- What a call of a thread put on the wire. -/
structure Piece (T : Type) where
  thread : T
  message : Message
  put : Bytes

/-- The lines of some pieces; `front` is what stands in front of them. -/
def arrivals {T : Type} : Bytes → List (Piece T) → List Bytes
  | _, [] => []
  | front, p :: rest =>
      if p.put = p.message.line then (front ++ p.message.text) :: arrivals [] rest
      else arrivals (front ++ p.put) rest

variable {T : Type}

/-- The emits that returned before the channel was closed. -/
def emitted : List (T × StatusCall × Reply) → List (T × Message × Reply)
  | [] => []
  | (t, .emit m, reply) :: rest => (t, m, reply) :: emitted rest
  | (_, .fd, _) :: rest => emitted rest
  | (_, .close, _) :: _ => []

/-- A piece of a call that returned. -/
def Answered (call : T × Message × Reply) (p : Piece T) : Prop :=
  p.thread = call.1 ∧ p.message = call.2.1 ∧ Leaves p.message p.put (.returning call.2.2)

/-- The pieces on the wire: those of the calls that have returned, and that of the call that
is inside. -/
structure Delivered (s : Scene Channel StatusCall Sending Reply T) (done now : List (Piece T)) :
    Prop where
  wire : s.object.sent = (done ++ now).flatMap Piece.put
  answered : List.Forall₂ Answered (emitted s.returned) done
  current : now = [] ∨ ∃ p at_, s.inside = some (p.thread, .emit p.message, at_) ∧
    Leaves p.message p.put at_ ∧ now = [p]

theorem Leaves.isPrefix {m : Message} {put : Bytes} {at_ : Sending} (leaves : Leaves m put at_) :
    put <+: m.line := by
  cases leaves with
  | whole => exact List.prefix_refl _
  | part cut more => exact ⟨_, cut⟩
  | failed cut more => exact ⟨_, cut⟩

theorem Leaves.whole_of_accepted {m : Message} {put : Bytes}
    (leaves : Leaves m put (.returning (.code 0))) : put = m.line := by
  cases leaves
  rfl

/-- What is not the whole line ends inside the text. -/
theorem newline_notMem_part {m : Message} {put : Bytes} (part : put <+: m.line)
    (cut : put ≠ m.line) : 0x0a ∉ put := by
  rw [line_eq] at part cut
  have inside : put <+: m.text := (List.prefix_concat_iff.mp part).resolve_left cut
  exact fun newline => newline_notMem_text m (inside.subset newline)

theorem cutLines_pieces {front : Bytes} (free : 0x0a ∉ front) {pieces : List (Piece T)}
    (parts : ∀ p ∈ pieces, p.put <+: p.message.line) :
    (cutLines 0x0a (front ++ pieces.flatMap Piece.put)).1 = arrivals front pieces := by
  induction pieces generalizing front with
  | nil =>
      rw [List.flatMap_nil, List.append_nil, cutLines_open free]
      rfl
  | cons p pieces ih =>
      rw [List.forall_mem_cons] at parts
      rw [List.flatMap_cons, arrivals, ← List.append_assoc]
      by_cases whole : p.put = p.message.line
      · have whole_line : 0x0a ∉ front ++ p.message.text := by
          rw [List.mem_append, not_or]
          exact ⟨free, newline_notMem_text p.message⟩
        have later := @ih [] List.not_mem_nil parts.2
        rw [List.nil_append] at later
        rw [if_pos whole, whole, line_eq, ← List.append_assoc, List.append_assoc _ [0x0a],
          List.singleton_append, cutLines_line whole_line, later]
      · have still : 0x0a ∉ front ++ p.put := by
          rw [List.mem_append, not_or]
          exact ⟨free, newline_notMem_part parts.1 whole⟩
        rw [if_neg whole, ih still parts.2]

/-! ## Every schedule -/

/-- A close has returned. -/
def Closed (returned : List (T × StatusCall × Reply)) : Prop :=
  ∃ call ∈ returned, call.2.1 = .close

theorem emitted_append {returned : List (T × StatusCall × Reply)} (open_ : ¬ Closed returned)
    (more : List (T × StatusCall × Reply)) :
    emitted (returned ++ more) = emitted returned ++ emitted more := by
  induction returned with
  | nil => rfl
  | cons call returned ih =>
      obtain ⟨t, op, reply⟩ := call
      have rest : ¬ Closed returned :=
        fun ⟨call, mem, closes⟩ => open_ ⟨call, List.mem_cons_of_mem _ mem, closes⟩
      cases op with
      | emit m => exact congrArg ((t, m, reply) :: ·) (ih rest)
      | fd => exact ih rest
      | close => exact absurd ⟨_, List.mem_cons_self, rfl⟩ open_

theorem emitted_closed {returned : List (T × StatusCall × Reply)} (closed : Closed returned)
    (more : List (T × StatusCall × Reply)) : emitted (returned ++ more) = emitted returned := by
  induction returned with
  | nil => exact absurd closed.choose_spec.1 List.not_mem_nil
  | cons call returned ih =>
      obtain ⟨t, op, reply⟩ := call
      obtain ⟨there, mem, closes⟩ := closed
      cases op with
      | close => rfl
      | emit m =>
          rcases List.mem_cons.mp mem with rfl | mem
          · cases closes
          · exact congrArg ((t, m, reply) :: ·) (ih ⟨there, mem, closes⟩)
      | fd =>
          rcases List.mem_cons.mp mem with rfl | mem
          · cases closes
          · exact ih ⟨there, mem, closes⟩

theorem closed_append {first second : List (T × StatusCall × Reply)} :
    Closed (first ++ second) ↔ Closed first ∨ Closed second := by
  rw [Closed, Closed, Closed]
  simp only [List.mem_append, or_and_right, exists_or]

/-- What holds between calls. -/
structure Between (fd : Fd) (returned : List (T × StatusCall × Reply)) (c : Channel)
    (done : List (Piece T)) : Prop where
  wire : c.sent = done.flatMap Piece.put
  answered : List.Forall₂ Answered (emitted returned) done
  closed : Closed returned → c.fd = none
  open_ : ¬ Closed returned → c.fd = some fd

theorem Between.start (fd : Fd) :
    Between fd ([] : List (T × StatusCall × Reply)) (.opened fd) [] where
  wire := rfl
  answered := .nil
  closed := fun ⟨_, mem, _⟩ => absurd mem List.not_mem_nil
  open_ := fun _ => rfl

variable {fd : Fd} {returned : List (T × StatusCall × Reply)} {c next : Channel}
  {done : List (Piece T)}

theorem Between.open_of_some (between : Between fd returned c done) (some_ : c.fd ≠ none) :
    ¬ Closed returned :=
  fun closed => some_ (between.closed closed)

/-- A call that is not an emit, or that finds the channel closed. -/
theorem Between.silent (between : Between fd returned c done) {t : T} {op : StatusCall}
    {reply : Reply} (silent : op = .fd ∨ c.fd = none ∧ op ≠ .close) :
    Between fd (returned ++ [(t, op, reply)]) c done := by
  have opens : op ≠ .close := by
    rcases silent with rfl | ⟨-, opens⟩
    · exact StatusCall.noConfusion
    · exact opens
  have same : Closed (returned ++ [(t, op, reply)]) ↔ Closed returned := by
    rw [closed_append, or_iff_left]
    rintro ⟨call, mem, closes⟩
    rw [List.mem_singleton.mp mem] at closes
    exact opens closes
  refine ⟨between.wire, ?_, fun closed => between.closed (same.mp closed),
    fun open_ => between.open_ (same.not.mp open_)⟩
  by_cases closed : Closed returned
  · rw [emitted_closed closed]
    exact between.answered
  · rw [emitted_append closed]
    rcases silent with rfl | ⟨none_, -⟩
    · rw [emitted, emitted, List.append_nil]
      exact between.answered
    · rw [between.open_ closed] at none_
      cases none_

theorem Between.emits (between : Between fd returned c done) {t : T} {m : Message} {put : Bytes}
    {reply : Reply} (some_ : c.fd ≠ none) (leaves : Leaves m put (.returning reply)) :
    Between fd (returned ++ [(t, .emit m, reply)]) { c with sent := c.sent ++ put }
      (done ++ [⟨t, m, put⟩]) := by
  have open_ := between.open_of_some some_
  have still : ¬ Closed (returned ++ [(t, .emit m, reply)]) := by
    rw [closed_append, not_or]
    refine ⟨open_, ?_⟩
    rintro ⟨call, mem, closes⟩
    rw [List.mem_singleton.mp mem] at closes
    cases closes
  refine ⟨?_, ?_, fun closed => absurd closed still, fun _ => between.open_ open_⟩
  · rw [List.flatMap_append, List.flatMap_singleton, between.wire]
  · rw [emitted_append open_]
    exact List.rel_append between.answered (.cons ⟨rfl, rfl, leaves⟩ .nil)

theorem Between.closes (between : Between fd returned c done) (t : T) :
    Between fd (returned ++ [(t, .close, .done)]) (enterCall c .close).1 done := by
  have closed : Closed (returned ++ [(t, .close, .done)]) :=
    ⟨_, List.mem_append_right _ List.mem_cons_self, rfl⟩
  refine ⟨between.wire, ?_, fun _ => rfl, fun open_ => absurd closed open_⟩
  by_cases before : Closed returned
  · rw [emitted_closed before]
    exact between.answered
  · rw [emitted_append before, emitted, List.append_nil]
    exact between.answered

/-- Every call keeps the pieces. -/
theorem Between.whole (between : Between fd returned c done) {t : T} {op : StatusCall}
    {reply : Reply} (whole : channel.Whole c op reply next) :
    ∃ done, Between fd (returned ++ [(t, op, reply)]) next done := by
  obtain ⟨at_, reached, result⟩ := whole
  cases op with
  | fd =>
      obtain ⟨rfl, rfl⟩ := reaches_returning rfl reached
      exact ⟨done, between.silent (.inl rfl)⟩
  | close =>
      obtain ⟨rfl, rfl⟩ := reaches_returning rfl reached
      cases result
      exact ⟨done, between.closes t⟩
  | emit m =>
      by_cases none_ : c.fd = none
      · obtain ⟨rfl, rfl⟩ := reaches_unsent none_ reached
        exact ⟨done, between.silent (.inr ⟨none_, StatusCall.noConfusion⟩)⟩
      · obtain ⟨put, rfl, leaves⟩ := reaches_emit none_ reached
        cases at_ with
        | writing rest => cases result
        | returning here =>
            cases result
            exact ⟨_, between.emits none_ leaves⟩

theorem serial_between (serial : channel.Serial (.opened fd) returned c) :
    ∃ done : List (Piece T), Between fd returned c done := by
  induction serial with
  | start => exact ⟨[], .start fd⟩
  | call before whole ih =>
      obtain ⟨done, between⟩ := ih
      exact between.whole whole

theorem Delivered.of_explained {s : Scene Channel StatusCall Sending Reply T}
    (explained : channel.Explained (.opened fd) s) : ∃ done now, Delivered s done now := by
  cases explained with
  | outside before =>
      obtain ⟨done, between⟩ := serial_between before
      refine ⟨done, [], ?_, between.answered, .inl rfl⟩
      rw [List.append_nil]
      exact between.wire
  | @inside middle object t op at_ calls returned before reached =>
      obtain ⟨done, between⟩ := serial_between before
      by_cases writes : middle.fd ≠ none ∧ ∃ m, op = .emit m
      · obtain ⟨some_, m, rfl⟩ := writes
        obtain ⟨put, rfl, leaves⟩ := reaches_emit some_ reached
        refine ⟨done, [⟨t, m, put⟩], ?_, between.answered, .inr ⟨_, at_, rfl, leaves, rfl⟩⟩
        rw [List.flatMap_append, List.flatMap_singleton, ← between.wire]
      · have same : object.sent = middle.sent := by
          cases op with
          | fd => rw [(reaches_returning rfl reached).1]; rfl
          | close => rw [(reaches_returning rfl reached).1]; rfl
          | emit m =>
              have none_ : middle.fd = none :=
                not_not.mp fun some_ => writes ⟨some_, m, rfl⟩
              rw [(reaches_unsent none_ reached).1]
        refine ⟨done, [], ?_, between.answered, .inl rfl⟩
        rw [List.append_nil, same]
        exact between.wire

theorem Answered.isPrefix {calls : List (T × Message × Reply)} {pieces : List (Piece T)}
    (answered : List.Forall₂ Answered calls pieces) :
    ∀ p ∈ pieces, p.put <+: p.message.line := by
  induction answered with
  | nil => exact fun _ mem => absurd mem List.not_mem_nil
  | cons here _ ih =>
      rw [List.forall_mem_cons]
      exact ⟨here.2.2.isPrefix, ih⟩

theorem Delivered.isPrefix {s : Scene Channel StatusCall Sending Reply T}
    {now : List (Piece T)} (delivered : Delivered s done now) :
    ∀ p ∈ done ++ now, p.put <+: p.message.line := by
  intro p mem
  rcases List.mem_append.mp mem with mem | mem
  · exact Answered.isPrefix delivered.answered p mem
  · rcases delivered.current with rfl | ⟨here, at_, -, leaves, rfl⟩
    · cases mem
    · rw [List.mem_singleton.mp mem]
      exact leaves.isPrefix

/-- What the app dispatches, for every schedule of the threads' calls, every short, interrupted
and failed write, and every way in which the stream is read. -/
theorem channel_delivers [DecidableEq T] (fd : Fd) (calls : T → List StatusCall)
    {turns : List (Turn T Written)} {s : Scene Channel StatusCall Sending Reply T}
    (ran : run channel.turn (.start (.opened fd) calls) turns = some s) :
    (∀ thread, callsOf s.returned thread ++ s.current thread ++ s.calls thread = calls thread) ∧
      ∃ done now, Delivered s done now ∧ ∀ arrived : Reads s.object.sent,
        readLines [] arrived.reads = (arrivals [] (done ++ now)).filterMap decodeUtf8 := by
  refine ⟨Monitor.run_order ran, ?_⟩
  obtain ⟨done, now, delivered⟩ := Delivered.of_explained (Monitor.run_explained ran)
  refine ⟨done, now, delivered, fun arrived => ?_⟩
  have cut := cutLines_pieces List.not_mem_nil delivered.isPrefix
  rw [List.nil_append, ← delivered.wire] at cut
  rw [arrived.readLines, cut]

/-- Two threads with a line each; one of them closes the channel. -/
def twoThreads : Bool → List StatusCall
  | true => [.emit (.log .info (cstr "up"))]
  | false => [.emit (.ended none), .close]

/-- The log line fails behind seven bytes. -/
def failedWrite : List (Turn Bool Written) :=
  [.lock true, .inside (.wrote 7), .inside .failed, .unlock, .lock false,
    .inside (.wrote 20), .inside .interrupted, .inside (.wrote 13), .unlock]

/-- The line behind the failed one arrives with what was left of that. -/
theorem channel_delivers_failed :
    ∃ s, run channel.turn (.start (.opened .socket) twoThreads) failedWrite = some s ∧
      callsOf s.returned false ++ s.current false ++ s.calls false =
        [.emit (.ended none), .close] ∧
      ∃ done now, Delivered s done now ∧ ∀ arrived : Reads s.object.sent,
        readLines [] arrived.reads = (arrivals [] (done ++ now)).filterMap decodeUtf8 := by
  obtain ⟨s, ran⟩ : ∃ s, run channel.turn (.start (.opened .socket) twoThreads) failedWrite =
      some s :=
    Option.isSome_iff_exists.mp (by decide +kernel)
  obtain ⟨order, delivers⟩ := channel_delivers .socket twoThreads ran
  exact ⟨s, ran, order false, delivers⟩

end WiredTethering.Status
