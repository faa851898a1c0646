import WiredTethering.App.AcceptLoop
import WiredTethering.App.ParseHelpers

/-!
# The events of a session

What `acceptLoop` hands to `onEvent`: the event of every line that it dispatches, and at
the end that the socket was closed.  The events depend on the stream alone, not on the
reads by which it came.
-/

namespace WiredTethering.App

open WiredTethering.Memory
open WiredTethering.Text

/-- The bytes in front of the first newline of the buffer, by its index, and what the
buffer keeps. -/
def takeLine (buffer : Bytes) : Option (Bytes × Bytes) :=
  (buffer.findIdx? (· = 0x0a)).map fun range => (buffer.take range, buffer.drop (range + 1))

/-- `acceptLoop` behind `accept`: the lines it dispatches.  A read of no bytes is its end. -/
def readLines : Bytes → List Bytes → List (List Char)
  | _, [] => []
  | buffer, read :: reads =>
      if read = [] then []
      else
        let (lines, left) := dispatchLines (buffer ++ read).length (buffer ++ read)
        lines ++ readLines left reads

def EngineLine.event : EngineLine → EngineEvent
  | .log level message => .log level message
  | .status s => .status s

/-- `dispatch`; the outer none is a trap. -/
def dispatch (bridge : RealBridge) (line : List Char) : Option (Option EngineEvent) :=
  (parseEngineLine bridge (String.ofList line)).map fun parsed => parsed.map EngineLine.event

/-- The events of dispatched lines, and whether the app outlives them. -/
def lineEvents (bridge : RealBridge) : List (List Char) → List EngineEvent × Bool
  | [] => ([], true)
  | line :: lines =>
      match dispatch bridge line with
      | none => ([], false)
      | some event =>
          let (events, alive) := lineEvents bridge lines
          (event.toList ++ events, alive)

/-- The events of a session with a client. -/
def sessionEvents (bridge : RealBridge) (reads : List Bytes) : List EngineEvent :=
  let (events, alive) := lineEvents bridge (readLines [] reads)
  if alive then events ++ [.closed] else events

/-! ## The inner loop by index -/

theorem takeLine_line {line : Bytes} (free : 0x0a ∉ line) (rest : Bytes) :
    takeLine (line ++ 0x0a :: rest) = some (line, rest) := by
  have index : (line ++ 0x0a :: rest).findIdx? (· = 0x0a) = some line.length := by
    rw [List.findIdx?_append, List.findIdx?_eq_none_iff.mpr, Option.none_or]
    · rw [List.findIdx?_cons, if_pos (by decide), Option.map_some, Nat.zero_add]
    · intro b mem
      apply decide_eq_false
      rintro rfl
      exact free mem
  rw [takeLine, index, Option.map_some, List.take_left', List.drop_append]
  · simp
  · rfl

theorem takeLine_open {tail : Bytes} (free : 0x0a ∉ tail) : takeLine tail = none := by
  rw [takeLine, List.findIdx?_eq_none_iff.mpr, Option.map_none]
  intro b mem
  apply decide_eq_false
  rintro rfl
  exact free mem

/-- A round takes off the bytes up to the index of the first newline. -/
theorem dispatchLines_succ (fuel : Nat) (buffer : Bytes) :
    dispatchLines (fuel + 1) buffer =
      match takeLine buffer with
      | none => ([], buffer)
      | some (lineData, rest) =>
          ((decodeUtf8 lineData).toList ++ (dispatchLines fuel rest).1,
            (dispatchLines fuel rest).2) := by
  by_cases more : 0x0a ∈ buffer
  · obtain ⟨line, rest, rfl, free⟩ := List.eq_append_cons_of_mem more
    rw [dispatchLines_line free, takeLine_line free]
  · rw [dispatchLines_open more, takeLine_open more]

/-! ## Every way of reading a stream -/

/-- A way in which a stream arrives. -/
structure Reads (stream : Bytes) where
  reads : List Bytes
  whole : reads.flatten = stream
  sized : ∀ read ∈ reads, 1 ≤ read.length ∧ read.length ≤ 4096

/-- Every stream can arrive, if only byte by byte. -/
theorem Reads.nonempty (stream : Bytes) : Nonempty (Reads stream) := by
  refine ⟨⟨stream.map fun b => [b], ?_, ?_⟩⟩
  · rw [← List.flatMap_def, List.flatMap_singleton']
  · intro read mem
    obtain ⟨b, -, rfl⟩ := List.mem_map.mp mem
    exact ⟨Nat.le_refl 1, Nat.le_of_ble_eq_true rfl⟩

/-- While no read is empty, the loop goes on. -/
theorem readLines_eq (buffer : Bytes) {reads : List Bytes} (some_ : ∀ read ∈ reads, read ≠ []) :
    readLines buffer reads = acceptLines buffer reads := by
  induction reads generalizing buffer with
  | nil => rfl
  | cons read reads ih =>
      rw [List.forall_mem_cons] at some_
      rw [readLines, if_neg some_.1, acceptLines]
      dsimp only
      rw [ih _ some_.2]

theorem Reads.readLines {stream : Bytes} (arrived : Reads stream) :
    App.readLines [] arrived.reads = (cutLines 0x0a stream).1.filterMap decodeUtf8 := by
  have some_ : ∀ read ∈ arrived.reads, read ≠ [] :=
    fun read mem => List.ne_nil_of_length_pos (arrived.sized read mem).1
  rw [readLines_eq [] some_, acceptLines_eq [] _ List.not_mem_nil, List.nil_append,
    arrived.whole]

/-- A session dispatches the finished lines of its stream that are UTF-8, in order and
without their newlines, and nothing of the unfinished one, however the stream arrives; so
its events are the same. -/
theorem session_dispatches (bridge : RealBridge) (stream : Bytes) :
    (∃ lines tail, stream = joinLines 0x0a lines ++ tail ∧ (∀ line ∈ lines, 0x0a ∉ line) ∧
      0x0a ∉ tail ∧
      ∀ arrived : Reads stream, readLines [] arrived.reads = lines.filterMap decodeUtf8) ∧
    ∀ one other : Reads stream,
      sessionEvents bridge one.reads = sessionEvents bridge other.reads := by
  constructor
  · exact ⟨(cutLines 0x0a stream).1, (cutLines 0x0a stream).2, (joinLines_cutLines stream).symm,
      forall_mem_cutLines stream, notMem_cutLines stream, Reads.readLines⟩
  · intro one other
    rw [sessionEvents, sessionEvents, one.readLines, other.readLines]

end WiredTethering.App
