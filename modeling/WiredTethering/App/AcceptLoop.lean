import Mathlib.Data.List.TakeWhile
import WiredTethering.Text.Lines
import WiredTethering.Text.Utf8

/-!
# The lines that a session dispatches

`EngineSession.acceptLoop` reads the status socket piece by piece, takes the finished
lines off its buffer and hands each that is UTF-8 to `dispatch`.  How the stream was cut
into reads does not matter.
-/

namespace WiredTethering.App

open WiredTethering.Memory
open WiredTethering.Text

/-- The loop of `acceptLoop` over the newlines of its buffer: the lines it dispatches, and
the buffer afterwards.  Every round takes a newline off, so the length of the buffer is
enough fuel. -/
def dispatchLines : Nat → Bytes → List (List Char) × Bytes
  | 0, buffer => ([], buffer)
  | fuel + 1, buffer =>
      match buffer.dropWhile (· ≠ 0x0a) with
      | [] => ([], buffer)
      | _ :: rest =>
          let lineData := buffer.takeWhile (· ≠ 0x0a)
          let (lines, left) := dispatchLines fuel rest
          ((decodeUtf8 lineData).toList ++ lines, left)

/-- The loop of `acceptLoop` over its reads. -/
def acceptLines : Bytes → List Bytes → List (List Char)
  | _, [] => []
  | buffer, read :: reads =>
      let (lines, left) := dispatchLines (buffer ++ read).length (buffer ++ read)
      lines ++ acceptLines left reads

/-- A round of the inner loop. -/
theorem dispatchLines_line {line : Bytes} (free : 0x0a ∉ line) (rest : Bytes) (fuel : Nat) :
    dispatchLines (fuel + 1) (line ++ 0x0a :: rest) =
      ((decodeUtf8 line).toList ++ (dispatchLines fuel rest).1, (dispatchLines fuel rest).2) := by
  have all : ∀ b ∈ line, decide (b ≠ 0x0a) = true := by
    intro b mem
    apply decide_eq_true
    rintro rfl
    exact free mem
  rw [dispatchLines, List.dropWhile_append_of_pos all, List.takeWhile_append_of_pos all,
    List.dropWhile_cons_of_neg (by decide), List.takeWhile_cons_of_neg (by decide),
    List.append_nil]

theorem dispatchLines_open {tail : Bytes} (free : 0x0a ∉ tail) (fuel : Nat) :
    dispatchLines fuel tail = ([], tail) := by
  cases fuel with
  | zero => rfl
  | succ fuel =>
      have none_ : tail.dropWhile (· ≠ 0x0a) = [] := by
        rw [List.dropWhile_eq_nil_iff]
        intro b mem
        apply decide_eq_true
        rintro rfl
        exact free mem
      rw [dispatchLines, none_]

/-- The inner loop dispatches the finished lines and keeps the unfinished one. -/
theorem dispatchLines_eq {fuel : Nat} {buffer : Bytes} (enough : buffer.length ≤ fuel) :
    dispatchLines fuel buffer =
      ((cutLines 0x0a buffer).1.filterMap decodeUtf8, (cutLines 0x0a buffer).2) := by
  by_cases more : 0x0a ∈ buffer
  · obtain ⟨line, rest, rfl, free⟩ := List.eq_append_cons_of_mem more
    rw [List.length_append, List.length_cons] at enough
    cases fuel with
    | zero => omega
    | succ fuel =>
        have later := @dispatchLines_eq fuel rest (by omega)
        rw [dispatchLines_line free, cutLines_line free, later, List.filterMap_cons]
        cases decodeUtf8 line with
        | none => rfl
        | some scalars => rfl
  · rw [dispatchLines_open more, cutLines_open more]
    rfl
termination_by fuel

/-- A session dispatches the finished lines that are UTF-8, however the stream was read. -/
theorem acceptLines_eq (buffer : Bytes) (reads : List Bytes) (open_ : 0x0a ∉ buffer) :
    acceptLines buffer reads =
      (cutLines 0x0a (buffer ++ reads.flatten)).1.filterMap decodeUtf8 := by
  induction reads generalizing buffer with
  | nil =>
      rw [List.flatten_nil, List.append_nil, cutLines_open open_]
      rfl
  | cons read reads ih =>
      rw [acceptLines, dispatchLines_eq (Nat.le_refl _)]
      dsimp only
      rw [ih _ (notMem_cutLines _), List.flatten_cons, ← List.append_assoc,
        cutLines_append (buffer ++ read), List.filterMap_append]

/-- Every line of the stream is dispatched. -/
def AllDispatched (stream : Bytes) : Prop :=
  ∀ reads : List Bytes, reads.flatten = stream →
    joinLines 0x0a ((acceptLines [] reads).map utf8) = stream

theorem acceptLines_joinLines {lines : List Bytes} (free : ∀ line ∈ lines, 0x0a ∉ line)
    {reads : List Bytes} (stream : reads.flatten = joinLines 0x0a lines) :
    acceptLines [] reads = lines.filterMap decodeUtf8 := by
  rw [acceptLines_eq [] reads List.not_mem_nil, List.nil_append, stream, cutLines_joinLines free]

/-- What is dispatched of some lines are those that are UTF-8. -/
theorem map_utf8_filterMap {lines : List Bytes} (valid : ∀ line ∈ lines, IsUtf8 line) :
    (lines.filterMap decodeUtf8).map utf8 = lines := by
  induction lines with
  | nil => rfl
  | cons line lines ih =>
      rw [List.forall_mem_cons] at valid
      obtain ⟨⟨scalars, rfl⟩, rest⟩ := valid
      rw [List.filterMap_cons_some (decodeUtf8_utf8 scalars), List.map_cons, ih rest]

theorem allDispatched_iff {lines : List Bytes} (free : ∀ line ∈ lines, 0x0a ∉ line) :
    AllDispatched (joinLines 0x0a lines) ↔ ∀ line ∈ lines, IsUtf8 line := by
  constructor
  · intro all
    have dispatched := all [joinLines 0x0a lines] (List.flatten_singleton)
    rw [acceptLines_joinLines free List.flatten_singleton] at dispatched
    have free' : ∀ line ∈ (lines.filterMap decodeUtf8).map utf8, 0x0a ∉ line := by
      intro line mem
      obtain ⟨scalars, found, rfl⟩ := List.mem_map.mp mem
      obtain ⟨line, inside, decoded⟩ := List.mem_filterMap.mp found
      rw [utf8_of_decodeUtf8 decoded]
      exact free line inside
    have cut := congrArg (cutLines 0x0a) dispatched
    rw [cutLines_joinLines free', cutLines_joinLines free, Prod.mk.injEq] at cut
    intro line mem
    rw [← cut.1] at mem
    obtain ⟨scalars, -, valid⟩ := List.mem_map.mp mem
    exact ⟨scalars, valid⟩
  · intro valid reads stream
    rw [acceptLines_joinLines free stream, map_utf8_filterMap valid]

end WiredTethering.App
