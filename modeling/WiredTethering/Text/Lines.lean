import Mathlib.Data.List.Basic

/-!
# A stream as lines

A stream is cut behind every separator.  What is behind the last one is an unfinished
line, and cutting goes on from there when more arrives.
-/

namespace WiredTethering.Text

variable {α : Type} [DecidableEq α]

/-- The first line begins with `b`. -/
def extendFirst (b : α) : List (List α) × List α → List (List α) × List α
  | ([], left) => ([], b :: left)
  | (line :: lines, left) => ((b :: line) :: lines, left)

/-- The finished lines of a stream, and the unfinished one. -/
def cutLines (stop : α) : List α → List (List α) × List α
  | [] => ([], [])
  | b :: rest =>
      if b = stop then ([] :: (cutLines stop rest).1, (cutLines stop rest).2)
      else extendFirst b (cutLines stop rest)

/-- The stream of some lines. -/
def joinLines (stop : α) (lines : List (List α)) : List α :=
  lines.flatMap (· ++ [stop])

variable {stop : α}

omit [DecidableEq α] in
theorem joinLines_singleton (line : List α) : joinLines stop [line] = line ++ [stop] :=
  List.flatMap_singleton _ _

omit [DecidableEq α] in
theorem joinLines_cons (line : List α) (lines : List (List α)) :
    joinLines stop (line :: lines) = line ++ stop :: joinLines stop lines := by
  rw [joinLines, joinLines, List.flatMap_cons, List.append_assoc]
  rfl

omit [DecidableEq α] in
theorem joinLines_append (first second : List (List α)) :
    joinLines stop (first ++ second) = joinLines stop first ++ joinLines stop second :=
  List.flatMap_append

theorem cutLines_stop (rest : List α) :
    cutLines stop (stop :: rest) = ([] :: (cutLines stop rest).1, (cutLines stop rest).2) := by
  rw [cutLines, if_pos rfl]

theorem cutLines_cons {b : α} (other : b ≠ stop) (rest : List α) :
    cutLines stop (b :: rest) = extendFirst b (cutLines stop rest) := by
  rw [cutLines, if_neg other]

/-- Without a separator nothing is finished. -/
theorem cutLines_open {tail : List α} (free : stop ∉ tail) : cutLines stop tail = ([], tail) := by
  induction tail with
  | nil => rfl
  | cons b tail ih =>
      rw [List.mem_cons, not_or] at free
      rw [cutLines_cons (Ne.symm free.1), ih free.2, extendFirst]

theorem cutLines_line {line : List α} (free : stop ∉ line) (rest : List α) :
    cutLines stop (line ++ stop :: rest) =
      (line :: (cutLines stop rest).1, (cutLines stop rest).2) := by
  induction line with
  | nil => exact cutLines_stop rest
  | cons b line ih =>
      rw [List.mem_cons, not_or] at free
      rw [List.cons_append, cutLines_cons (Ne.symm free.1), ih free.2, extendFirst]

theorem cutLines_joinLines {lines : List (List α)} (free : ∀ line ∈ lines, stop ∉ line) :
    cutLines stop (joinLines stop lines) = (lines, []) := by
  induction lines with
  | nil => rfl
  | cons line lines ih =>
      rw [List.forall_mem_cons] at free
      rw [joinLines_cons, cutLines_line free.1, ih free.2]

/-- The unfinished line has no separator. -/
theorem notMem_cutLines (stream : List α) : stop ∉ (cutLines stop stream).2 := by
  induction stream with
  | nil => exact List.not_mem_nil
  | cons b stream ih =>
      by_cases here : b = stop
      · subst here
        rw [cutLines_stop]
        exact ih
      · rw [cutLines_cons here]
        cases cut : cutLines stop stream with
        | mk lines left =>
            rw [cut] at ih
            cases lines with
            | nil => exact List.not_mem_cons_of_ne_of_not_mem (Ne.symm here) ih
            | cons line lines => exact ih

/-- The finished lines have no separator. -/
theorem forall_mem_cutLines (stream : List α) : ∀ line ∈ (cutLines stop stream).1, stop ∉ line := by
  induction stream with
  | nil => exact fun _ mem => absurd mem List.not_mem_nil
  | cons b stream ih =>
      by_cases here : b = stop
      · subst here
        rw [cutLines_stop, List.forall_mem_cons]
        exact ⟨List.not_mem_nil, ih⟩
      · rw [cutLines_cons here]
        cases cut : cutLines stop stream with
        | mk lines left =>
            rw [cut] at ih
            cases lines with
            | nil => exact ih
            | cons line lines =>
                rw [List.forall_mem_cons] at ih
                rw [extendFirst, List.forall_mem_cons]
                exact ⟨List.not_mem_cons_of_ne_of_not_mem (Ne.symm here) ih.1, ih.2⟩

/-- Nothing of a stream is lost. -/
theorem joinLines_cutLines (stream : List α) :
    joinLines stop (cutLines stop stream).1 ++ (cutLines stop stream).2 = stream := by
  induction stream with
  | nil => rfl
  | cons b stream ih =>
      by_cases here : b = stop
      · subst here
        rw [cutLines_stop, joinLines_cons, List.nil_append, List.cons_append, ih]
      · rw [cutLines_cons here]
        cases cut : cutLines stop stream with
        | mk lines left =>
            rw [cut] at ih
            cases lines with
            | nil => exact congrArg (b :: ·) ih
            | cons line lines =>
                rw [joinLines_cons] at ih
                rw [extendFirst, joinLines_cons, List.cons_append, List.cons_append, ih]

/-- Cutting goes on from the unfinished line. -/
theorem cutLines_append (first second : List α) :
    cutLines stop (first ++ second) =
      ((cutLines stop first).1 ++ (cutLines stop ((cutLines stop first).2 ++ second)).1,
        (cutLines stop ((cutLines stop first).2 ++ second)).2) := by
  induction first with
  | nil => rfl
  | cons b first ih =>
      rw [List.cons_append]
      by_cases here : b = stop
      · subst here
        rw [cutLines_stop, cutLines_stop, ih]
        rfl
      · rw [cutLines_cons here, cutLines_cons here, ih]
        cases cutLines stop first with
        | mk lines left =>
            cases lines with
            | nil => exact (cutLines_cons here _).symm
            | cons line lines => rfl

end WiredTethering.Text
