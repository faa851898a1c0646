import Mathlib.Data.List.Basic

/-!
# Components between separators

A component of a text stands between two separators, or between one of them and an end of
the text.  Joining puts the separators back.
-/

namespace WiredTethering.Text

variable {α : Type} [DecidableEq α] {separator : α}

/-- Nothing, or a separator at the end. -/
def Precedes (separator : α) (front : List α) : Prop :=
  front = [] ∨ ∃ more, front = more ++ [separator]

/-- Nothing, or a separator at the front. -/
def Follows (separator : α) (back : List α) : Prop :=
  back = [] ∨ ∃ more, back = separator :: more

omit [DecidableEq α] in
theorem Precedes.behind {front : List α} (precedes : Precedes separator front)
    (first : List α) : Precedes separator (first ++ separator :: front) := by
  rcases precedes with rfl | ⟨more, rfl⟩
  · exact .inr ⟨first, rfl⟩
  · exact .inr ⟨first ++ separator :: more, by rw [List.append_assoc, List.cons_append]⟩

/-- Induction on the components of a text. -/
theorem components_induction (separator : α) {motive : List α → Prop}
    (last : ∀ text, separator ∉ text → motive text)
    (more : ∀ first rest, separator ∉ first → motive rest →
      motive (first ++ separator :: rest)) (text : List α) : motive text := by
  induction size : text.length using Nat.strongRecOn generalizing text with
  | ind size_ ih =>
      by_cases mem : separator ∈ text
      · obtain ⟨first, rest, rfl, free⟩ := List.eq_append_cons_of_mem mem
        rw [List.length_append, List.length_cons] at size
        exact more first rest free (ih rest.length (by omega) rest rfl)
      · exact last text mem

/-- Where a component stands. -/
theorem component_between {text component : List α} (mem : component ∈ text.splitOn separator) :
    ∃ front back, text = front ++ component ++ back ∧ Precedes separator front ∧
      Follows separator back := by
  induction text using components_induction separator with
  | last text free =>
      rw [List.splitOn_eq_singleton free, List.mem_singleton] at mem
      exact ⟨[], [], by rw [mem, List.nil_append, List.append_nil], .inl rfl, .inl rfl⟩
  | more first rest free ih =>
      rw [List.splitOn_append_cons_self_of_not_mem free, List.mem_cons] at mem
      rcases mem with rfl | mem
      · exact ⟨[], separator :: rest, rfl, .inl rfl, .inr ⟨rest, rfl⟩⟩
      · obtain ⟨front, back, rfl, precedes, follows⟩ := ih mem
        refine ⟨first ++ separator :: front, back, ?_, precedes.behind first, follows⟩
        simp only [List.append_assoc, List.cons_append]

theorem component_free {text component : List α} (mem : component ∈ text.splitOn separator) :
    separator ∉ component := by
  induction text using components_induction separator with
  | last text free =>
      rw [List.splitOn_eq_singleton free, List.mem_singleton] at mem
      rw [mem]
      exact free
  | more first rest free ih =>
      rw [List.splitOn_append_cons_self_of_not_mem free, List.mem_cons] at mem
      rcases mem with rfl | mem
      · exact free
      · exact ih mem

/-- What has no separator stands in the last component, if it stands at the end. -/
theorem last_component (front : List α) {back : List α} (free : separator ∉ back) :
    ∃ last, ((front ++ back).splitOn separator).getLast? = some last ∧ back <:+ last := by
  induction front using components_induction separator with
  | last front inside =>
      have whole : separator ∉ front ++ back := by
        rw [List.mem_append, not_or]
        exact ⟨inside, free⟩
      rw [List.splitOn_eq_singleton whole]
      exact ⟨front ++ back, rfl, List.suffix_append front back⟩
  | more first rest inside ih =>
      obtain ⟨last, found, ends⟩ := ih
      refine ⟨last, ?_, ends⟩
      rw [List.append_assoc, List.cons_append, List.splitOn_append_cons_self_of_not_mem inside,
        List.getLast?_cons, found]
      rfl

omit [DecidableEq α] in
/-- Components that are joined, with a separator in front of each but the first. -/
theorem intercalate_cons_eq_flatMap (first : List α) (rest : List (List α)) :
    [separator].intercalate (first :: rest) = first ++ rest.flatMap (separator :: ·) := by
  induction rest generalizing first with
  | nil => rw [List.intercalate_singleton, List.flatMap_nil, List.append_nil]
  | cons next rest ih =>
      rw [List.intercalate_cons_cons, ih, List.flatMap_cons, List.append_assoc,
        List.singleton_append]
      rfl

/-- Joined components come back, but for empty ones. -/
theorem filter_splitOn_intercalate {components : List (List α)}
    (free : ∀ component ∈ components, separator ∉ component) :
    (([separator].intercalate components).splitOn separator).filter (· ≠ []) =
      components.filter (· ≠ []) := by
  cases components with
  | nil => rfl
  | cons first rest =>
      rw [List.splitOn_intercalate separator free (List.cons_ne_nil first rest)]

end WiredTethering.Text
