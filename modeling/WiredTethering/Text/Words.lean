import Mathlib.Data.List.Basic

/-!
# A text as words

A text is split wherever a separator stands, and pieces without a letter are left out.
Columns that are filled up with separators are split like words with one between them.
-/

namespace WiredTethering.Text

variable {α : Type}

/-- The pieces between separators that are not empty. -/
def splitWords (separates : α → Bool) (text : List α) : List (List α) :=
  (text.splitOnP separates).filter fun piece => !piece.isEmpty

/-- Letters, and no separator among them. -/
structure IsWord (separates : α → Bool) (word : List α) : Prop where
  letters : word ≠ []
  inside : ∀ c ∈ word, separates c = false

variable {separates : α → Bool}

@[simp]
theorem splitWords_nil : splitWords separates [] = [] :=
  rfl

/-- A text is split at each separator by itself. -/
theorem splitWords_append_cons (front rest : List α) {separator : α}
    (separated : separates separator = true) :
    splitWords separates (front ++ separator :: rest) =
      splitWords separates front ++ splitWords separates rest := by
  rw [splitWords, List.splitOnP_append_cons _ _ separated, List.filter_append]
  rfl

theorem splitWords_separator {separator : α} (separated : separates separator = true)
    (rest : List α) : splitWords separates (separator :: rest) = splitWords separates rest :=
  splitWords_append_cons [] rest separated

/-- A word by itself. -/
theorem splitWords_word {word : List α} (isWord : IsWord separates word) :
    splitWords separates word = [word] := by
  rw [splitWords, List.splitOnP_eq_singleton isWord.inside]
  cases word with
  | nil => exact absurd rfl isWord.letters
  | cons c word => rfl

theorem splitWords_word_cons {word : List α} (isWord : IsWord separates word) {separator : α}
    (separated : separates separator = true) (rest : List α) :
    splitWords separates (word ++ separator :: rest) = word :: splitWords separates rest := by
  rw [splitWords_append_cons word rest separated, splitWords_word isWord]
  rfl

/-- Separators in front are skipped. -/
theorem splitWords_gap {gap : List α} (separated : ∀ c ∈ gap, separates c = true)
    (rest : List α) : splitWords separates (gap ++ rest) = splitWords separates rest := by
  induction gap with
  | nil => rfl
  | cons c gap ih =>
      rw [List.forall_mem_cons] at separated
      rw [List.cons_append, splitWords_separator separated.1, ih separated.2]

/-- A word that is filled up with separators. -/
theorem splitWords_column {word gap : List α} (isWord : IsWord separates word)
    (filled : ∀ c ∈ gap, separates c = true) {separator : α}
    (separated : separates separator = true) (rest : List α) :
    splitWords separates (word ++ gap ++ separator :: rest) =
      word :: splitWords separates rest := by
  cases gap with
  | nil => rw [List.append_nil, splitWords_word_cons isWord separated]
  | cons c gap =>
      rw [List.forall_mem_cons] at filled
      rw [List.append_assoc, List.cons_append, splitWords_word_cons isWord filled.1,
        splitWords_gap filled.2, splitWords_separator separated]

/-- Words with one separator between them are split into the words. -/
theorem splitWords_intercalate {words : List (List α)}
    (areWords : ∀ word ∈ words, IsWord separates word) {separator : α}
    (separated : separates separator = true) :
    splitWords separates ([separator].intercalate words) = words := by
  induction words with
  | nil => rfl
  | cons word words ih =>
      rw [List.forall_mem_cons] at areWords
      cases words with
      | nil =>
          rw [List.intercalate_singleton]
          exact splitWords_word areWords.1
      | cons next words =>
          rw [List.intercalate_cons_cons, List.append_assoc, List.singleton_append,
            splitWords_word_cons areWords.1 separated, ih areWords.2]

/-- Words, each with a separator behind it. -/
theorem splitWords_flatMap {words : List (List α)}
    (areWords : ∀ word ∈ words, IsWord separates word) {separator : α}
    (separated : separates separator = true) :
    splitWords separates (words.flatMap (· ++ [separator])) = words := by
  induction words with
  | nil => rfl
  | cons word words ih =>
      rw [List.forall_mem_cons] at areWords
      rw [List.flatMap_cons, List.append_assoc, List.singleton_append,
        splitWords_word_cons areWords.1 separated, ih areWords.2]

/-- The last letter of some words is no separator. -/
theorem exists_last_letter {words : List (List α)} (some_ : words ≠ [])
    (areWords : ∀ word ∈ words, IsWord separates word) (separator : α) :
    ∃ front c, [separator].intercalate words = front ++ [c] ∧ separates c = false := by
  induction words with
  | nil => exact absurd rfl some_
  | cons word words ih =>
      rw [List.forall_mem_cons] at areWords
      cases words with
      | nil =>
          obtain ⟨front, c, rfl⟩ := List.eq_nil_or_concat' word |>.resolve_left areWords.1.letters
          exact ⟨front, c, List.intercalate_singleton, areWords.1.inside c (by simp)⟩
      | cons next words =>
          obtain ⟨front, c, last, letter⟩ := ih (List.cons_ne_nil _ _) areWords.2
          refine ⟨word ++ [separator] ++ front, c, ?_, letter⟩
          rw [List.intercalate_cons_cons, last, List.append_assoc (word ++ [separator])]

end WiredTethering.Text
