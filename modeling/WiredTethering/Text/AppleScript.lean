import Mathlib.Data.List.Basic

/-!
# The statements of an AppleScript text

A literal stands between quotes, with a backslash in front of a backslash, a quote, an `n`
and an `r`.  Outside of literals a line break ends a statement.
-/

namespace WiredTethering.Text

/-! ## Literals -/

/-- What an escaped scalar stands for. -/
def unescapeLiteral (c : Char) : Option Char :=
  if c = '\\' then some '\\'
  else if c = '"' then some '"'
  else if c = 'n' then some '\n'
  else if c = 'r' then some '\r'
  else none

/-- The value of a literal behind its quote, and what follows it. -/
def readBody : List Char → Option (List Char × List Char)
  | [] => none
  | '"' :: rest => some ([], rest)
  | ['\\'] => none
  | '\\' :: c :: rest => do
      let scalar ← unescapeLiteral c
      let (value, left) ← readBody rest
      pure (scalar :: value, left)
  | c :: rest => do
      let (value, left) ← readBody rest
      pure (c :: value, left)

/-- The literal at the front of a text, and what follows it. -/
def readLiteral : List Char → Option (List Char × List Char)
  | '"' :: rest => readBody rest
  | _ => none

theorem readBody_escape {c scalar : Char} (escapes : unescapeLiteral c = some scalar)
    (rest : List Char) :
    readBody ('\\' :: c :: rest) = (readBody rest).map fun read => (scalar :: read.1, read.2) := by
  rw [readBody, escapes]
  cases readBody rest <;> rfl

theorem readBody_plain {c : Char} (quote : c ≠ '"') (backslash : c ≠ '\\') (rest : List Char) :
    readBody (c :: rest) = (readBody rest).map fun read => (c :: read.1, read.2) := by
  rw [readBody]
  · cases readBody rest <;> rfl
  · exact quote
  · rintro rfl
    exact absurd rfl backslash
  · rintro _ _ rfl
    exact absurd rfl backslash

/-! ## Statements -/

/-- A piece of a statement. -/
inductive Piece
  | text (c : Char)
  | literal (value : List Char)
deriving DecidableEq, Repr

/-- A piece in front of the first statement. -/
def extendStatement (piece : Piece) : List (List Piece) → List (List Piece)
  | [] => [[piece]]
  | statement :: statements => (piece :: statement) :: statements

def isLineBreak (c : Char) : Bool :=
  c = '\n' || c = '\r'

/-- The statements of a text.  Every round takes a scalar from it. -/
def statementsOf : Nat → List Char → Option (List (List Piece))
  | 0, _ => none
  | _ + 1, [] => some [[]]
  | fuel + 1, c :: rest =>
      if c = '"' then do
        let (value, left) ← readLiteral (c :: rest)
        (statementsOf fuel left).map (extendStatement (.literal value))
      else if isLineBreak c then (statementsOf fuel rest).map ([] :: ·)
      else (statementsOf fuel rest).map (extendStatement (.text c))

def readScript (script : List Char) : Option (List (List Piece)) :=
  statementsOf (script.length + 1) script

/-- The text has these statements, whatever the fuel. -/
def Holds (script : List Char) (statements : List (List Piece)) : Prop :=
  ∀ fuel, script.length < fuel → statementsOf fuel script = some statements

theorem Holds.readScript {script : List Char} {statements : List (List Piece)}
    (holds : Holds script statements) : Text.readScript script = some statements :=
  holds _ (Nat.lt_succ_self _)

theorem holds_nil : Holds [] [[]] := by
  intro fuel enough
  cases fuel with
  | zero => exact absurd enough (Nat.not_lt_zero _)
  | succ fuel => rfl

variable {rest : List Char} {statement : List Piece} {statements : List (List Piece)}

/-- A line break ends a statement. -/
theorem Holds.lineBreak (holds : Holds rest statements) :
    Holds ('\n' :: rest) ([] :: statements) := by
  intro fuel enough
  cases fuel with
  | zero => exact absurd enough (Nat.not_lt_zero _)
  | succ fuel =>
      rw [statementsOf, if_neg (by decide), if_pos (by decide),
        holds fuel (Nat.lt_of_succ_lt_succ enough)]
      rfl

theorem Holds.scalar {c : Char} (quote : c ≠ '"') (same : isLineBreak c = false)
    (holds : Holds rest (statement :: statements)) :
    Holds (c :: rest) ((.text c :: statement) :: statements) := by
  intro fuel enough
  cases fuel with
  | zero => exact absurd enough (Nat.not_lt_zero _)
  | succ fuel =>
      rw [statementsOf, if_neg quote, same, if_neg Bool.false_ne_true,
        holds fuel (Nat.lt_of_succ_lt_succ enough)]
      rfl

/-- Words outside of literals. -/
theorem Holds.words (holds : Holds rest (statement :: statements)) (words : List Char)
    (quote : '"' ∉ words) (same : ∀ c ∈ words, isLineBreak c = false) :
    Holds (words ++ rest) ((words.map .text ++ statement) :: statements) := by
  induction words with
  | nil => exact holds
  | cons c words ih =>
      rw [List.mem_cons, not_or] at quote
      rw [List.forall_mem_cons] at same
      exact (ih quote.2 same.2).scalar (Ne.symm quote.1) same.1

/-- A literal is one piece, whatever it stands for. -/
theorem Holds.literal {body value : List Char}
    (reads : readBody (body ++ rest) = some (value, rest))
    (holds : Holds rest (statement :: statements)) :
    Holds ('"' :: body ++ rest) ((.literal value :: statement) :: statements) := by
  intro fuel enough
  rw [List.length_append, List.length_cons] at enough
  cases fuel with
  | zero => exact absurd enough (Nat.not_lt_zero _)
  | succ fuel =>
      have later := holds fuel (by omega)
      rw [List.cons_append, statementsOf, if_pos rfl, readLiteral, reads]
      exact congrArg (Option.map (extendStatement (.literal value))) later

end WiredTethering.Text
