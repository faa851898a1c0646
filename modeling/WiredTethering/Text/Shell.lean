import Mathlib.Data.List.Basic

/-!
# Simple commands of the shell

A command line is cut into words and redirections.  Between single quotes every scalar stands
for itself; outside of them a backslash quotes one scalar, a blank ends a word, and letters,
digits and a few signs stand for themselves.  A line with anything else outside of quotes, or
with a quote that is never closed, is not read.
-/

namespace WiredTethering.Text

/-! ## Tokens -/

inductive RedirectionKind
  | append
  | overwrite
  | duplicate
deriving DecidableEq, Repr

inductive ShellToken
  | word (text : List Char)
  /-- The number of a descriptor in front of a redirection. -/
  | number (digits : List Char)
  | redirect (kind : RedirectionKind)
deriving DecidableEq, Repr

/-- A word under way, if there is one, and whether a part of it was quoted. -/
structure WordSoFar where
  text : Option (List Char)
  quoted : Bool

namespace WordSoFar

def none : WordSoFar :=
  ⟨.none, false⟩

/-- Some scalars were read, quoted or not. -/
def read (word : WordSoFar) (scalars : List Char) (quoted : Bool) : WordSoFar :=
  ⟨some (word.text.getD [] ++ scalars), word.quoted || quoted⟩

/-- The word ends in front of these tokens. -/
def finish (word : WordSoFar) (tokens : List ShellToken) : List ShellToken :=
  match word.text with
  | .none => tokens
  | some text => .word text :: tokens

/-- A redirection ends the word, which may be the number of its descriptor. -/
def redirected (word : WordSoFar) (kind : RedirectionKind) (tokens : List ShellToken) :
    List ShellToken :=
  match word.text with
  | .none => .redirect kind :: tokens
  | some text =>
      if !word.quoted && text.all Char.isDigit then .number text :: .redirect kind :: tokens
      else .word text :: .redirect kind :: tokens

end WordSoFar

/-- A scalar that stands for itself outside of quotes. -/
def isShellPlain (c : Char) : Bool :=
  c.isAlphanum || c = '-' || c = '_' || c = '.' || c = '/'

/-- The tokens of a line; `quoted` says whether a single quote is open.  No line has a NUL. -/
def shellTokens : Bool → WordSoFar → List Char → Option (List ShellToken)
  | true, _, [] => none
  | true, word, c :: rest =>
      if c = '\'' then shellTokens false word rest
      else if c = '\x00' then none
      else shellTokens true (word.read [c] true) rest
  | false, word, [] => some (word.finish [])
  | false, _, ['\\'] => none
  | false, word, '\\' :: c :: rest =>
      if c = '\n' ∨ c = '\x00' then none else shellTokens false (word.read [c] true) rest
  | false, word, '>' :: '>' :: rest => (shellTokens false .none rest).map (word.redirected .append)
  | false, word, '>' :: '&' :: rest =>
      (shellTokens false .none rest).map (word.redirected .duplicate)
  | false, word, '>' :: rest => (shellTokens false .none rest).map (word.redirected .overwrite)
  | false, word, c :: rest =>
      if c = '\'' then shellTokens true (word.read [] true) rest
      else if c = ' ' ∨ c = '\t' then (shellTokens false .none rest).map word.finish
      else if isShellPlain c then shellTokens false (word.read [c] false) rest
      else none

/-! ## Commands -/

structure Redirection where
  descriptor : List Char
  kind : RedirectionKind
  target : List Char
deriving DecidableEq, Repr

/-- The words of a command, and its redirections in their order. -/
structure ShellCommand where
  words : List (List Char)
  redirections : List Redirection
deriving DecidableEq, Repr

def ShellCommand.addWord (word : List Char) (command : ShellCommand) : ShellCommand :=
  { command with words := word :: command.words }

def ShellCommand.redirect (redirection : Redirection) (command : ShellCommand) : ShellCommand :=
  { command with redirections := redirection :: command.redirections }

/-- The command of some tokens; standard output is redirected where there is no number. -/
def readTokens : List ShellToken → Option ShellCommand
  | [] => some ⟨[], []⟩
  | .number digits :: .redirect kind :: .word target :: rest =>
      (readTokens rest).map (ShellCommand.redirect ⟨digits, kind, target⟩)
  | .redirect kind :: .word target :: rest =>
      (readTokens rest).map (ShellCommand.redirect ⟨['1'], kind, target⟩)
  | .word text :: rest => (readTokens rest).map (ShellCommand.addWord text)
  | _ => none

def readCommand (line : List Char) : Option ShellCommand :=
  (shellTokens false .none line).bind readTokens

/-! ## Quoted text -/

/-- What quotes a scalar that stands between single quotes. -/
def quoteScalar (c : Char) : List Char :=
  if c = '\'' then ['\'', '\\', '\'', '\''] else [c]

/-- A text between single quotes. -/
def quotedForm (raw : List Char) : List Char :=
  '\'' :: (raw.flatMap quoteScalar ++ ['\''])

@[simp]
theorem read_read (word : WordSoFar) (first second : List Char) :
    (word.read first true).read second true = word.read (first ++ second) true := by
  simp [WordSoFar.read]

theorem shellTokens_quoteScalar {c : Char} (noNul : c ≠ '\x00') (word : WordSoFar)
    (front rest : List Char) :
    shellTokens true (word.read front true) (quoteScalar c ++ rest) =
      shellTokens true (word.read (front ++ [c]) true) rest := by
  rw [quoteScalar]
  by_cases quote : c = '\''
  · rw [if_pos quote, quote]
    simp [shellTokens]
  · rw [if_neg quote, List.singleton_append, shellTokens, if_neg quote, if_neg noNul, read_read]

/-- Behind its first quote a quoted text is read up to its last one. -/
theorem shellTokens_quoteScalars {raw : List Char} (noNul : '\x00' ∉ raw) (word : WordSoFar)
    (front rest : List Char) :
    shellTokens true (word.read front true) (raw.flatMap quoteScalar ++ ['\''] ++ rest) =
      shellTokens false (word.read (front ++ raw) true) rest := by
  induction raw generalizing front with
  | nil =>
      rw [List.append_nil]
      rfl
  | cons c raw ih =>
      rw [List.mem_cons, not_or] at noNul
      rw [List.flatMap_cons, List.append_assoc, List.append_assoc,
        shellTokens_quoteScalar (Ne.symm noNul.1), ← List.append_assoc, ih noNul.2,
        List.append_assoc, List.singleton_append]

/-- The shell reads a quoted text back. -/
theorem shellTokens_quotedForm {raw : List Char} (noNul : '\x00' ∉ raw) (word : WordSoFar)
    (rest : List Char) :
    shellTokens false word (quotedForm raw ++ rest) =
      shellTokens false (word.read raw true) rest :=
  shellTokens_quoteScalars noNul word [] rest

/-! ## Plain text -/

/-- A scalar that starts neither an escape nor a redirection. -/
theorem shellTokens_cons {c : Char} (backslash : c ≠ '\\') (greater : c ≠ '>')
    (word : WordSoFar) (rest : List Char) :
    shellTokens false word (c :: rest) =
      if c = '\'' then shellTokens true (word.read [] true) rest
      else if c = ' ' ∨ c = '\t' then (shellTokens false .none rest).map word.finish
      else if isShellPlain c then shellTokens false (word.read [c] false) rest
      else none := by
  rw [shellTokens]
  · exact fun same _ => backslash same
  · exact fun _ _ same _ => backslash same
  · exact fun _ same _ => greater same
  · exact fun _ same _ => greater same
  · exact greater

theorem shellTokens_plain {c : Char} (plain : isShellPlain c = true) (word : WordSoFar)
    (rest : List Char) :
    shellTokens false word (c :: rest) = shellTokens false (word.read [c] false) rest := by
  have differs : ∀ d : Char, isShellPlain d = false → c ≠ d := by
    rintro d special rfl
    rw [plain] at special
    cases special
  have notBlank : ¬ (c = ' ' ∨ c = '\t') :=
    not_or.mpr ⟨differs ' ' rfl, differs '\t' rfl⟩
  rw [shellTokens_cons (differs '\\' rfl) (differs '>' rfl), if_neg (differs '\'' rfl),
    if_neg notBlank, if_pos plain]

theorem shellTokens_blank (word : WordSoFar) (rest : List Char) :
    shellTokens false word (' ' :: rest) = (shellTokens false .none rest).map word.finish := by
  rw [shellTokens_cons (by decide) (by decide), if_neg (by decide), if_pos (.inl rfl)]

/-- A word under way of plain scalars. -/
theorem shellTokens_plains {text : List Char} (plain : ∀ c ∈ text, isShellPlain c = true)
    (front rest : List Char) :
    shellTokens false (WordSoFar.none.read front false) (text ++ rest) =
      shellTokens false (WordSoFar.none.read (front ++ text) false) rest := by
  induction text generalizing front with
  | nil => rw [List.append_nil, List.nil_append]
  | cons c text ih =>
      rw [List.forall_mem_cons] at plain
      have read : (WordSoFar.none.read front false).read [c] false =
          WordSoFar.none.read (front ++ [c]) false := by
        simp [WordSoFar.read]
      rw [List.cons_append, shellTokens_plain plain.1, read, ih plain.2, List.append_assoc,
        List.singleton_append]

/-! ## Words -/

/-- The text is one word of the shell, with a blank behind it. -/
def IsWordOf (text : List Char) (written : List Char) : Prop :=
  ∀ rest, shellTokens false .none (written ++ ' ' :: rest) =
    (shellTokens false .none rest).map (.word text :: ·)

theorem isWordOf_quotedForm {raw : List Char} (noNul : '\x00' ∉ raw) :
    IsWordOf raw (quotedForm raw) := by
  intro rest
  rw [shellTokens_quotedForm noNul, shellTokens_blank]
  rfl

theorem isWordOf_plain {c : Char} {text : List Char}
    (plain : ∀ d ∈ c :: text, isShellPlain d = true) : IsWordOf (c :: text) (c :: text) := by
  intro rest
  rw [List.forall_mem_cons] at plain
  rw [List.cons_append, shellTokens_plain plain.1, shellTokens_plains plain.2, shellTokens_blank]
  rfl

end WiredTethering.Text
