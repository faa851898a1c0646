import WiredTethering.Text.AppleScript

/-!
# The script that starts the engine

`PrivilegeLauncher.connectScript` writes paths, an account and a password into a script
that is run with administrator privileges.  `ParseHelpers.appleScriptLiteral` keeps each
of them inside its literal.
-/

namespace WiredTethering.App

open WiredTethering.Text

/-- What `appleScriptLiteral` writes for a scalar. -/
def literalScalar (ch : Char) : List Char :=
  if ch = '\\' then ['\\', '\\']
  else if ch = '"' then ['\\', '"']
  else if ch = '\n' then ['\\', 'n']
  else if ch = '\r' then ['\\', 'r']
  else [ch]

/-- `ParseHelpers.appleScriptLiteral`. -/
def appleScriptLiteral (raw : List Char) : List Char :=
  '"' :: (raw.flatMap literalScalar ++ ['"'])

/-- The last line of the script. -/
def shellLine : List Char :=
  "do shell script (engine & \" --socket \" & sock & \" connect --location \" & loc".toList ++
    " & extra & \" >> \" & logf & \" 2>&1\") user name uname password pass".toList ++
    " with administrator privileges".toList

/-- A line that sets a variable. -/
def setLine (words : String) (value : List Char) : List Char :=
  words.toList ++ appleScriptLiteral value

/-- `PrivilegeLauncher.connectScript`. -/
def connectScript (enginePath socketPath : List Char) (location : UInt32)
    (logPath extra account password : List Char) : List Char :=
  ['\n'].intercalate
    [setLine "set engine to quoted form of " enginePath,
      setLine "set sock to quoted form of " socketPath,
      setLine "set loc to " (Nat.toDigits 10 location.toNat),
      setLine "set logf to quoted form of " logPath,
      setLine "set extra to " extra,
      setLine "set uname to " account,
      setLine "set pass to " password,
      shellLine]

/-! ## Literals -/

theorem readBody_literalScalar (ch : Char) (rest : List Char) :
    readBody (literalScalar ch ++ rest) =
      (readBody rest).map fun read => (ch :: read.1, read.2) := by
  rw [literalScalar]
  split_ifs with backslash quote newline return_
  · rw [backslash]
    exact readBody_escape rfl rest
  · rw [quote]
    exact readBody_escape rfl rest
  · rw [newline]
    exact readBody_escape rfl rest
  · rw [return_]
    exact readBody_escape rfl rest
  · exact readBody_plain quote backslash rest

/-- Behind its first quote a literal is read up to its last one. -/
theorem readBody_literalScalars (raw rest : List Char) :
    readBody ((raw.flatMap literalScalar ++ ['"']) ++ rest) = some (raw, rest) := by
  induction raw with
  | nil => rfl
  | cons ch raw ih =>
      rw [List.flatMap_cons, List.append_assoc, List.append_assoc, readBody_literalScalar,
        ← List.append_assoc, ih]
      rfl

theorem readLiteral_appleScriptLiteral (raw rest : List Char) :
    readLiteral (appleScriptLiteral raw ++ rest) = some (raw, rest) :=
  readBody_literalScalars raw rest

theorem holds_appleScriptLiteral (raw : List Char) {rest : List Char} {statement : List Piece}
    {statements : List (List Piece)} (holds : Holds rest (statement :: statements)) :
    Holds (appleScriptLiteral raw ++ rest) ((.literal raw :: statement) :: statements) :=
  holds.literal (readBody_literalScalars raw rest)

/-! ## Statements -/

/-- A statement that sets a variable to a literal. -/
def setStatement (words : String) (value : List Char) : List Piece :=
  words.toList.map .text ++ [.literal value]

/-- The last statement. -/
def shellStatement : List Piece :=
  "do shell script (engine & ".toList.map .text ++ .literal " --socket ".toList ::
    (" & sock & ".toList.map .text ++ .literal " connect --location ".toList ::
      (" & loc & extra & ".toList.map .text ++ .literal " >> ".toList ::
        (" & logf & ".toList.map .text ++ .literal " 2>&1".toList ::
          ") user name uname password pass with administrator privileges".toList.map .text)))

/-- A line in front of others. -/
theorem holds_setLine (words : String) (quote : '"' ∉ words.toList)
    (same : ∀ c ∈ words.toList, isLineBreak c = false) (value : List Char) {rest : List Char}
    {statements : List (List Piece)} (holds : Holds rest statements) :
    Holds (setLine words value ++ ['\n'] ++ rest) (setStatement words value :: statements) := by
  rw [setLine, List.append_assoc, List.append_assoc]
  exact (holds_appleScriptLiteral value holds.lineBreak).words words.toList quote same

theorem shellLine_eq :
    shellLine = "do shell script (engine & ".toList ++
      (appleScriptLiteral " --socket ".toList ++ (" & sock & ".toList ++
        (appleScriptLiteral " connect --location ".toList ++ (" & loc & extra & ".toList ++
          (appleScriptLiteral " >> ".toList ++ (" & logf & ".toList ++
            (appleScriptLiteral " 2>&1".toList ++
              (") user name uname password pass with administrator privileges".toList ++
                [])))))))) := by
  decide +kernel

theorem holds_shellLine : Holds shellLine [shellStatement] := by
  have privileges := holds_nil.words
    ") user name uname password pass with administrator privileges".toList (by decide) (by decide)
  have redirected := (holds_appleScriptLiteral " 2>&1".toList privileges).words
    " & logf & ".toList (by decide) (by decide)
  have appended := (holds_appleScriptLiteral " >> ".toList redirected).words
    " & loc & extra & ".toList (by decide) (by decide)
  have located := (holds_appleScriptLiteral " connect --location ".toList appended).words
    " & sock & ".toList (by decide) (by decide)
  have whole := (holds_appleScriptLiteral " --socket ".toList located).words
    "do shell script (engine & ".toList (by decide) (by decide)
  rw [List.append_nil] at whole
  rw [shellLine_eq]
  exact whole

theorem readScript_connectScript (enginePath socketPath : List Char) (location : UInt32)
    (logPath extra account password : List Char) :
    readScript (connectScript enginePath socketPath location logPath extra account password) =
      some
        [setStatement "set engine to quoted form of " enginePath,
          setStatement "set sock to quoted form of " socketPath,
          setStatement "set loc to " (Nat.toDigits 10 location.toNat),
          setStatement "set logf to quoted form of " logPath,
          setStatement "set extra to " extra,
          setStatement "set uname to " account,
          setStatement "set pass to " password,
          shellStatement] := by
  apply Holds.readScript
  simp only [connectScript, List.intercalate_cons_cons, List.intercalate_singleton]
  apply holds_setLine "set engine to quoted form of " (by decide) (by decide)
  apply holds_setLine "set sock to quoted form of " (by decide) (by decide)
  apply holds_setLine "set loc to " (by decide) (by decide)
  apply holds_setLine "set logf to quoted form of " (by decide) (by decide)
  apply holds_setLine "set extra to " (by decide) (by decide)
  apply holds_setLine "set uname to " (by decide) (by decide)
  apply holds_setLine "set pass to " (by decide) (by decide)
  exact holds_shellLine

/-- A literal with anything behind it is read back as what was written, and the script has
its eight statements, whatever stands in its literals. -/
theorem script_literals :
    (∀ raw rest : List Char, readLiteral (appleScriptLiteral raw ++ rest) = some (raw, rest)) ∧
      ∀ (enginePath socketPath : List Char) (location : UInt32)
        (logPath extra account password : List Char),
        readScript
            (connectScript enginePath socketPath location logPath extra account password) =
          some
            [setStatement "set engine to quoted form of " enginePath,
              setStatement "set sock to quoted form of " socketPath,
              setStatement "set loc to " (Nat.toDigits 10 location.toNat),
              setStatement "set logf to quoted form of " logPath,
              setStatement "set extra to " extra,
              setStatement "set uname to " account,
              setStatement "set pass to " password,
              shellStatement] := by
  constructor
  · exact readLiteral_appleScriptLiteral
  · intro enginePath socketPath location logPath extra account password
    exact readScript_connectScript enginePath socketPath location logPath extra account password

end WiredTethering.App
