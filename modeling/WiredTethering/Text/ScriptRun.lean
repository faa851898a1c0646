import WiredTethering.Text.AppleScript
import WiredTethering.Text.Shell

/-!
# Running the statements of an AppleScript

A statement sets a variable to a text, or runs a command of the shell with an account's
privileges.  A text is a concatenation of literals and variables; what is set may be the
quoted form of one.
-/

namespace WiredTethering.Text

inductive ScriptToken
  | word (text : List Char)
  | literal (value : List Char)
  | symbol (c : Char)
deriving DecidableEq, Repr

def isScriptSymbol (c : Char) : Bool :=
  c = '(' || c = ')' || c = '&'

def endWord (word : List Char) (tokens : List ScriptToken) : List ScriptToken :=
  if word = [] then tokens else .word word :: tokens

/-- The tokens of a statement, behind a word under way. -/
def scriptTokens : List Char → List Piece → List ScriptToken
  | word, [] => endWord word []
  | word, .literal value :: rest => endWord word (.literal value :: scriptTokens [] rest)
  | word, .text c :: rest =>
      if c = ' ' then endWord word (scriptTokens [] rest)
      else if isScriptSymbol c then endWord word (.symbol c :: scriptTokens [] rest)
      else scriptTokens (word ++ [c]) rest

/-- The variables that are set; a later one hides an earlier one of its name. -/
abbrev Bindings := List (List Char × List Char)

def valueOf (bound : Bindings) (name : List Char) : Option (List Char) :=
  (bound.find? (·.1 = name)).map (·.2)

def operand (bound : Bindings) : ScriptToken → Option (List Char)
  | .word name => valueOf bound name
  | .literal value => some value
  | .symbol _ => none

/-- A concatenation. -/
def scriptValue (bound : Bindings) : List ScriptToken → Option (List Char)
  | [token] => operand bound token
  | token :: .symbol c :: rest =>
      if c = '&' then do
        let value ← operand bound token
        let others ← scriptValue bound rest
        pure (value ++ others)
      else none
  | _ => none

/-- A command that is run with the privileges of an account. -/
structure AdminScript where
  command : List Char
  account : List Char
  password : List Char
deriving DecidableEq, Repr

def keyword (text : String) : ScriptToken :=
  .word text.toList

/-- `set name to text`, without its first word. -/
def runSet (bound : Bindings) : List ScriptToken → Option Bindings
  | .word name :: then_ :: text =>
      if then_ ≠ keyword "to" then none
      else if text.take 3 = [keyword "quoted", keyword "form", keyword "of"] then
        match text.drop 3 with
        | [token] => (operand bound token).map fun value => (name, quotedForm value) :: bound
        | _ => none
      else (scriptValue bound text).map fun value => (name, value) :: bound
  | _ => none

/-- `do shell script (text) user name u password p with administrator privileges`, without its
first four tokens. -/
def runShell (bound : Bindings) (tokens : List ScriptToken) : Option AdminScript :=
  match tokens.dropWhile (· ≠ .symbol ')') with
  | [_, user, name, .word account, password, .word secret, with_, administrator, privileges] =>
      if [user, name, password, with_, administrator, privileges] =
          [keyword "user", keyword "name", keyword "password", keyword "with",
            keyword "administrator", keyword "privileges"] then do
        let command ← scriptValue bound (tokens.takeWhile (· ≠ .symbol ')'))
        let account ← valueOf bound account
        let password ← valueOf bound secret
        pure ⟨command, account, password⟩
      else none
  | _ => none

/-- The commands that the statements run. -/
def runStatements (bound : Bindings) :
    List (List ScriptToken) → Option (List AdminScript)
  | [] => some []
  | tokens :: rest =>
      if tokens.take 1 = [keyword "set"] then do
        let bound ← runSet bound (tokens.drop 1)
        runStatements bound rest
      else if tokens.take 4 =
          [keyword "do", keyword "shell", keyword "script", .symbol '('] then do
        let script ← runShell bound (tokens.drop 4)
        let scripts ← runStatements bound rest
        pure (script :: scripts)
      else none

def runScript (script : List Char) : Option (List AdminScript) :=
  (readScript script).bind fun statements => runStatements [] (statements.map (scriptTokens []))

end WiredTethering.Text
