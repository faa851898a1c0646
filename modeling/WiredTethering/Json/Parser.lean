import Mathlib.Data.List.Basic

/-!
# A JSON parser

The values of RFC 8259 and a strict executable parser of its texts, on lists of
scalars.  An integer literal keeps its exact value; a literal with a fraction or an
exponent keeps its text.  A top level that is neither an object nor an array is
refused.

Recursion is on fuel.  Every call of the parser takes a scalar from the text before
the next one, so the length of the text is always enough.
-/

namespace WiredTethering.Json

inductive Value
  | null
  | bool (value : Bool)
  | integer (value : Int)
  | real (text : List Char)
  | string (scalars : List Char)
  | array (items : List Value)
  | object (members : List (List Char × Value))

/-- The value of a member of an object. -/
def member (members : List (List Char × Value)) (key : String) : Option Value :=
  members.lookup key.toList

def isSpace (c : Char) : Bool :=
  c = ' ' ∨ c = '\t' ∨ c = '\n' ∨ c = '\r'

def skipSpace (text : List Char) : List Char :=
  text.dropWhile isSpace

/-- What follows `c`, if `c` is next. -/
def expect (c : Char) (text : List Char) : Option (List Char) :=
  match skipSpace text with
  | [] => none
  | d :: rest => if d = c then some rest else none

/-! ## Strings -/

def hexValue (c : Char) : Option Nat :=
  if c.isDigit then some (c.toNat - '0'.toNat)
  else if 'a' ≤ c ∧ c ≤ 'f' then some (c.toNat - 'a'.toNat + 10)
  else if 'A' ≤ c ∧ c ≤ 'F' then some (c.toNat - 'A'.toNat + 10)
  else none

def parseHex4 : List Char → Option (Nat × List Char)
  | a :: b :: c :: d :: rest => do
      let a ← hexValue a
      let b ← hexValue b
      let c ← hexValue c
      let d ← hexValue d
      pure (((a * 16 + b) * 16 + c) * 16 + d, rest)
  | _ => none

/-- Behind `\u`: a scalar, or a pair of surrogates. -/
def parseUnicode (text : List Char) : Option (Char × List Char) := do
  let (high, rest) ← parseHex4 text
  if 0xD800 ≤ high ∧ high < 0xDC00 then
    match rest with
    | '\\' :: 'u' :: more => do
        let (low, rest) ← parseHex4 more
        if 0xDC00 ≤ low ∧ low < 0xE000 then
          pure (Char.ofNat (0x10000 + (high - 0xD800) * 0x400 + (low - 0xDC00)), rest)
        else none
    | _ => none
  else if 0xDC00 ≤ high ∧ high < 0xE000 then none
  else pure (Char.ofNat high, rest)

def simpleEscape (c : Char) : Option Char :=
  if c = '"' ∨ c = '\\' ∨ c = '/' then some c
  else if c = 'b' then some (Char.ofNat 8)
  else if c = 'f' then some (Char.ofNat 12)
  else if c = 'n' then some '\n'
  else if c = 'r' then some '\r'
  else if c = 't' then some '\t'
  else none

/-- Behind a backslash. -/
def parseEscape : List Char → Option (Char × List Char)
  | [] => none
  | c :: rest =>
      if c = 'u' then parseUnicode rest
      else (simpleEscape c).map fun scalar => (scalar, rest)

/-- The next scalar of a string, or none at the closing quote. -/
def parseUnit : List Char → Option (Option Char × List Char)
  | [] => none
  | c :: rest =>
      if c = '"' then some (none, rest)
      else if c = '\\' then (parseEscape rest).map fun (scalar, more) => (some scalar, more)
      else if c.toNat < 0x20 then none
      else some (some c, rest)

/-- The scalars up to the closing quote. -/
def parseScalars : Nat → List Char → Option (List Char × List Char)
  | 0, _ => none
  | fuel + 1, text =>
      match parseUnit text with
      | none => none
      | some (none, rest) => some ([], rest)
      | some (some c, rest) => (parseScalars fuel rest).map fun (s, more) => (c :: s, more)

/-- Behind the opening quote. -/
def parseString (text : List Char) : Option (List Char × List Char) :=
  parseScalars text.length text

/-! ## Numbers -/

def parseFraction : List Char → Option (List Char × List Char)
  | '.' :: rest =>
      let (digits, more) := rest.span Char.isDigit
      if digits = [] then none else some ('.' :: digits, more)
  | text => some ([], text)

def parseExponent : List Char → Option (List Char × List Char)
  | [] => some ([], [])
  | c :: rest =>
      if c = 'e' ∨ c = 'E' then
        let (sign, unsigned) :=
          match rest with
          | '+' :: more => (['+'], more)
          | '-' :: more => (['-'], more)
          | _ => ([], rest)
        let (digits, more) := unsigned.span Char.isDigit
        if digits = [] then none else some (c :: sign ++ digits, more)
      else some ([], c :: rest)

/-- A leading minus sign. -/
def takeSign : List Char → List Char × List Char
  | [] => ([], [])
  | c :: rest => if c = '-' then ([c], rest) else ([], c :: rest)

def parseNumber (text : List Char) : Option (Value × List Char) := do
  let (sign, unsigned) := takeSign text
  let (whole, rest) := unsigned.span Char.isDigit
  if whole = [] ∨ (1 < whole.length ∧ whole.head? = some '0') then none
  else
    let (fraction, rest) ← parseFraction rest
    let (exponent, rest) ← parseExponent rest
    if fraction = [] ∧ exponent = [] then
      let value : Int := Nat.ofDigitChars 10 whole 0
      pure (.integer (if sign = [] then value else -value), rest)
    else pure (.real (sign ++ whole ++ fraction ++ exponent), rest)

/-! ## Values -/

def parseLiteral (literal : String) (value : Value) (text : List Char) :
    Option (Value × List Char) :=
  if literal.toList.isPrefixOf text then some (value, text.drop literal.length) else none

mutual

def parseValue : Nat → List Char → Option (Value × List Char)
  | 0, _ => none
  | fuel + 1, text =>
      match skipSpace text with
      | [] => none
      | c :: rest =>
          if c = '\x7b' then
            match expect '\x7d' rest with
            | some more => some (.object [], more)
            | none => (parseMembers fuel rest).map fun (members, more) => (.object members, more)
          else if c = '[' then
            match expect ']' rest with
            | some more => some (.array [], more)
            | none => (parseItems fuel rest).map fun (items, more) => (.array items, more)
          else if c = '"' then (parseString rest).map fun (s, more) => (.string s, more)
          else if c = 't' then parseLiteral "true" (.bool true) (c :: rest)
          else if c = 'f' then parseLiteral "false" (.bool false) (c :: rest)
          else if c = 'n' then parseLiteral "null" .null (c :: rest)
          else parseNumber (c :: rest)

def parseMembers : Nat → List Char → Option (List (List Char × Value) × List Char)
  | 0, _ => none
  | fuel + 1, text =>
      (expect '"' text).bind fun quoted =>
        (parseString quoted).bind fun (key, behindKey) =>
          (expect ':' behindKey).bind fun valued =>
            (parseValue fuel valued).bind fun (value, behind) =>
              match expect ',' behind with
              | some rest =>
                  (parseMembers fuel rest).map fun (members, more) =>
                    ((key, value) :: members, more)
              | none => (expect '\x7d' behind).map fun more => ([(key, value)], more)

def parseItems : Nat → List Char → Option (List Value × List Char)
  | 0, _ => none
  | fuel + 1, text =>
      (parseValue fuel text).bind fun (value, behind) =>
        match expect ',' behind with
        | some rest => (parseItems fuel rest).map fun (items, more) => (value :: items, more)
        | none => (expect ']' behind).map fun more => ([value], more)

end

/-- A whole text: one object or array, with white space around it. -/
def jsonObject (text : List Char) : Option Value :=
  match parseValue (text.length + 1) text with
  | some (.object members, rest) => if skipSpace rest = [] then some (.object members) else none
  | some (.array items, rest) => if skipSpace rest = [] then some (.array items) else none
  | _ => none

end WiredTethering.Json
