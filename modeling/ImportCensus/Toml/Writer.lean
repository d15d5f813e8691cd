import ImportCensus.Toml.Value
/-!
# Writing strings and lists

A string is written in the first of four notations that suits it: in double quotes, in single
quotes, in three double quotes, in three single quotes.  Double quotes suit what needs no escape
but for tabs; single quotes take every character as it is, so they suit what has no control
character.  A string that suits none stands in double quotes with escapes.
-/

namespace ImportCensus.Toml

def isControl (c : Char) : Bool :=
  (c.toNat < 0x20 && c != '\t' && c != '\n') || c.toNat = 0x7F

def hexDigit (n : Nat) : Char :=
  if n < 10 then Char.ofNat ('0'.toNat + n) else Char.ofNat ('A'.toNat + (n - 10))

/-- A character other than a quote in a basic string.  A line feed stays as it is when the string
may break. -/
def escapedChar (long : Bool) (c : Char) : Text :=
  if c = '\\' then ['\\', '\\']
  else if c = '\x08' then ['\\', 'b']
  else if c = '\t' then ['\\', 't']
  else if c = '\n' then if long then ['\n'] else ['\\', 'n']
  else if c = '\x0c' then ['\\', 'f']
  else if c = '\r' then ['\\', 'r']
  else if isControl c then
    ['\\', 'u', '0', '0', hexDigit (c.toNat / 16), hexDigit (c.toNat % 16)]
  else [c]

/-- The number of quotes that may stand side by side in a basic string. -/
def plainQuotes (long : Bool) : Nat :=
  if long then 2 else 0

def escapeBehind (long : Bool) (row : Nat) : Text → Text
  | [] => []
  | c :: rest =>
    if c = '"' then
      if row < plainQuotes long then '"' :: escapeBehind long (row + 1) rest
      else '\\' :: '"' :: escapeBehind long 0 rest
    else escapedChar long c ++ escapeBehind long 0 rest

def escape (long : Bool) (text : Text) : Text :=
  escapeBehind long 0 text

def longestRow (c : Char) (text : Text) : Nat :=
  (text.foldl (fun (row, most) d =>
    if d = c then (row + 1, max most (row + 1)) else (0, most)) (0, 0)).2

inductive Style
  | basic
  | literal
  | longBasic
  | longLiteral
  deriving DecidableEq, Repr

def styleOf (text : Text) : Style :=
  let control := text.any isControl
  let breaks := text.contains '\n'
  let slash := text.contains '\\'
  if !control && !slash && !breaks && !text.contains '"' then .basic
  else if !control && !breaks && !text.contains '\'' then .literal
  else if !control && !slash && longestRow '"' text < 3 then .longBasic
  else if !control && longestRow '\'' text < 3 then .longLiteral
  else if breaks then .longBasic
  else .basic

def breakBefore (text : Text) : Text :=
  if text.contains '\n' then ['\n'] else []

def writeString (text : Text) : Text :=
  match styleOf text with
  | .basic => "\"" ++ escape false text ++ "\""
  | .literal => "'" ++ text ++ "'"
  | .longBasic => "\"\"\"" ++ breakBefore text ++ escape true text ++ "\"\"\""
  | .longLiteral => "'''" ++ breakBefore text ++ text ++ "'''"

def writeItem (item : Text) : Text :=
  "    " ++ writeString item ++ ",\n"

/-- A list of strings: none or one on a line, more on a line each. -/
def writeStrings (items : List Text) : Text :=
  match items with
  | [] => "[]"
  | [item] => "[" ++ writeString item ++ "]"
  | items => "[\n" ++ items.flatMap writeItem ++ "]"

def writeBoolean (b : Bool) : Text :=
  if b then "true" else "false"

end ImportCensus.Toml
