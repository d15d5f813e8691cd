import ImportCensus.Text.Basic
/-!
# JSON

The JSON values that reports are made of, and their compact text on one line: only quotes,
backslashes and control characters of a text are escaped.
-/

namespace ImportCensus.Json

inductive Value
  | text (content : Text)
  | number (n : Nat)
  | list (items : List Value)
  /-- Named values, written in the given order. -/
  | object (members : List (Text × Value))

def numberEscape (c : Char) : Text :=
  ['\\', 'u', '0', '0', Nat.digitChar (c.toNat / 16), Nat.digitChar (c.toNat % 16)]

def escape (c : Char) : Text :=
  if c = '"' then ['\\', '"']
  else if c = '\\' then ['\\', '\\']
  else if c = '\x08' then ['\\', 'b']
  else if c = '\x0C' then ['\\', 'f']
  else if c = '\n' then ['\\', 'n']
  else if c = '\r' then ['\\', 'r']
  else if c = '\t' then ['\\', 't']
  else if c.toNat < 0x20 then numberEscape c
  else [c]

def writeText (content : Text) : Text :=
  '"' :: content.flatMap escape ++ ['"']

def commaJoin (parts : List Text) : Text :=
  [','].intercalate parts

mutual

def render : Value → Text
  | .text content => writeText content
  | .number n => Text.ofNat n
  | .list items => '[' :: commaJoin (renderItems items) ++ [']']
  | .object members => '\x7b' :: commaJoin (renderMembers members) ++ ['\x7d']

def renderItems : List Value → List Text
  | [] => []
  | v :: rest => render v :: renderItems rest

def renderMembers : List (Text × Value) → List Text
  | [] => []
  | (name, v) :: rest => (writeText name ++ ':' :: render v) :: renderMembers rest

end

end ImportCensus.Json
