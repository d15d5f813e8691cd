import ImportCensus.Toml.Document
import ImportCensus.Toml.Scalars
import ImportCensus.Toml.Strings
/-!
# Reading documents

A document is read statement by statement.  Loops carry a bound on their rounds, which the
length of the text gives: every round takes at least one character.
-/

namespace ImportCensus.Toml

def isKeyChar (c : Char) : Bool :=
  c.isAlphanum || c == '_' || c == '-'

def readKeyPart (s : Text) : Except Fault (Text × Text) :=
  match s with
  | '"' :: rest => basicBody .plain rest
  | '\'' :: rest => literalBody rest
  | _ =>
    let key := s.takeWhile isKeyChar
    if key.isEmpty then .error .noKey else .ok (key, s.dropWhile isKeyChar)

def readKeyParts : Nat → Text → Except Fault (List Text × Text)
  | 0, _ => .error .noKey
  | rounds + 1, s => do
    let (key, rest) ← readKeyPart (skipBlanks s)
    match skipBlanks rest with
    | '.' :: rest =>
      let (keys, rest) ← readKeyParts rounds rest
      .ok (key :: keys, rest)
    | rest => .ok ([key], rest)

def readKey (s : Text) : Except Fault (List Text × Text) := do
  let (keys, rest) ← readKeyParts s.length s
  if maxDepth ≤ keys.length then .error .tooDeep else .ok (keys, rest)

def skipComment : Text → Except Fault Text
  | [] => .ok []
  | c :: rest =>
    if beginsLineEnd c rest then .ok (c :: rest)
    else if isPrintable c then skipComment rest
    else .error .controlCharacter

/-- The text after blanks, line ends and comments; `comment` tells whether one is open. -/
def skipFiller (comment : Bool) : Text → Except Fault Text
  | [] => .ok []
  | c :: rest =>
    if c = '\n' then skipFiller false rest
    else if beginsLineEnd c rest then skipFiller comment rest
    else if comment then
      if isPrintable c then skipFiller true rest else .error .controlCharacter
    else if isBlank c then skipFiller false rest
    else if c = '#' then skipFiller true rest
    else .ok (c :: rest)

/-- The text after the rest of a line that says nothing more. -/
def endLine (s : Text) : Except Fault Text := do
  let rest ←
    match skipBlanks s with
    | '#' :: rest => skipComment rest
    | rest => .ok rest
  match rest with
  | [] => .ok []
  | '\n' :: rest => .ok rest
  | '\r' :: '\n' :: rest => .ok rest
  | _ => .error .trailingText

def readItems (item : Reader Value) : Nat → Text → Except Fault (List Value × Text)
  | 0, _ => .error .openArray
  | rounds + 1, s => do
    match ← skipFiller false s with
    | ']' :: rest => .ok ([], rest)
    | s =>
      let (value, rest) ← item s
      match ← skipFiller false rest with
      | ']' :: rest => .ok ([value], rest)
      | ',' :: rest =>
        let (values, rest) ← readItems item rounds rest
        .ok (value :: values, rest)
      | _ => .error .openArray

def readAssignment (item : Reader Value) (s : Text) :
    Except Fault ((List Text × Value) × Text) := do
  let (keys, rest) ← readKey s
  match rest with
  | '=' :: rest =>
    let (value, rest) ← item (skipBlanks rest)
    .ok ((keys, value), rest)
  | _ => .error .noEquals

def readPairs (item : Reader Value) : Nat → Text → Except Fault (List (List Text × Value) × Text)
  | 0, _ => .error .openTable
  | rounds + 1, s => do
    let (pair, rest) ← readAssignment item s
    match skipBlanks rest with
    | '\x7d' :: rest => .ok ([pair], rest)
    | ',' :: rest =>
      let (pairs, rest) ← readPairs item rounds rest
      .ok (pair :: pairs, rest)
    | _ => .error .openTable

def readInlineTable (item : Reader Value) (s : Text) : Except Fault (Value × Text) :=
  match skipBlanks s with
  | '\x7d' :: rest => .ok (.table [], rest)
  | s => do
    let (pairs, rest) ← readPairs item s.length s
    .ok (← inlineTable pairs, rest)

def readBoolean? (s : Text) : Option (Value × Text) :=
  match s with
  | 't' :: 'r' :: 'u' :: 'e' :: rest => some (.boolean true, rest)
  | 'f' :: 'a' :: 'l' :: 's' :: 'e' :: rest => some (.boolean false, rest)
  | _ => none

def readScalar (s : Text) : Except Fault (Value × Text) :=
  match s with
  | '"' :: rest => (readBasic rest).map fun (text, rest) => (.string text, rest)
  | '\'' :: rest => (readLiteral rest).map fun (text, rest) => (.string text, rest)
  | c :: _ =>
    if c.isDigit || c = '+' || c = '-' then readNumberOrTime s
    else
      match (readBoolean? s).orElse fun _ => readFloatWord? s with
      | some found => .ok found
      | none => .error .noValue
  | [] => .error .noValue

/-- A value with at most `depth` levels in it. -/
def readValue : Nat → Reader Value
  | depth, s =>
    match s with
    | '[' :: rest =>
      match depth with
      | 0 => .error .tooDeep
      | depth + 1 => do
        let (items, rest) ← readItems (readValue depth) (rest.length + 1) rest
        .ok (.array items, rest)
    | '\x7b' :: rest =>
      match depth with
      | 0 => .error .tooDeep
      | depth + 1 => readInlineTable (readValue depth) rest
    | s => readScalar s

def readHeader (closing : Text) (s : Text) : Except Fault (List Text × Text) := do
  let (path, rest) ← readKey s
  if closing.isPrefixOf rest then .ok (path, rest.drop closing.length) else .error .openHeader

def readStatement (s : Text) : Except Fault (Statement × Text) :=
  match s with
  | '[' :: '[' :: rest => (readHeader [']', ']'] rest).map fun (p, rest) => (.element p, rest)
  | '[' :: rest => (readHeader [']'] rest).map fun (p, rest) => (.header p, rest)
  | _ => (readAssignment (readValue (maxDepth - 1)) s).map fun ((p, v), rest) => (.assign p v, rest)

def readStatements : Nat → Text → Except Fault (List Statement)
  | 0, _ => .error .trailingText
  | rounds + 1, s => do
    match ← skipFiller false s with
    | [] => .ok []
    | s =>
      let (statement, rest) ← readStatement s
      let rest ← endLine rest
      let statements ← readStatements rounds rest
      .ok (statement :: statements)

def dropMark (s : Text) : Text :=
  match s with
  | '\ufeff' :: rest => rest
  | s => s

def parse (text : Text) : Except Fault (List (Text × Value)) := do
  let s := dropMark text
  ofStatements (← readStatements (s.length + 1) s)

end ImportCensus.Toml
