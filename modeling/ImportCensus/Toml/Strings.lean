import ImportCensus.Toml.Value
/-!
# Reading strings

The four string forms: basic and literal, each on one line or over several.  Basic strings are
read by a machine whose mode tells what an open backslash still waits for.
-/

namespace ImportCensus.Toml

/-- What the characters of a basic string have left open. -/
inductive StringMode
  | plain
  /-- A backslash. -/
  | escape
  /-- A character number: the digits to come and the value of those read. -/
  | code (left value : Nat)
  /-- A backslash and blanks; a line end has to follow. -/
  | lineEnd
  /-- A backslash and a line end: blanks and line ends are skipped. -/
  | skip
  deriving DecidableEq

def escapedChar? (c : Char) : Option Char :=
  match c with
  | 'b' => some '\x08'
  | 't' => some '\t'
  | 'n' => some '\n'
  | 'f' => some '\x0c'
  | 'r' => some '\r'
  | '"' => some '"'
  | '\\' => some '\\'
  | _ => none

def codeLength? (c : Char) : Option Nat :=
  match c with
  | 'u' => some 4
  | 'U' => some 8
  | _ => none

def charOfCode? (n : Nat) : Option Char :=
  if h : n.isValidChar then some (Char.ofNatAux n h) else none

def stepEscape (mode : StringMode) (c : Char) : Except Fault (StringMode × Text) :=
  match mode with
  | .code left value =>
    match digitValue? c with
    | none => .error .badEscape
    | some d =>
      let value := value * 16 + d
      if left ≤ 1 then
        match charOfCode? value with
        | some c => .ok (.plain, [c])
        | none => .error .badEscape
      else .ok (.code (left - 1) value, [])
  | _ =>
    match escapedChar? c, codeLength? c with
    | some c, _ => .ok (.plain, [c])
    | none, some n => .ok (.code n 0, [])
    | none, none => .error .badEscape

def prepend (cs : Text) : Except Fault (Text × Text) → Except Fault (Text × Text)
  | .ok (text, rest) => .ok (cs ++ text, rest)
  | .error e => .error e

def basicBody (mode : StringMode) : Reader Text
  | [] => .error .openString
  | c :: rest =>
    match mode with
    | .plain =>
      if c = '"' then .ok ([], rest)
      else if c = '\\' then basicBody .escape rest
      else if isPrintable c then prepend [c] (basicBody .plain rest)
      else .error .controlCharacter
    | mode =>
      match stepEscape mode c with
      | .ok (mode, cs) => prepend cs (basicBody mode rest)
      | .error e => .error e

def literalBody : Reader Text
  | [] => .error .openString
  | c :: rest =>
    if c = '\'' then .ok ([], rest)
    else if isPrintable c then prepend [c] (literalBody rest)
    else .error .controlCharacter

/-- The quotes of a string that may stand right before its three closing ones: at most two. -/
def closingQuotes (quote : Char) (rest : Text) : Text × Text :=
  let extra := (rest.takeWhile (· == quote)).take 2
  (extra, rest.drop extra.length)

def beginsLineEnd (c : Char) (rest : Text) : Bool :=
  c == '\n' || (c == '\r' && rest.head? == some '\n')

def beginsClosing (quote c : Char) (rest : Text) : Bool :=
  c == quote && [quote, quote].isPrefixOf rest

def longBasicBody (mode : StringMode) : Reader Text
  | [] => .error .openString
  | c :: rest =>
    match mode with
    | .code left value =>
      match stepEscape (.code left value) c with
      | .ok (mode, cs) => prepend cs (longBasicBody mode rest)
      | .error e => .error e
    | .lineEnd =>
      if isBlank c then longBasicBody .lineEnd rest
      else if c = '\n' then longBasicBody .skip rest
      else if beginsLineEnd c rest then longBasicBody .lineEnd rest
      else .error .badEscape
    | .escape =>
      if isBlank c then longBasicBody .lineEnd rest
      else if c = '\n' then longBasicBody .skip rest
      else if beginsLineEnd c rest then longBasicBody .lineEnd rest
      else
        match stepEscape .escape c with
        | .ok (mode, cs) => prepend cs (longBasicBody mode rest)
        | .error e => .error e
    | mode =>
      if beginsClosing '"' c rest then .ok (closingQuotes '"' (rest.drop 2))
      else if c = '\\' then longBasicBody .escape rest
      else if mode = .skip && (isBlank c || beginsLineEnd c rest) then longBasicBody .skip rest
      else if c = '\r' && beginsLineEnd c rest then longBasicBody .plain rest
      else if isPrintable c || c = '\n' then prepend [c] (longBasicBody .plain rest)
      else .error .controlCharacter

def longLiteralBody : Reader Text
  | [] => .error .openString
  | c :: rest =>
    if beginsClosing '\'' c rest then .ok (closingQuotes '\'' (rest.drop 2))
    else if c = '\r' && beginsLineEnd c rest then longLiteralBody rest
    else if isPrintable c || c = '\n' then prepend [c] (longLiteralBody rest)
    else .error .controlCharacter

def dropLineEnd : Text → Text
  | '\n' :: rest => rest
  | '\r' :: '\n' :: rest => rest
  | s => s

def readBasic (s : Text) : Except Fault (Text × Text) :=
  match s with
  | '"' :: '"' :: rest => longBasicBody .plain (dropLineEnd rest)
  | _ => basicBody .plain s

def readLiteral (s : Text) : Except Fault (Text × Text) :=
  match s with
  | '\'' :: '\'' :: rest => longLiteralBody (dropLineEnd rest)
  | _ => literalBody s

end ImportCensus.Toml
