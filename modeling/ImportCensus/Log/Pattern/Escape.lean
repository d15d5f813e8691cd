import ImportCensus.Text.Blank
/-!
# Escapes in patterns

What a backslash begins in a regular expression, and how the expression is read where it stands:
with blanks that count or not, and about characters or about bytes.  An expression about bytes
must not match text that is not ASCII, unless the text is written out.
-/

namespace ImportCensus.Log.Pattern

structure Mode where
  /-- Whether blanks and comments are passed over. -/
  skipsBlanks : Bool := false
  /-- Whether the expression is about characters; it is about bytes otherwise. -/
  unicode : Bool := true
  deriving DecidableEq, Repr

def afterBlanks (inComment : Bool) : Text → Text
  | [] => []
  | c :: rest =>
    if inComment then afterBlanks (c != '\n') rest
    else if Text.isWhiteSpace c then afterBlanks false rest
    else if c = '#' then afterBlanks true rest
    else c :: rest

namespace Mode

def skip (m : Mode) (s : Text) : Text :=
  if m.skipsBlanks then afterBlanks false s else s

/-- The character to come, as far as the reader of ranges looks: behind blanks and one number
sign, whatever follows that. -/
def peek (m : Mode) (s : Text) : Option Char :=
  if !m.skipsBlanks then s.head?
  else
    match s.dropWhile Text.isWhiteSpace with
    | [] => s.head?
    | '#' :: rest => (rest.dropWhile Text.isWhiteSpace).head? <|> s.head?
    | c :: _ => some c

/-- Whether the mode admits the code of a character where only one unit may stand. -/
def admits (m : Mode) (code : Nat) : Bool :=
  m.unicode || code < 0x80

end Mode

inductive Escape
  /-- A character, by its code. -/
  | char (code : Nat)
  /-- One of several characters. -/
  | anyOf
  /-- A position in the text. -/
  | position
  deriving DecidableEq, Repr

def isEscapable (c : Char) : Bool :=
  c.toNat < 0x80 && !c.isAlphanum && c != '<' && c != '>'

def hexValue? (c : Char) : Option Nat :=
  if c.isDigit then some (c.toNat - '0'.toNat)
  else if 'a' ≤ c && c ≤ 'f' then some (c.toNat - 'a'.toNat + 10)
  else if 'A' ≤ c && c ≤ 'F' then some (c.toNat - 'A'.toNat + 10)
  else none

def hexDigits? (m : Mode) (n : Nat) : Nat → Text → Option (Nat × Text)
  | 0, s => some (n, s)
  | _ + 1, [] => none
  | count + 1, c :: rest => do hexDigits? m (n * 16 + (← hexValue? c)) count (m.skip rest)

def code? (m : Mode) (count : Nat) (s : Text) : Option (Nat × Text) :=
  (hexDigits? m 0 count (m.skip s)).filter fun (n, _) => n.isValidChar

def namedCodes : List (Char × Nat) :=
  [('a', 0x07), ('f', 0x0C), ('t', 0x09), ('n', 0x0A), ('r', 0x0D), ('v', 0x0B)]

def categories : Text :=
  "lmnpszc"

def category? (m : Mode) (s : Text) : Option Text :=
  match m.skip s with
  | c :: rest => if m.unicode && categories.contains c.toLower then some (m.skip rest) else none
  | [] => none

/-- Reads what follows a backslash.  Word boundaries are known for bytes only, and what stands
for all characters but some is not, since that takes in parts of characters. -/
def escape? (m : Mode) : Text → Option (Escape × Text)
  | [] => none
  | c :: rest =>
    if "dsw".contains c then some (.anyOf, rest)
    else if "DSW".contains c then if m.unicode then some (.anyOf, rest) else none
    else if "Az".contains c then some (.position, rest)
    else if "bB<>".contains c then if m.unicode then none else some (.position, rest)
    else if c = 'x' then
      ((code? m 2 rest).filter fun (n, _) => m.admits n).map fun (n, r) => (.char n, r)
    else if c = 'u' then (code? m 4 rest).map fun (n, r) => (.char n, r)
    else if c = 'U' then (code? m 8 rest).map fun (n, r) => (.char n, r)
    else if c = 'p' || c = 'P' then (category? m rest).map (.anyOf, ·)
    else
      match namedCodes.lookup c with
      | some n => some (.char n, rest)
      | none => if isEscapable c then some (.char c.toNat, rest) else none

end ImportCensus.Log.Pattern
