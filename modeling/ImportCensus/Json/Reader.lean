import ImportCensus.Text.Basic
/-!
# Reading JSON

What a JSON text says.  Blanks may stand between tokens and nowhere else; strings hold no control
characters and know two kinds of escapes, and a character beyond the first plane takes two of the
numbered ones.  A loop carries a bound on its rounds and a value one on its depth, both of which
the length of the text gives: every round and every level takes at least one character.
-/

namespace ImportCensus.Json

/-- A number as it is written: some digits times a power of ten. -/
structure Decimal where
  negative : Bool := false
  digits : Nat
  exponent : Int := 0
  deriving DecidableEq, Repr

/-- What a JSON text says. -/
inductive Datum
  | null
  | boolean (b : Bool)
  | number (n : Decimal)
  | text (content : Text)
  | list (items : List Datum)
  /-- Named values in the order of the text, in which a name may come more than once. -/
  | object (members : List (Text × Datum))

abbrev Reader (α : Type) := Text → Option (α × Text)

def isBlank (c : Char) : Bool :=
  c == ' ' || c == '\t' || c == '\n' || c == '\r'

def skipBlanks (s : Text) : Text :=
  s.dropWhile isBlank

/-! ## Strings -/

/-- A part of a string: a character, or a unit of 16 bits that is given by its number. -/
inductive Piece
  | char (c : Char)
  | unit (n : Nat)
  deriving DecidableEq, Repr

def namedEscapes : List (Char × Char) :=
  [('"', '"'), ('\\', '\\'), ('/', '/'), ('b', '\x08'), ('f', '\x0C'), ('n', '\n'), ('r', '\r'),
    ('t', '\t')]

def hexValue? (c : Char) : Option Nat :=
  "0123456789abcdef".toList.idxOf? c.toLower

def unit? (a b c d : Char) : Option Nat := do
  let high := (← hexValue? a) * 16 + (← hexValue? b)
  some ((high * 16 + (← hexValue? c)) * 16 + (← hexValue? d))

def readPieces : Reader (List Piece)
  | [] => none
  | '"' :: rest => some ([], rest)
  | '\\' :: 'u' :: a :: b :: c :: d :: rest => do
    let n ← unit? a b c d
    let (pieces, rest) ← readPieces rest
    some (.unit n :: pieces, rest)
  | '\\' :: c :: rest => do
    let c ← namedEscapes.lookup c
    let (pieces, rest) ← readPieces rest
    some (.char c :: pieces, rest)
  | c :: rest => do
    if c.toNat < 0x20 then none
    let (pieces, rest) ← readPieces rest
    some (.char c :: pieces, rest)

def isLead (n : Nat) : Bool :=
  0xD800 ≤ n && n < 0xDC00

def isTrail (n : Nat) : Bool :=
  0xDC00 ≤ n && n < 0xE000

/-- The characters of the parts of a string; `lead` is the first unit of two. -/
def joinPieces (lead : Option Nat) : List Piece → Option Text
  | [] => if lead.isNone then some [] else none
  | .char c :: rest => do
    if lead.isSome then none
    some (c :: (← joinPieces none rest))
  | .unit n :: rest =>
    match lead with
    | some m => do
      if !isTrail n then none
      some (Char.ofNat (0x10000 + (m - 0xD800) * 0x400 + (n - 0xDC00)) :: (← joinPieces none rest))
    | none =>
      if isLead n then joinPieces (some n) rest
      else do
        if isTrail n then none
        some (Char.ofNat n :: (← joinPieces none rest))

def readText (s : Text) : Option (Text × Text) := do
  let (pieces, rest) ← readPieces s
  some (← joinPieces none pieces, rest)

/-! ## Numbers -/

def readDigits (s : Text) : Option (Text × Text) := do
  if (s.takeWhile Char.isDigit).isEmpty then none
  some (s.takeWhile Char.isDigit, s.dropWhile Char.isDigit)

def digitsValue (digits : Text) : Nat :=
  Nat.ofDigitChars 10 digits 0

def readWhole (s : Text) : Option (Text × Text) :=
  match s with
  | '0' :: rest => some (['0'], rest)
  | _ => readDigits s

def readFraction (s : Text) : Option (Text × Text) :=
  match s with
  | '.' :: rest => readDigits rest
  | _ => some ([], s)

def readPower (s : Text) : Option (Int × Text) :=
  match s with
  | '-' :: rest => (readDigits rest).map fun (digits, rest) => (-(digitsValue digits : Int), rest)
  | '+' :: rest => (readDigits rest).map fun (digits, rest) => ((digitsValue digits : Int), rest)
  | _ => (readDigits s).map fun (digits, rest) => ((digitsValue digits : Int), rest)

def readExponent (s : Text) : Option (Int × Text) :=
  match s with
  | 'e' :: rest => readPower rest
  | 'E' :: rest => readPower rest
  | _ => some (0, s)

def readUnsigned (negative : Bool) (s : Text) : Option (Decimal × Text) := do
  let (whole, rest) ← readWhole s
  let (fraction, rest) ← readFraction rest
  let (exponent, rest) ← readExponent rest
  some (⟨negative, digitsValue (whole ++ fraction), exponent - fraction.length⟩, rest)

def readNumber (s : Text) : Option (Decimal × Text) :=
  match s with
  | '-' :: rest => readUnsigned true rest
  | _ => readUnsigned false s

/-! ## Values -/

/-- Parts with commas between them up to the closing sign, at least one and at most `rounds`. -/
def readParts {α : Type} (part : Reader α) (close : Char) : Nat → Reader (List α)
  | 0, _ => none
  | rounds + 1, s => do
    let (x, rest) ← part (skipBlanks s)
    match skipBlanks rest with
    | [] => none
    | c :: rest =>
      if c = close then some ([x], rest)
      else if c = ',' then
        (readParts part close rounds rest).map fun (xs, rest) => (x :: xs, rest)
      else none

def readRow {α : Type} (part : Reader α) (close : Char) (s : Text) : Option (List α × Text) :=
  match skipBlanks s with
  | [] => none
  | c :: rest => if c = close then some ([], rest) else readParts part close s.length (c :: rest)

def readMember (value : Reader Datum) (s : Text) : Option ((Text × Datum) × Text) :=
  match s with
  | '"' :: rest => do
    let (name, rest) ← readText rest
    match skipBlanks rest with
    | ':' :: rest => (value (skipBlanks rest)).map fun (v, rest) => ((name, v), rest)
    | _ => none
  | _ => none

def readScalar (s : Text) : Option (Datum × Text) :=
  match s with
  | '"' :: rest => (readText rest).map fun (content, rest) => (.text content, rest)
  | 'n' :: 'u' :: 'l' :: 'l' :: rest => some (.null, rest)
  | 't' :: 'r' :: 'u' :: 'e' :: rest => some (.boolean true, rest)
  | 'f' :: 'a' :: 'l' :: 's' :: 'e' :: rest => some (.boolean false, rest)
  | _ => (readNumber s).map fun (n, rest) => (.number n, rest)

/-- A value with at most `depth` levels of lists and objects. -/
def readValue : Nat → Reader Datum
  | 0, s => readScalar s
  | depth + 1, s =>
    match s with
    | '[' :: rest =>
      (readRow (readValue depth) ']' rest).map fun (items, rest) => (.list items, rest)
    | '\x7b' :: rest =>
      (readRow (readMember (readValue depth)) '\x7d' rest).map fun (members, rest) =>
        (.object members, rest)
    | _ => readScalar s

def decode (s : Text) : Option Datum := do
  let (v, rest) ← readValue s.length (skipBlanks s)
  if (skipBlanks rest).isEmpty then some v else none

end ImportCensus.Json
