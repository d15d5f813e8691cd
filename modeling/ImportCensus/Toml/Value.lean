import ImportCensus.Text.Basic
/-!
# TOML values

The values of a TOML document, and the reasons for which a text is none or does not have the
shape that its reader expects.
-/

namespace ImportCensus.Toml

/-- A value of a document.  Floats and times keep their text: no setting holds one. -/
inductive Value
  | string (text : Text)
  | integer (n : Int)
  | float (text : Text)
  | boolean (b : Bool)
  | time (text : Text)
  | array (items : List Value)
  | table (entries : List (Text × Value))

inductive Fault
  | openString
  | badEscape
  | controlCharacter
  | badNumber
  | integerRange
  | floatRange
  | badTime
  | noValue
  | noKey
  | noEquals
  | openArray
  | openTable
  | openHeader
  | trailingText
  | duplicateKey (key : Text)
  | notATable (key : Text)
  | tooDeep
  | wrongType (expected : Text)
  deriving DecidableEq, Repr

def Fault.message : Fault → Text
  | openString => "a string is not closed"
  | badEscape => "a string has an unknown escape"
  | controlCharacter => "control characters must be escaped"
  | badNumber => "a number is malformed"
  | integerRange => "an integer is out of range"
  | floatRange => "a float is out of range"
  | badTime => "a date or time is malformed"
  | noValue => "a value is missing"
  | noKey => "a key is missing"
  | noEquals => "an equals sign is missing after a key"
  | openArray => "an array is not closed"
  | openTable => "an inline table is not closed"
  | openHeader => "a table header is not closed"
  | trailingText => "unexpected text at the end of a line"
  | duplicateKey key => "duplicate key " ++ key
  | notATable key => "not a table: " ++ key
  | tooDeep => "values are nested too deeply"
  | wrongType expected => "wrong type, expected " ++ expected

/-- Reads something from the front of a text and returns what follows. -/
abbrev Reader (α : Type) := Text → Except Fault (α × Text)

def maxDepth : Nat := 80

def digitValue? (c : Char) : Option Nat :=
  if '0' ≤ c && c ≤ '9' then some (c.toNat - '0'.toNat)
  else if 'a' ≤ c && c ≤ 'f' then some (c.toNat - 'a'.toNat + 10)
  else if 'A' ≤ c && c ≤ 'F' then some (c.toNat - 'A'.toNat + 10)
  else none

def isDigit (base : Nat) (c : Char) : Bool :=
  match digitValue? c with
  | some d => d < base
  | none => false

def digitsValue (base : Nat) (digits : Text) : Nat :=
  digits.foldl (fun n c => ((digitValue? c).map (n * base + ·)).getD n) 0

def isBlank (c : Char) : Bool :=
  c == ' ' || c == '\t'

def skipBlanks (s : Text) : Text :=
  s.dropWhile isBlank

def isPrintable (c : Char) : Bool :=
  c == '\t' || (0x20 ≤ c.toNat && c.toNat != 0x7F)

end ImportCensus.Toml
