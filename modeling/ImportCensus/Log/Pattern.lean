import ImportCensus.Log.Pattern.Bracket
import ImportCensus.Text.Letter
/-!
# Patterns for values

A directive of a log filter may ask for a value by a regular expression.  No event is ever
compared with one, since a directive with a value speaks about spans; but a text that is no
expression spoils the whole filter.  Here is what counts as one.  A closing brace ends the
directive's field, so an opening brace can have no partner in an expression.
-/

namespace ImportCensus.Log.Pattern

def maxDepth : Nat := 250

/-- A group that is being read, or the whole expression. -/
structure Level where
  /-- The mode behind the group. -/
  after : Mode := {}
  /-- How deep the branches that are finished are nested. -/
  branches : List Nat := []
  /-- How deep the parts of the last branch are nested, the last part first.  A switch of the mode
  is a part too, but one that cannot be repeated. -/
  parts : List (Option Nat) := []

namespace Level

def add (l : Level) (depth : Nat) : Level :=
  { l with parts := some depth :: l.parts }

def addSwitch (l : Level) : Level :=
  { l with parts := none :: l.parts }

def repeat? (l : Level) : Option Level :=
  match l.parts with
  | some d :: rest => some { l with parts := some (d + 1) :: rest }
  | _ => none

def branchDepth (l : Level) : Nat :=
  rowDepth (l.parts.map (·.getD 0))

def nextBranch (l : Level) : Level :=
  { l with branches := l.branchDepth :: l.branches, parts := [] }

def depth (l : Level) : Nat :=
  rowDepth (l.branchDepth :: l.branches)

end Level

def switched (letters : Text) : Text × Text :=
  let on := letters.takeWhile (· != '-')
  (on, letters.drop (on.length + 1))

def areSwitches (letters : Text) : Bool :=
  let all := (switched letters).1 ++ (switched letters).2
  letters.getLast? != some '-' && all.all ("imsUuxR".contains ·) &&
    all.eraseDups.length = all.length

def switchedTo (letter : Char) (letters : Text) (old : Bool) : Bool :=
  if (switched letters).1.contains letter then true
  else if (switched letters).2.contains letter then false
  else old

def Mode.switch (m : Mode) (letters : Text) : Mode where
  skipsBlanks := switchedTo 'x' letters m.skipsBlanks
  unicode := switchedTo 'u' letters m.unicode

def isGroupName : Text → Bool
  | [] => false
  | c :: rest =>
    (c == '_' || Text.isLetter c) &&
      rest.all fun c => c == '_' || c == '.' || c == '[' || c == ']' || Text.isLetterOrNumber c

structure Reader where
  mode : Mode := {}
  level : Level := {}
  /-- The groups around the current one, innermost first. -/
  outer : List Level := []
  /-- The names of groups so far. -/
  names : List Text := []

namespace Reader

def add (r : Reader) (depth : Nat) : Reader :=
  { r with level := r.level.add depth }

def openGroup (r : Reader) (mode : Mode) : Reader :=
  { r with mode := mode, level := { after := r.mode }, outer := r.level :: r.outer }

def openNamed? (r : Reader) (s : Text) : Option (Reader × Text) :=
  let name := s.takeWhile (· != '>')
  match s.drop name.length with
  | _ :: rest =>
    if isGroupName name && !r.names.contains name then
      some ({ r.openGroup r.mode with names := name :: r.names }, rest)
    else none
  | [] => none

/-- Switches the mode, for the group that follows or for the rest of the current one. -/
def switch? (r : Reader) (s : Text) : Option (Reader × Text) :=
  let letters := s.takeWhile fun c => c != ':' && c != ')'
  let mode := r.mode.switch letters
  match s.drop letters.length with
  | ':' :: rest => if areSwitches letters then some (r.openGroup mode, rest) else none
  | ')' :: rest =>
    if areSwitches letters && !letters.isEmpty then
      some ({ r with mode := mode, level := r.level.addSwitch }, rest)
    else none
  | _ => none

def open? (r : Reader) (s : Text) : Option (Reader × Text) :=
  match r.mode.skip s with
  | '?' :: 'P' :: '<' :: rest => r.openNamed? rest
  | '?' :: '<' :: rest => r.openNamed? rest
  | '?' :: rest => r.switch? rest
  | rest => some (r.openGroup r.mode, rest)

def close? (r : Reader) : Option Reader :=
  match r.outer with
  | [] => none
  | o :: os =>
    some { r with mode := r.level.after, level := o.add (r.level.depth + 1), outer := os }

def step? (r : Reader) (c : Char) (rest : Text) : Option (Reader × Text) :=
  match c with
  | '(' => r.open? rest
  | ')' => r.close?.map (·, rest)
  | '|' => some ({ r with level := r.level.nextBranch }, rest)
  | '[' => (bracket? r.mode rest).map fun (depth, behind) => (r.add depth, behind)
  | '\\' => (escape? r.mode rest).map fun (_, behind) => (r.add 0, behind)
  | '.' => if r.mode.unicode then some (r.add 0, rest) else none
  | '\x7b' => none
  | _ =>
    if c = '*' || c = '+' || c = '?' then
      r.level.repeat?.map fun level => ({ r with level := level }, Text.dropLead ['?'] rest)
    else some (r.add 0, rest)

def isDone (r : Reader) : Bool :=
  r.outer.isEmpty && r.level.depth ≤ maxDepth

def accepts : Nat → Reader → Text → Bool
  | 0, _, _ => false
  | fuel + 1, r, s =>
    match r.mode.skip s with
    | [] => r.isDone
    | c :: rest =>
      match r.step? c rest with
      | some (r, behind) => accepts fuel r behind
      | none => false

end Reader

def isExpression (s : Text) : Bool :=
  Reader.accepts (s.length + 1) {} s

/-- Whether a text with a plus sign before it is a number all the same. -/
def isSignedNumber (s : Text) : Bool :=
  match s with
  | '+' :: body =>
    let small := body.map Char.toLower
    let whole := body.takeWhile Char.isDigit
    let rest := body.drop whole.length
    let fraction := (Text.dropLead ['.'] rest).takeWhile Char.isDigit
    let mantissa := if rest.head? == some '.' then fraction.length + 1 else 0
    let exponent := rest.drop mantissa
    let exponentOk :=
      match exponent with
      | [] => true
      | e :: digits =>
        let digits := if digits.head? == some '+' || digits.head? == some '-' then digits.drop 1
          else digits
        (e == 'e' || e == 'E') && !digits.isEmpty && digits.all Char.isDigit
    small = "inf".toList || small = "infinity".toList || small = "nan".toList ||
      (!(whole.isEmpty && (mantissa ≤ 1)) && exponentOk)
  | _ => false

def isValue (s : Text) : Bool :=
  isSignedNumber s || isExpression s

end ImportCensus.Log.Pattern
