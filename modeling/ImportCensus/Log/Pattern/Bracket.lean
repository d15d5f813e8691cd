import ImportCensus.Log.Pattern.Escape
/-!
# Bracketed classes in patterns

A class of characters in brackets: characters, ranges, classes with a name, and brackets in
brackets, with operators between them.  What is kept of a class is how deep it is nested.
-/

namespace ImportCensus.Log.Pattern

/-- How deep a row of items is nested: a row of several is a level of its own. -/
def rowDepth : List Nat → Nat
  | [] => 0
  | [d] => d
  | ds => ds.foldl max 0 + 1

structure Bracket where
  /-- How deep the items of the last operand are nested. -/
  items : List Nat := []
  /-- How deep the operands before the last operator are nested, if there is one. -/
  left : Option Nat := none

namespace Bracket

def add (b : Bracket) (depth : Nat) : Bracket :=
  { b with items := depth :: b.items }

def content (b : Bracket) : Nat :=
  match b.left with
  | none => rowDepth b.items
  | some l => max l (rowDepth b.items) + 1

def depth (b : Bracket) : Nat :=
  b.content + 1

def operate (b : Bracket) : Bracket where
  left := some b.content

end Bracket

def leadingDashes (m : Mode) : Nat → Text → Nat × Text
  | 0, s => (0, s)
  | fuel + 1, '-' :: rest =>
    let (n, r) := leadingDashes m fuel (m.skip rest)
    (n + 1, r)
  | _, s => (0, s)

/-- Reads the beginning of a bracket behind its first character: a negation, which bytes do not
admit, then dashes, or else a closing bracket, that stand for themselves. -/
def bracketStart? (m : Mode) (s : Text) : Option (Bracket × Text) :=
  let s := m.skip s
  let negated := s.head? == some '^'
  if negated && !m.unicode then none
  else
    let s := if negated then m.skip (s.drop 1) else s
    let (dashes, s) := leadingDashes m s.length s
    match s with
    | ']' :: rest =>
      if dashes = 0 then some ({ items := [0] }, m.skip rest)
      else some ({ items := List.replicate dashes 0 }, s)
    | _ => some ({ items := List.replicate dashes 0 }, s)

def bracketItem? (m : Mode) : Text → Option (Option Nat × Text)
  | [] => none
  | '\\' :: rest => do
    match ← escape? m rest with
    | (.char n, r) => if m.admits n then some (some n, r) else none
    | (.anyOf, r) => some (none, r)
    | (.position, _) => none
  | c :: rest => if m.admits c.toNat then some (some c.toNat, rest) else none

def bracketRange? (m : Mode) (s : Text) : Option Text := do
  let (low, rest) ← bracketItem? m s
  match m.skip rest with
  | '-' :: after =>
    if m.peek after == some ']' || m.peek after == some '-' then some ('-' :: after)
    else
      match low, ← bracketItem? m (m.skip after) with
      | some l, (some h, r) => if l ≤ h then some r else none
      | _, _ => none
  | rest => some rest

def classNames : List Text :=
  ["alnum", "alpha", "ascii", "blank", "cntrl", "digit", "graph", "lower", "print", "punct",
    "space", "upper", "word", "xdigit"]

def namedClass? : Text → Option (Bool × Text)
  | ':' :: s =>
    let negated := s.head? == some '^'
    let s := Text.dropLead ['^'] s
    let name := s.takeWhile (· != ':')
    match s.drop name.length with
    | ':' :: ']' :: rest => if classNames.contains name then some (negated, rest) else none
    | _ => none
  | _ => none

/-- Reads the rest of a bracket that stands in others, innermost first: how deep the outermost is
nested, and the text behind it. -/
def bracketEnd? (m : Mode) : Nat → Bracket → List Bracket → Text → Option (Nat × Text)
  | 0, _, _, _ => none
  | fuel + 1, b, outer, s =>
    match m.skip s with
    | [] => none
    | ']' :: rest =>
      match outer with
      | [] => some (b.depth, rest)
      | o :: os => bracketEnd? m fuel (o.add b.depth) os rest
    | '[' :: rest =>
      match namedClass? rest with
      | some (negated, r) =>
        if negated && !m.unicode then none else bracketEnd? m fuel (b.add 0) outer r
      | none => do
        let (inner, r) ← bracketStart? m rest
        bracketEnd? m fuel inner (b :: outer) r
    | '&' :: '&' :: rest => bracketEnd? m fuel b.operate outer rest
    | '-' :: '-' :: rest => bracketEnd? m fuel b.operate outer rest
    | '~' :: '~' :: rest => bracketEnd? m fuel b.operate outer rest
    | s => do bracketEnd? m fuel (b.add 0) outer (← bracketRange? m s)

/-- Reads a class behind its opening bracket: how deep it is nested, and the text behind it. -/
def bracket? (m : Mode) (s : Text) : Option (Nat × Text) := do
  let (b, r) ← bracketStart? m s
  bracketEnd? m (s.length + 1) b [] r

end ImportCensus.Log.Pattern
