import ImportCensus.Glob.Token
/-!
# Reading globs

A glob is read in one pass, a character at a time.  The state holds the tokens of the branch
that is being read, the groups around it, and what the characters read last still leave open: an
escape, one or two stars, or a class.
-/

namespace ImportCensus.Glob

inductive Reason
  | unclosedClass
  | invalidRange (first last : Char)
  | unopenedGroup
  | unclosedGroup
  | danglingEscape
  deriving DecidableEq, Repr

structure ParseError where
  glob : Text
  reason : Reason
  deriving DecidableEq, Repr

def Reason.message : Reason → Text
  | unclosedClass => "unclosed character class; missing ']'"
  | invalidRange first last => "invalid range; '" ++ first :: "' > '" ++ last :: "'"
  | unopenedGroup =>
    "unopened alternate group; missing '\x7b' (maybe escape '\x7d' with '[\x7d]'?)"
  | unclosedGroup =>
    "unclosed alternate group; missing '\x7d' (maybe escape '\x7b' with '[\x7b]'?)"
  | danglingEscape => "dangling '\\'"

def ParseError.message (e : ParseError) : Text :=
  "error parsing glob '" ++ e.glob ++ "': " ++ e.reason.message

/-- A group that is being read: its finished branches and the tokens of the last one. -/
structure OpenGroup where
  done : List (List Token) := []
  tokens : List Token := []

inductive Mode
  | plain
  | escaped
  /-- One star, and the character before it. -/
  | star (before : Option Char)
  /-- Two stars, and the character before them. -/
  | stars (before : Option Char)
  /-- An opening bracket. -/
  | bracket
  /-- A class: its ranges so far, whether its first character is still to come, and whether a
  dash waits for the end of a range. -/
  | inClass (negated : Bool) (ranges : List (Char × Char)) (first dash : Bool)

structure Reader where
  current : OpenGroup := {}
  /-- The groups around the current one, innermost first. -/
  outer : List OpenGroup := []
  /-- The character read last. -/
  last : Option Char := none
  mode : Mode := .plain

namespace Reader

def push (r : Reader) (t : Token) : Reader :=
  { r with current := { r.current with tokens := r.current.tokens ++ [t] } }

/-- Puts a double star in the place of the separator before it.  A double star that is there
already takes the new one in, and one that follows a leading or trailing one changes nothing. -/
def relink (r : Reader) (t : Token) : Reader :=
  let t' :=
    match r.current.tokens.getLast? with
    | some .leading => .leading
    | some .trailing => .trailing
    | _ => t
  { r with current := { r.current with tokens := r.current.tokens.dropLast ++ [t'] } }

def stepPlain (r : Reader) (c : Char) : Except Reason Reader :=
  match c with
  | '?' => .ok { r.push .anyByte with last := some c, mode := .plain }
  | '*' => .ok { r with last := some c, mode := .star r.last }
  | '[' => .ok { r with last := some c, mode := .bracket }
  | '\x7b' =>
    .ok { r with current := {}, outer := r.current :: r.outer, last := some c, mode := .plain }
  | '\x7d' =>
    match r.outer with
    | [] => .error .unopenedGroup
    | g :: gs =>
      let token := .group (r.current.done ++ [r.current.tokens])
      .ok { current := { g with tokens := g.tokens ++ [token] }, outer := gs
            last := some c, mode := .plain }
  | ',' =>
    if r.outer.isEmpty then .ok { r.push (.literal c) with last := some c, mode := .plain }
    else
      .ok { r with
        current := { done := r.current.done ++ [r.current.tokens], tokens := [] }
        last := some c, mode := .plain }
  | '\\' => .ok { r with last := some c, mode := .escaped }
  | _ => .ok { r.push (.literal c) with last := some c, mode := .plain }

/-- Whether two stars after the character `before` can be a component of their own. -/
def standsAlone (r : Reader) (before : Option Char) : Bool :=
  before == some '/' || (!r.outer.isEmpty && (before == some ',' || before == some '\x7b'))

def stepStars (r : Reader) (before : Option Char) (c : Char) : Except Reason Reader :=
  if r.current.tokens.isEmpty then
    if c = '/' then .ok { r.push .leading with last := some c, mode := .plain }
    else ((r.push .run).push .run).stepPlain c
  else if !r.standsAlone before then ((r.push .run).push .run).stepPlain c
  else if c = '/' then .ok { r.relink .inner with last := some c, mode := .plain }
  else if (c = ',' || c = '\x7d') && !r.outer.isEmpty then (r.relink .trailing).stepPlain c
  else ((r.push .run).push .run).stepPlain c

def extendRange (ranges : List (Char × Char)) (c : Char) :
    Except Reason (List (Char × Char)) :=
  match ranges.getLast? with
  | some (first, _) =>
    if c < first then .error (.invalidRange first c)
    else .ok (ranges.dropLast ++ [(first, c)])
  | none => .ok [(c, c)]

def stepClass (r : Reader) (negated : Bool) (ranges : List (Char × Char)) (first dash : Bool)
    (c : Char) : Except Reason Reader :=
  if c = ']' && !first then
    let ranges := if dash then ranges ++ [('-', '-')] else ranges
    .ok { r.push (.oneOf negated ranges) with last := some c, mode := .plain }
  else if c = '-' && !first && !dash then
    .ok { r with last := some c, mode := .inClass negated ranges false true }
  else if dash then do
    let ranges ← extendRange ranges c
    .ok { r with last := some c, mode := .inClass negated ranges false false }
  else
    .ok { r with last := some c, mode := .inClass negated (ranges ++ [(c, c)]) false false }

def step (r : Reader) (c : Char) : Except Reason Reader :=
  match r.mode with
  | .plain => r.stepPlain c
  | .escaped => .ok { r.push (.literal c) with last := some c, mode := .plain }
  | .star before =>
    if c = '*' then .ok { r with last := some c, mode := .stars before }
    else (r.push .run).stepPlain c
  | .stars before => r.stepStars before c
  | .bracket =>
    if c = '!' || c = '^' then .ok { r with last := some c, mode := .inClass true [] true false }
    else r.stepClass false [] true false c
  | .inClass negated ranges first dash => r.stepClass negated ranges first dash c

def settle (r : Reader) : Except Reason Reader :=
  match r.mode with
  | .plain => .ok r
  | .escaped => .error .danglingEscape
  | .star _ => .ok (r.push .run)
  | .stars before =>
    if r.current.tokens.isEmpty then .ok (r.push .leading)
    else if r.standsAlone before then .ok (r.relink .trailing)
    else .ok ((r.push .run).push .run)
  | .bracket => .error .unclosedClass
  | .inClass .. => .error .unclosedClass

def finish (r : Reader) : Except Reason (List Token) := do
  let r ← r.settle
  if r.outer.isEmpty then .ok r.current.tokens else .error .unclosedGroup

end Reader

def parse (text : Text) : Except Reason (List Token) := do
  let r ← text.foldlM Reader.step {}
  r.finish

end ImportCensus.Glob
