import ImportCensus.Glob.Capacity
import ImportCensus.Text.Quoted
/-!
# Sets of globs

Globs that are matched together.  A set is made of globs that are well formed, the expressions that
it needs must not be nested too deep, and there must be room for their automata.
-/

namespace ImportCensus

structure GlobSet where
  globs : List Glob

namespace GlobSet

/-- Why there is no set of some globs. -/
inductive Fault
  /-- One of them is no glob. -/
  | malformed (cause : Glob.ParseError)
  /-- The expression at a position of those that are put together is nested too deep; one that
  stands alone is named. -/
  | tooDeep (expression : Option Text) (position : Nat)
  /-- There is no room for the automaton of some expressions; one that stands alone is named. -/
  | tooLarge (expression : Option Text)
  deriving DecidableEq, Repr

def Fault.message : Fault → Text
  | malformed cause => cause.message
  | tooDeep none position => "error parsing pattern " ++ Text.ofNat position
  | tooDeep (some expression) position =>
    "error parsing glob '" ++ expression ++ "': error parsing pattern " ++ Text.ofNat position
  | tooLarge none => "error building NFA"
  | tooLarge (some expression) =>
    "error parsing glob '" ++ expression ++ "': error building NFA"

def isTooDeep (g : Glob) : Bool :=
  Glob.maxDepth < Glob.depth g.tokens

/-- Whether the expression of a glob stands alone in a set. -/
def standsAlone (g : Glob) : Bool :=
  g.strategy.asksForName && g.strategy.usesExpression

section Building

variable [Glob.Capacity]

/-- Builds the automaton of a glob whose expression stands alone. -/
def checkAlone (g : Glob) : Except Fault Unit :=
  if isTooDeep g then .error (.tooDeep (some (Glob.expression g.fold g.tokens)) 0)
  else if Glob.Capacity.admits [g] then .ok ()
  else .error (.tooLarge (some (Glob.expression g.fold g.tokens)))

def checkSingly (globs : List Glob) : Except Fault Unit :=
  forM (globs.filter standsAlone) checkAlone

/-- Builds the automaton of the globs of one strategy.  All of them are read before anything is
built. -/
def checkTogether (strategy : Glob.Strategy) (globs : List Glob) : Except Fault Unit :=
  let parts := globs.filter (·.strategy = strategy)
  match parts.findIdx? isTooDeep with
  | some position => .error (.tooDeep none position)
  | none => if Glob.Capacity.admits parts then .ok () else .error (.tooLarge none)

def ofGlobs (globs : List Glob) : Except Fault GlobSet := do
  checkSingly globs
  checkTogether .nameExpression globs
  checkTogether .expression globs
  .ok ⟨globs⟩

end Building

def isMatch (s : GlobSet) (path : List UInt8) : Bool :=
  s.globs.any (·.isMatch path)

def wholeTexts (globs : List Glob) : List Text :=
  globs.filterMap fun g =>
    match g.strategy with
    | .whole s => some s
    | .ending s => some s.tail
    | _ => none

def nameTexts (globs : List Glob) : List Text :=
  globs.filterMap fun g =>
    match g.strategy with
    | .name s => some s
    | _ => none

def extensionTexts (globs : List Glob) : List Text :=
  globs.filterMap fun g =>
    match g.strategy with
    | .extension s => some s
    | _ => none

def requiredTexts (globs : List Glob) : List Text :=
  globs.filterMap fun g =>
    match g.strategy with
    | .requiredExtension s => some s
    | _ => none

def countOf (p : Glob.Strategy → Bool) (globs : List Glob) : Nat :=
  globs.countP fun g => p g.strategy

def counted (n : Nat) (what : Text) : Text :=
  Text.ofNat n ++ ' ' :: what

/-- How many means of each kind some globs are decided by.  A text that several globs are
compared with counts once. -/
def summary (globs : List Glob) : Text :=
  (", " : Text).intercalate
    [counted (wholeTexts globs).eraseDups.length "literals",
      counted (nameTexts globs).eraseDups.length "basenames",
      counted (extensionTexts globs).eraseDups.length "extensions",
      counted (countOf (· matches .beginning _) globs) "prefixes",
      counted (countOf (· matches .ending _) globs) "suffixes",
      counted (requiredTexts globs).eraseDups.length "required extensions",
      counted (countOf (· = .nameExpression) globs) "basename regexes",
      counted (countOf (· = .expression) globs) "regexes"]

end GlobSet

end ImportCensus
