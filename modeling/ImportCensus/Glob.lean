import ImportCensus.Glob.Expression
import ImportCensus.Glob.Matcher
import ImportCensus.Glob.Parser
import ImportCensus.Glob.Strategy
/-!
# Globs

A glob is compiled from its text once and then matched against whole paths.  A single double
star, which as a token would stand for leading components only, matches every path.
-/

namespace ImportCensus

structure Glob where
  text : Text
  fold : Bool
  tokens : List Glob.Token

namespace Glob

def compile (fold : Bool) (text : Text) : Except ParseError Glob :=
  match parse text with
  | .ok tokens => .ok ⟨text, fold, tokens⟩
  | .error reason => .error ⟨text, reason⟩

def strategy (g : Glob) : Strategy :=
  strategyOf g.fold g.tokens

def lastComponent (path : List UInt8) : List UInt8 :=
  (path.reverse.takeWhile (· != slash)).reverse

/-- Whether a path ends in a step upwards, and so has no name. -/
def isNameless (path : List UInt8) : Bool :=
  lastComponent path == [0x2E, 0x2E]

def fits (g : Glob) (path : List UInt8) : Bool :=
  match g.tokens with
  | [.leading] => true
  | tokens => accepts g.fold tokens path

def isMatch (g : Glob) (path : List UInt8) : Bool :=
  g.fits path && !(g.strategy.asksForName && isNameless path)

def Matches (g : Glob) (path : List UInt8) : Prop :=
  (g.tokens = [.leading] ∨ SeqMatches g.fold g.tokens path) ∧
    ¬ (g.strategy.asksForName = true ∧ isNameless path = true)

theorem fits_iff {g : Glob} {path : List UInt8} :
    g.fits path = true ↔ g.tokens = [.leading] ∨ SeqMatches g.fold g.tokens path := by
  unfold fits
  split
  · rename_i h
    simp [h]
  · rename_i h
    rw [accepts_iff]
    exact ⟨Or.inr, fun hm => hm.elim (fun e => absurd e h) id⟩

theorem isMatch_iff {g : Glob} {path : List UInt8} : g.isMatch path = true ↔ g.Matches path := by
  unfold isMatch Matches
  rw [Bool.and_eq_true, fits_iff, Bool.not_eq_true', ← Bool.not_eq_true, Bool.and_eq_true]

theorem text_of_compile {fold : Bool} {text : Text} {g : Glob} (h : compile fold text = .ok g) :
    g.text = text ∧ g.fold = fold := by
  unfold compile at h
  split at h
  · cases h
    exact ⟨rfl, rfl⟩
  · cases h

end Glob

end ImportCensus
