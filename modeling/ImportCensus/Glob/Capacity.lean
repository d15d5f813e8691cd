import ImportCensus.Glob
/-!
# Room for expressions

The expressions of a set that are matched together become one automaton, and there is only so much
room for it.  How large it gets is the affair of the engine that builds it.  What is relied on here
is that an automaton for less is no larger: where there is room for some globs, there is room for
parts of them.
-/

namespace ImportCensus.Glob

/-- Whether some globs are parts of others: of these, some are left out and some are cut off behind
one of their tokens. -/
inductive ArePartsOf : List Glob → List Glob → Prop
  | nil : ArePartsOf [] []
  | skip {xs ys : List Glob} (y : Glob) (h : ArePartsOf xs ys) : ArePartsOf xs (y :: ys)
  | part {x y : Glob} {xs ys : List Glob} (hfold : x.fold = y.fold)
    (htokens : x.tokens <+: y.tokens) (h : ArePartsOf xs ys) : ArePartsOf (x :: xs) (y :: ys)

/-- An engine, as far as the size of its automata goes. -/
class Capacity where
  /-- Whether there is room for one automaton for all these globs. -/
  admits : List Glob → Bool
  admits_of_areParts {xs ys : List Glob} : ArePartsOf xs ys → admits ys = true → admits xs = true

/-! ## An estimate

The engine that is used stops at ten mebibytes.  Its automata are not built here: their states are
counted part by part, at forty bytes for a state with its edges.
-/

def literalStates (fold : Bool) (c : Char) : Nat :=
  if fold && c.isAlpha then 2 else (String.utf8EncodeChar c).length

/-- The states of a class, where four edges take as much room as a state. -/
def classStates (ranges : List (Char × Char)) : Nat :=
  2 + min (classSize ranges) 128 / 4

/-- The states of a group: one before its branches, one behind them, and one for each edge. -/
def groupStates (branches : List Nat) : Nat :=
  match branches with
  | [] => 0
  | _ => branches.length + branches.foldr (· + ·) 0 + 2

mutual

def Token.states (fold : Bool) : Token → Nat
  | .literal c => literalStates fold c
  | .anyByte => 2
  | .run => 4
  | .leading => 8
  | .trailing => 4
  | .inner => 8
  | .oneOf _ ranges => classStates ranges
  | .group branches => groupStates (branchStates fold branches)

def seqStates (fold : Bool) : List Token → Nat
  | [] => 0
  | t :: ts => t.states fold + seqStates fold ts

def branchStates (fold : Bool) : List (List Token) → List Nat
  | [] => []
  | b :: bs =>
    if seqVoid b then branchStates fold bs else seqStates fold b :: branchStates fold bs

end

def states (g : Glob) : Nat :=
  seqStates g.fold g.tokens + 5

def totalStates : List Glob → Nat
  | [] => 0
  | g :: gs => g.states + totalStates gs

def maxStates : Nat := 262144

theorem seqStates_append {fold : Bool} {ts us : List Token} :
    seqStates fold (ts ++ us) = seqStates fold ts + seqStates fold us := by
  induction ts with
  | nil => simp [seqStates]
  | cons t ts ih =>
    rw [List.cons_append, seqStates, seqStates, ih]
    omega

theorem states_le_of_part {x y : Glob} (hfold : x.fold = y.fold) (htokens : x.tokens <+: y.tokens) :
    x.states ≤ y.states := by
  obtain ⟨rest, hrest⟩ := htokens
  rw [states, states, ← hrest, seqStates_append, hfold]
  omega

theorem ArePartsOf.totalStates_le {xs ys : List Glob} (h : ArePartsOf xs ys) :
    totalStates xs ≤ totalStates ys := by
  induction h with
  | nil => exact Nat.le_refl _
  | skip y _ ih => exact Nat.le_trans ih (Nat.le_add_left _ _)
  | part hfold htokens _ ih => exact Nat.add_le_add (states_le_of_part hfold htokens) ih

instance estimate : Capacity where
  admits globs := totalStates globs ≤ maxStates
  admits_of_areParts h hroom := by
    rw [decide_eq_true_eq] at hroom ⊢
    exact Nat.le_trans h.totalStates_le hroom

end ImportCensus.Glob
