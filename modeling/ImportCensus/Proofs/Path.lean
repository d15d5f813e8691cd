import ImportCensus.Path
import ImportCensus.Proofs.Text.Cutting
/-!
# Paths of names

A relative path and the names that it is made of determine each other.
-/

namespace ImportCensus.Path

def descend (shown : Path) (names : List Name) : Path :=
  names.foldl join shown

theorem ofNames_append {before after : List Name} (hbefore : before ≠ []) (hafter : after ≠ []) :
    ofNames (before ++ after) = ofNames before ++ slash :: ofNames after := by
  rw [List.append_cons]
  exact Text.intercalate_append hbefore hafter

theorem ofNames_append_cons {before : List Name} (hne : before ≠ []) (name : Name)
    (after : List Name) :
    ofNames (before ++ name :: after) = ofNames before ++ slash :: ofNames (name :: after) :=
  ofNames_append hne (by simp)

theorem ofNames_injective {names names' : List Name} (hne : names ≠ []) (hne' : names' ≠ [])
    (h : ∀ name ∈ names, slash ∉ name) (h' : ∀ name ∈ names', slash ∉ name)
    (heq : ofNames names = ofNames names') : names = names' := by
  rw [← Text.splitOn_intercalate hne h, ← Text.splitOn_intercalate hne' h']
  exact congrArg (Text.splitOn slash) heq

end ImportCensus.Path
