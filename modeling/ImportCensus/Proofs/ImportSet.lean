import ImportCensus.ImportSet
import ImportCensus.Proofs.Distinct
/-!
# The members of an import set

The set of the symbols in a list holds each of them once, where it first stands in the list.
-/

namespace ImportCensus.ImportSet

theorem ofList_concat (xs : List Text) (x : Text) : ofList (xs ++ [x]) = (ofList xs).insert x := by
  rw [ofList, extend_append]
  rfl

theorem extend_ofList (xs ys : List Text) : (ofList xs).extend ys = ofList (xs ++ ys) := by
  rw [ofList, ofList, extend_append]

theorem members_ofList (xs : List Text) : (ofList xs).members = xs.eraseDups := by
  induction xs using List.reverseRecOn with
  | nil => rfl
  | append_singleton xs x ih =>
    have hmem : x ∈ ofList xs ↔ x ∈ xs := by
      change x ∈ (ofList xs).members ↔ x ∈ xs
      rw [ih, List.mem_eraseDups]
    rw [ofList_concat, members_insert, ih, eraseDups_concat]
    by_cases hx : x ∈ xs
    · rw [if_pos (hmem.mpr hx), if_pos hx, List.append_nil]
    · rw [if_neg (mt hmem.mp hx), if_neg hx]

end ImportCensus.ImportSet
