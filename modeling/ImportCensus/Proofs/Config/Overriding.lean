import ImportCensus.Proofs.Config.Merging
import ImportCensus.Proofs.Distinct
/-!
# Overrides one after another

What a configuration holds after any number of overrides.  Both ways in which overrides ask for a
glob, by naming it and by the switch for installed packages, put it behind the ignore list by
`addIgnore`.  So a row of overrides adds the globs that it asks for all together, without those
that are there, and asking a second time adds nothing.
-/

namespace ImportCensus

/-- The globs that overrides ask to leave out, in the order in which they are added. -/
def Overrides.requested (o : Overrides) : List Text :=
  o.exclude.getD [] ++ if o.excludeNodeModules then [nodeModulesGlob] else []

namespace Config

variable {ignore globs : List Text} {glob : Text} {c : Config} {o : Overrides}
  {os : List Overrides}

theorem mem_requested_iff :
    glob ∈ o.requested ↔
      glob ∈ o.exclude.getD [] ∨ o.excludeNodeModules = true ∧ glob = nodeModulesGlob := by
  rw [Overrides.requested, List.mem_append]
  cases o.excludeNodeModules with
  | false => simp
  | true => simp

/-! ## What one override adds -/

theorem mergeIgnore_eq_foldl (ignore : List Text) (o : Overrides) :
    mergeIgnore ignore o = o.requested.foldl addIgnore ignore := by
  rw [mergeIgnore, Overrides.requested, List.foldl_append]
  cases o.excludeNodeModules with
  | false => rfl
  | true => rfl

theorem unlisted_eq_nil_of_subset (h : globs ⊆ ignore) : unlisted ignore globs = [] := by
  rw [List.eq_nil_iff_forall_not_mem]
  intro glob hglob
  rw [mem_unlisted] at hglob
  exact hglob.2 (h hglob.1)

theorem ne_of_unlisted {i j : Nat} (hj : ignore.length ≤ j) (hij : i < j)
    (hglob : (ignore ++ unlisted ignore globs)[j]? = some glob) :
    (ignore ++ unlisted ignore globs)[i]? ≠ some glob := by
  intro hearlier
  rw [List.getElem?_append_right hj] at hglob
  have hnew : glob ∈ unlisted ignore globs := List.mem_of_getElem? hglob
  by_cases hi : i < ignore.length
  · rw [List.getElem?_append_left hi] at hearlier
    exact (mem_unlisted.mp hnew).2 (List.mem_of_getElem? hearlier)
  · rw [List.getElem?_append_right (by omega)] at hearlier
    have hlt : j - ignore.length < (unlisted ignore globs).length := by
      by_contra hlong
      rw [List.getElem?_eq_none (by omega)] at hglob
      cases hglob
    have hnodup : (unlisted ignore globs).Nodup := nodup_eraseDups _
    have hsame := (List.getElem?_inj (by omega) hnodup).mp (hearlier.trans hglob.symm)
    omega

theorem nodup_append_unlisted (h : ignore.Nodup) (globs : List Text) :
    (ignore ++ unlisted ignore globs).Nodup := by
  refine List.Nodup.append h (nodup_eraseDups _) ?_
  intro glob hold hnew
  exact (mem_unlisted.mp hnew).2 hold

theorem merge_merge (c : Config) (o : Overrides) : (c.merge o).merge o = c.merge o := by
  have hlisted : o.requested ⊆ mergeIgnore c.scan.ignore o := by
    intro glob hglob
    rw [mem_mergeIgnore_iff]
    exact .inr (mem_requested_iff.mp hglob)
  have hignore : mergeIgnore (mergeIgnore c.scan.ignore o) o = mergeIgnore c.scan.ignore o := by
    rw [mergeIgnore_eq_foldl (mergeIgnore _ _), foldl_addIgnore,
      unlisted_eq_nil_of_subset hlisted, List.append_nil]
  have hpattern : o.pattern.getD (o.pattern.getD c.scan.pattern) =
      o.pattern.getD c.scan.pattern := by
    cases o.pattern with
    | none => rfl
    | some pattern => rfl
  have hcolor : o.color.getD (o.color.getD c.output.color) = o.color.getD c.output.color := by
    cases o.color with
    | none => rfl
    | some color => rfl
  simp only [merge, hignore, hpattern, hcolor, Bool.or_assoc, Bool.or_self]

/-! ## What a row of overrides adds -/

theorem ignore_foldl_merge (c : Config) (os : List Overrides) :
    (os.foldl merge c).scan.ignore =
      c.scan.ignore ++ unlisted c.scan.ignore (os.flatMap Overrides.requested) := by
  rw [← foldl_addIgnore]
  induction os generalizing c with
  | nil => rfl
  | cons o os ih =>
    rw [List.foldl_cons, ih, List.flatMap_cons, List.foldl_append, ← mergeIgnore_eq_foldl]
    rfl

/-- Overrides leave alone how globs are read and where a walk goes. -/
theorem walk_foldl_merge (c : Config) (os : List Overrides) :
    (os.foldl merge c).scan.caseInsensitive = c.scan.caseInsensitive ∧
      (os.foldl merge c).scan.followLinks = c.scan.followLinks ∧
        (os.foldl merge c).scan.maxDepth = c.scan.maxDepth := by
  induction os generalizing c with
  | nil => exact ⟨rfl, rfl, rfl⟩
  | cons o os ih => exact ih (c.merge o)

theorem mem_ignore_foldl_merge_iff :
    glob ∈ (os.foldl merge c).scan.ignore ↔
      glob ∈ c.scan.ignore ∨ (∃ o ∈ os, glob ∈ o.exclude.getD []) ∨
        (∃ o ∈ os, o.excludeNodeModules = true) ∧ glob = nodeModulesGlob := by
  rw [ignore_foldl_merge, List.mem_append, mem_unlisted, List.mem_flatMap]
  simp only [mem_requested_iff, and_or_left, exists_or, ← and_assoc, exists_and_right]
  by_cases hlisted : glob ∈ c.scan.ignore
  · simp [hlisted]
  · simp [hlisted]

/-- After any number of overrides the ignore list begins with the old one; behind it are the globs
that were asked for and that it did not have, each of them once.  The rest of the walk's settings
stays, and the last overrides may be given twice. -/
theorem foldl_merge_spec (c : Config) (os : List Overrides) :
    let merged := os.foldl merge c
    c.scan.ignore <+: merged.scan.ignore ∧
      (∀ glob, glob ∈ merged.scan.ignore ↔
        glob ∈ c.scan.ignore ∨ (∃ o ∈ os, glob ∈ o.exclude.getD []) ∨
          (∃ o ∈ os, o.excludeNodeModules = true) ∧ glob = nodeModulesGlob) ∧
      (∀ i j glob, c.scan.ignore.length ≤ j → i < j → merged.scan.ignore[j]? = some glob →
        merged.scan.ignore[i]? ≠ some glob) ∧
      (c.scan.ignore.Nodup → merged.scan.ignore.Nodup) ∧
      merged.scan.caseInsensitive = c.scan.caseInsensitive ∧
      merged.scan.followLinks = c.scan.followLinks ∧
      merged.scan.maxDepth = c.scan.maxDepth ∧
      ∀ o, (merged.merge o).merge o = merged.merge o := by
  intro merged
  have hignore := ignore_foldl_merge c os
  obtain ⟨hcase, hlinks, hdepth⟩ := walk_foldl_merge c os
  refine ⟨?_, fun _ => mem_ignore_foldl_merge_iff, ?_, ?_, hcase, hlinks, hdepth,
    fun o => merge_merge merged o⟩
  · rw [hignore]
    exact List.prefix_append _ _
  · intro i j glob hj hij hglob
    rw [hignore] at hglob ⊢
    exact ne_of_unlisted hj hij hglob
  · intro hnodup
    rw [hignore]
    exact nodup_append_unlisted hnodup _

end Config

end ImportCensus
