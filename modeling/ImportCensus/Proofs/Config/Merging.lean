import ImportCensus.Config.Basic
import Mathlib.Data.List.Induction
/-!
# Ignore lists after overrides

Overrides leave the ignore list as it is and put globs behind it: those that it does not have
yet, each of them once and in the order in which they were given.
-/

namespace ImportCensus.Config

variable {ignore globs : List Text} {glob : Text} {o : Overrides}

/-- The globs that are not in an ignore list yet, each of them once. -/
def unlisted (ignore globs : List Text) : List Text :=
  (globs.removeAll ignore).eraseDups

theorem mem_unlisted : glob ∈ unlisted ignore globs ↔ glob ∈ globs ∧ glob ∉ ignore := by
  rw [unlisted, List.mem_eraseDups, List.removeAll, List.mem_filter]
  simp

theorem addIgnore_unlisted (ignore globs : List Text) (glob : Text) :
    addIgnore (ignore ++ unlisted ignore globs) glob =
      ignore ++ unlisted ignore (globs ++ [glob]) := by
  have happend : unlisted ignore (globs ++ [glob]) =
      unlisted ignore globs ++
        (([glob].removeAll ignore).removeAll (globs.removeAll ignore)).eraseDups := by
    simp only [unlisted, List.removeAll, List.filter_append, List.eraseDups_append]
  have hcontains : (ignore ++ unlisted ignore globs).contains glob = true ↔
      glob ∈ ignore ∨ glob ∈ globs := by
    rw [List.contains_iff_mem, List.mem_append, mem_unlisted]
    tauto
  rw [addIgnore, happend]
  split
  · rename_i h
    rcases hcontains.mp h with h | h
    · simp [List.removeAll, h]
    · by_cases hignore : glob ∈ ignore <;> simp [List.removeAll, h, hignore]
  · rename_i h
    rw [hcontains, not_or] at h
    simp [List.removeAll, h, List.eraseDups_cons]

theorem foldl_addIgnore (ignore globs : List Text) :
    globs.foldl addIgnore ignore = ignore ++ unlisted ignore globs := by
  induction globs using List.reverseRecOn with
  | nil => simp [unlisted, List.removeAll]
  | append_singleton globs glob ih =>
    rw [List.foldl_append, ih, List.foldl_cons, List.foldl_nil, addIgnore_unlisted]

/-- The ignore list after overrides: the old one, the globs to exclude that it does not have, and
the one for installed packages if it is asked for and still missing. -/
theorem mergeIgnore_eq (ignore : List Text) (o : Overrides) :
    mergeIgnore ignore o =
      let listed := ignore ++ unlisted ignore (o.exclude.getD [])
      if o.excludeNodeModules && !listed.contains nodeModulesGlob then
        listed ++ [nodeModulesGlob]
      else listed := by
  rw [mergeIgnore, foldl_addIgnore]
  dsimp only
  cases o.excludeNodeModules with
  | false => rfl
  | true =>
    rw [if_pos rfl, addIgnore, Bool.true_and]
    cases (ignore ++ unlisted ignore (o.exclude.getD [])).contains nodeModulesGlob <;> rfl

theorem mem_addIgnore_iff {other : Text} :
    other ∈ addIgnore ignore glob ↔ other ∈ ignore ∨ other = glob := by
  rw [addIgnore]
  split
  · rename_i h
    rw [List.contains_iff_mem] at h
    exact ⟨Or.inl, fun hother => hother.elim id fun heq => heq ▸ h⟩
  · rw [List.mem_append, List.mem_singleton]

theorem mem_mergeIgnore_iff :
    glob ∈ mergeIgnore ignore o ↔
      glob ∈ ignore ∨ glob ∈ o.exclude.getD [] ∨
        o.excludeNodeModules = true ∧ glob = nodeModulesGlob := by
  have hlisted : glob ∈ (o.exclude.getD []).foldl addIgnore ignore ↔
      glob ∈ ignore ∨ glob ∈ o.exclude.getD [] := by
    rw [foldl_addIgnore, List.mem_append, mem_unlisted]
    tauto
  rw [mergeIgnore]
  split
  · rename_i h
    rw [mem_addIgnore_iff, hlisted, or_assoc]
    simp [h]
  · rename_i h
    rw [hlisted]
    simp [h]

end ImportCensus.Config
