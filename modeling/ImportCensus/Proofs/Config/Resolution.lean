import ImportCensus.CommandLine.Arguments
import ImportCensus.Config.File
import ImportCensus.Proofs.Config.Merging
/-!
# Configurations under a command line

What the switches of a command line make of a configuration, and when the result makes sense.
-/

namespace ImportCensus.Config

open CommandLine (Arguments)

variable {c : Config} {a : Arguments}

def HasInk (text : Text) : Prop :=
  ∃ char ∈ text, Text.isWhiteSpace char = false

/-- Whether a configuration makes sense. -/
structure IsSound (c : Config) : Prop where
  pattern : HasInk c.scan.pattern
  depth : c.scan.maxDepth ≠ some 0
  ignore : ∀ glob ∈ c.scan.ignore, HasInk glob

/-- The globs to leave out under a command line: the old ones, the new ones among those that it
excludes, and the one for installed packages if it is asked for and not there yet. -/
def ignoreUnder (ignore : List Text) (a : Arguments) : List Text :=
  let listed := ignore ++ unlisted ignore (a.exclude.getD [])
  if a.node && !listed.contains nodeModulesGlob then listed ++ [nodeModulesGlob] else listed

def under (c : Config) (a : Arguments) : Config where
  scan :=
    { pattern := a.glob.getD c.scan.pattern
      ignore := ignoreUnder c.scan.ignore a
      caseInsensitive := c.scan.caseInsensitive
      followLinks := c.scan.followLinks
      maxDepth := c.scan.maxDepth }
  output :=
    { color := if a.noColor then false else c.output.color
      showTime := c.output.showTime || a.time }

theorem merge_overrides (c : Config) (a : Arguments) : c.merge a.overrides = c.under a := by
  have hcolor : (if a.noColor then some false else none).getD c.output.color =
      if a.noColor then false else c.output.color := by
    cases a.noColor <;> rfl
  rw [merge, mergeIgnore_eq, under, ← hcolor]
  rfl

theorem hasInk_iff {text : Text} : HasInk text ↔ Text.isAllWhite text = false := by
  rw [HasInk, Text.isAllWhite, List.all_eq_false]
  simp

instance : DecidablePred HasInk := fun _ => decidable_of_iff _ hasInk_iff.symm

theorem validate_eq_ok_iff : c.validate = .ok () ↔ IsSound c := by
  rw [validate]
  split
  · rename_i hpattern
    refine iff_of_false (by simp) fun hsound => ?_
    rw [hasInk_iff.mp hsound.pattern] at hpattern
    cases hpattern
  · rename_i hpattern
    split
    · rename_i hdepth
      exact iff_of_false (by simp) fun hsound => hsound.depth hdepth
    · rename_i hdepth
      split
      · rename_i glob hglob
        refine iff_of_false (by simp) fun hsound => ?_
        have hink := hasInk_iff.mp (hsound.ignore glob (List.mem_of_find?_eq_some hglob))
        rw [List.find?_some hglob] at hink
        cases hink
      · rename_i hnone
        refine iff_of_true rfl ⟨hasInk_iff.mpr (Bool.eq_false_iff.mpr hpattern), hdepth, ?_⟩
        intro glob hglob
        exact hasInk_iff.mpr (Bool.eq_false_iff.mpr (List.find?_eq_none.mp hnone glob hglob))

theorem resolve_of_isSound (h : IsSound (c.under a)) :
    resolve c a.overrides = .ok (c.under a) := by
  rw [resolve, merge_overrides, validate_eq_ok_iff.mpr h]

theorem exists_flaw_of_not_isSound (h : ¬ IsSound (c.under a)) :
    ∃ flaw, resolve c a.overrides = .error (.flaw flaw) := by
  rw [resolve, merge_overrides]
  split
  · rename_i hvalid
    exact absurd (validate_eq_ok_iff.mp hvalid) h
  · rename_i flaw _
    exact ⟨flaw, rfl⟩

end ImportCensus.Config
