import ImportCensus.Proofs.Discovery.Fitting
import Mathlib.Data.List.Find
/-!
# Globs that are refused

The globs of a scan are refused when one of them makes no set of its own, or when there is no room
for those to leave out together.  The error names the pattern, or the first malformed glob to leave
out; where all of these are well formed, it names the whole list.
-/

namespace ImportCensus.Discovery.FileFilter

open Glob (LeavesEscape)
open GlobSet (Fits IsOverDeep)

variable {c : ScanConfig} {fold : Bool} {text folder : Text} {texts : List Text} {e : Error}

/-- Whether a text makes a set of its own. -/
def isGlob [Glob.Capacity] (fold : Bool) (text : Text) : Bool :=
  (compileSet fold [text]).toBool

def isMalformed (text : Text) : Bool :=
  !(Glob.parse text).toBool

/-- What an error names of texts that make no set: the first malformed one, or all of them. -/
def blamed (texts : List Text) : Text :=
  (texts.find? isMalformed).getD ((", " : Text).intercalate texts)

/-- What an error names where the globs of a scan make no sets. -/
def refused [Glob.Capacity] (c : ScanConfig) : Text :=
  if isGlob c.caseInsensitive c.pattern then blamed c.ignore else c.pattern

/-- Whether a glob for all that is below a folder has the slash behind the folder in an escape. -/
def CutsEscape (glob : Text) : Prop :=
  ∃ folder, glob = folder ++ belowFolder ∧ LeavesEscape folder

/-! ## Malformed globs -/

theorem isMalformed_eq (fold : Bool) (text : Text) :
    isMalformed text = !(compileGlob fold text).toBool := by
  unfold compileGlob Glob.compile isMalformed
  cases Glob.parse text <;> rfl

theorem compileGlob_error (h : compileGlob fold text = .error e) :
    ∃ cause, e = .invalidPattern text cause := by
  unfold compileGlob at h
  split at h
  · cases h
  · cases h
    exact ⟨_, rfl⟩

theorem map_text_of_forall₂ {globs : List Glob}
    (h : List.Forall₂ (fun text g => Glob.compile fold text = .ok g) texts globs) :
    globs.map (·.text) = texts := by
  induction h with
  | nil => rfl
  | cons hg _ ih => rw [List.map_cons, ih, (Glob.text_of_compile hg).1]

theorem blamed_singleton : blamed [text] = text := by
  unfold blamed
  cases hmalformed : isMalformed text with
  | true =>
    rw [List.find?_cons_of_pos hmalformed]
    rfl
  | false =>
    rw [List.find?_cons_of_neg (Bool.eq_false_iff.mp hmalformed), List.find?_nil]
    simp

section Building

variable [Glob.Capacity]

/-! ## One glob -/

theorem isGlob_iff : isGlob fold text = true ↔
    ∃ g, Glob.compile fold text = .ok g ∧ ¬ IsOverDeep g ∧ Fits [g] := by
  rw [isGlob, toBool_eq_true_iff]
  constructor
  · rintro ⟨s, hs⟩
    obtain ⟨g, hg, hcompile⟩ := exists_glob hs (List.mem_singleton_self text)
    obtain ⟨-, hdeep, hfits⟩ := compileSet_eq_ok_iff.mp hs
    exact ⟨g, hcompile, hdeep g hg, hfits.of_sublist (List.singleton_sublist.mpr hg)⟩
  · rintro ⟨g, hg, hdeep, hfits⟩
    refine ⟨⟨[g]⟩, compileSet_eq_ok_iff.mpr ⟨.cons hg .nil, fun g' hg' => ?_, hfits⟩⟩
    rwa [List.mem_singleton.mp hg']

theorem isGlob_folder (h : isGlob fold (folder ++ belowFolder) = true) (hfolder : folder ≠ [])
    (hleaves : ¬ LeavesEscape folder) : isGlob fold folder = true := by
  obtain ⟨g', hg', hdeep, hfits⟩ := isGlob_iff.mp h
  obtain ⟨tokens, htokens⟩ :=
    (Glob.exists_parse_folder_iff (Glob.parse_of_compile hg').1).mpr hleaves
  have hg : Glob.compile fold folder = .ok ⟨folder, fold, tokens⟩ := by
    rw [Glob.compile, htokens]
  refine isGlob_iff.mpr
    ⟨_, hg, fun hover => hdeep (Glob.isOverDeep_below hg hg' hfolder hover), ?_⟩
  have hfolders := fitTogether_folders ((fitTogether_singleton_iff hg').mpr hfits)
  rw [List.filterMap_cons_some (folderGlob?_eq_some_iff.mpr ⟨rfl, hfolder⟩), List.filterMap_nil]
    at hfolders
  exact (fitTogether_singleton_iff hg).mp hfolders

/-! ## Several globs -/

/-- Texts make a set if each of them does and there is room for all. -/
theorem exists_compileSet_iff :
    (∃ s, compileSet fold texts = .ok s) ↔
      (∀ text ∈ texts, isGlob fold text = true) ∧ FitTogether fold texts := by
  constructor
  · rintro ⟨s, hs⟩
    obtain ⟨hall, hdeep, hfits⟩ := compileSet_eq_ok_iff.mp hs
    refine ⟨fun text htext => ?_, by rwa [FitTogether, globsOf_eq hall]⟩
    obtain ⟨g, hg, hcompile⟩ := exists_glob hs htext
    have hfit := hfits.of_sublist (List.singleton_sublist.mpr hg)
    exact isGlob_iff.mpr ⟨g, hcompile, hdeep g hg, hfit⟩
  · rintro ⟨hglobs, hfits⟩
    have hall := forall₂_globsOf fun text htext => by
      obtain ⟨g, hg, -⟩ := isGlob_iff.mp (hglobs text htext)
      exact ⟨g, hg⟩
    refine ⟨⟨globsOf fold texts⟩, compileSet_eq_ok_iff.mpr ⟨hall, fun g hg => ?_, hfits⟩⟩
    obtain ⟨text, htext, hcompile⟩ := exists_of_mem_right hall hg
    obtain ⟨g', hg', hdeep, -⟩ := isGlob_iff.mp (hglobs text htext)
    cases hcompile.symm.trans hg'
    exact hdeep

theorem fitTogether_of_compileSet (h : (compileSet fold texts).toBool = true) :
    FitTogether fold texts :=
  (exists_compileSet_iff.mp (toBool_eq_true_iff.mp h)).2

theorem joinGlobs_error {globs : List Glob} (h : joinGlobs globs = .error e) :
    ∃ cause, e = .invalidPattern ((", " : Text).intercalate (globs.map (·.text))) cause := by
  unfold joinGlobs at h
  split at h
  · cases h
  · cases h
    exact ⟨_, rfl⟩

theorem compileSet_error (h : compileSet fold texts = .error e) :
    ∃ cause, e = .invalidPattern (blamed texts) cause := by
  have hfirst : texts.find? isMalformed =
      texts.find? fun text => !(compileGlob fold text).toBool :=
    congrArg (texts.find? ·) (funext (isMalformed_eq fold))
  rcases bind_eq_error_iff.mp h with h | ⟨globs, hglobs, h⟩
  · obtain ⟨text, hfind, he⟩ := mapM_eq_error_iff.mp h
    rw [blamed, hfirst, hfind]
    exact compileGlob_error he
  · have hall := mapM_eq_ok_iff.mp hglobs
    have hnone : texts.find? isMalformed = none := by
      rw [List.find?_eq_none]
      intro text htext hbad
      obtain ⟨g, -, hg⟩ := exists_of_mem_left hall htext
      rw [isMalformed_eq fold, hg] at hbad
      cases hbad
    have htexts : globs.map (·.text) = texts :=
      map_text_of_forall₂ (hall.imp fun _ _ => compileGlob_eq_ok_iff.mp)
    rw [blamed, hnone, ← htexts]
    exact joinGlobs_error h

theorem compileSet_of_not
    (h : ¬ ((∀ text ∈ texts, isGlob fold text = true) ∧ FitTogether fold texts)) :
    ∃ cause, compileSet fold texts = .error (.invalidPattern (blamed texts) cause) := by
  cases hset : compileSet fold texts with
  | ok s => exact absurd (exists_compileSet_iff.mp ⟨s, hset⟩) h
  | error e =>
    obtain ⟨cause, rfl⟩ := compileSet_error hset
    exact ⟨cause, rfl⟩

/-! ## The globs of a scan -/

theorem exists_ofConfig_iff :
    (∃ f, ofConfig c = .ok f) ↔
      (∀ text ∈ c.pattern :: c.ignore, isGlob c.caseInsensitive text = true) ∧
        FitTogether c.caseInsensitive c.ignore ∧
        ∀ folder ∈ folderGlobs c, isGlob c.caseInsensitive folder = true := by
  constructor
  · rintro ⟨f, hf⟩
    obtain ⟨hwanted, hignored, hpruned⟩ := ofConfig_eq_ok_iff.mp hf
    obtain ⟨hglobs, hfits⟩ := exists_compileSet_iff.mp ⟨_, hignored⟩
    have hpattern : isGlob c.caseInsensitive c.pattern = true :=
      toBool_eq_true_iff.mpr ⟨_, hwanted⟩
    exact ⟨List.forall_mem_cons.mpr ⟨hpattern, hglobs⟩, hfits,
      (exists_compileSet_iff.mp ⟨_, hpruned⟩).1⟩
  · rintro ⟨hglobs, hfits, hfolders⟩
    obtain ⟨hpattern, hignore⟩ := List.forall_mem_cons.mp hglobs
    obtain ⟨wanted, hwanted⟩ := toBool_eq_true_iff.mp hpattern
    obtain ⟨ignored, hignored⟩ := exists_compileSet_iff.mpr ⟨hignore, hfits⟩
    obtain ⟨pruned, hpruned⟩ := exists_compileSet_iff.mpr ⟨hfolders, fitTogether_folders hfits⟩
    exact ⟨⟨wanted, ignored, pruned⟩, ofConfig_eq_ok_iff.mpr ⟨hwanted, hignored, hpruned⟩⟩

theorem ofConfig_error (h : ofConfig c = .error e) :
    ∃ text cause, e = .invalidPattern text cause := by
  rcases bind_eq_error_iff.mp h with hwanted | ⟨wanted, -, h⟩
  · exact ⟨_, compileSet_error hwanted⟩
  · rcases bind_eq_error_iff.mp h with hignored | ⟨ignored, -, h⟩
    · exact ⟨_, compileSet_error hignored⟩
    · rcases bind_eq_error_iff.mp h with hpruned | ⟨pruned, -, h⟩
      · exact ⟨_, compileSet_error hpruned⟩
      · cases h

theorem ofConfig_of_refused
    (h : (∃ text ∈ c.pattern :: c.ignore, ¬ isGlob c.caseInsensitive text = true) ∨
      ¬ FitTogether c.caseInsensitive c.ignore) :
    ∃ cause, ofConfig c = .error (.invalidPattern (refused c) cause) := by
  unfold refused
  split
  · rename_i hpattern
    have hignore : ¬ ((∀ text ∈ c.ignore, isGlob c.caseInsensitive text = true) ∧
        FitTogether c.caseInsensitive c.ignore) := by
      rintro ⟨hall, hfits⟩
      obtain ⟨text, htext, hnot⟩ | hnot := h
      · rcases List.mem_cons.mp htext with rfl | htext
        · exact hnot hpattern
        · exact hnot (hall text htext)
      · exact hnot hfits
    obtain ⟨wanted, hwanted⟩ := toBool_eq_true_iff.mp hpattern
    obtain ⟨cause, hcause⟩ := compileSet_of_not hignore
    refine ⟨cause, bind_eq_error_iff.mpr (Or.inr ⟨wanted, hwanted, ?_⟩)⟩
    exact bind_eq_error_iff.mpr (Or.inl hcause)
  · rename_i hpattern
    obtain ⟨cause, hcause⟩ :=
      compileSet_of_not fun ⟨hall, _⟩ => hpattern (hall c.pattern (List.mem_singleton_self _))
    rw [blamed_singleton] at hcause
    exact ⟨cause, bind_eq_error_iff.mpr (Or.inl hcause)⟩

theorem not_isGlob_of_isMalformed (h : isMalformed text = true) : isGlob fold text = false := by
  rw [Bool.eq_false_iff]
  intro hglob
  obtain ⟨g, hg, -⟩ := isGlob_iff.mp hglob
  rw [isMalformed, (Glob.parse_of_compile hg).1] at h
  cases h

theorem find?_eq_refused
    (h : ∃ text ∈ c.pattern :: c.ignore, ¬ isGlob c.caseInsensitive text = true)
    (hdeep : ∀ text ∈ c.ignore, isMalformed text = false → isGlob c.caseInsensitive text = true) :
    (c.pattern :: c.ignore).find? (!isGlob c.caseInsensitive ·) = some (refused c) := by
  unfold refused
  split
  · rename_i hpattern
    have hsame : ∀ text ∈ c.ignore, (!isGlob c.caseInsensitive text) = isMalformed text := by
      intro text htext
      cases hmalformed : isMalformed text with
      | true => rw [not_isGlob_of_isMalformed hmalformed, Bool.not_false]
      | false => rw [hdeep text htext hmalformed, Bool.not_true]
    obtain ⟨text, htext, hnot⟩ := h
    have hsome : (c.ignore.find? isMalformed).isSome = true := by
      rw [List.find?_isSome]
      rcases List.mem_cons.mp htext with rfl | htext
      · exact absurd hpattern hnot
      · refine ⟨text, htext, ?_⟩
        rw [← hsame text htext, Bool.eq_false_iff.mpr hnot, Bool.not_false]
    obtain ⟨first, hfirst⟩ := Option.isSome_iff_exists.mp hsome
    rw [List.find?_cons_of_neg (by simpa using hpattern), List.find?_congr hsame, blamed, hfirst]
    rfl
  · rename_i hpattern
    rw [List.find?_cons_of_pos (by simpa using hpattern)]

/-- The globs of a scan compile when each makes a set of its own and there is room for those to
leave out together, as long as none of these has the slash behind its folder in an escape.  Where
that is not so, the error names the pattern, the first malformed glob to leave out, or, if there is
no malformed one, the whole list of these. -/
theorem ofConfig_refusal (c : ScanConfig) :
    (∀ e, ofConfig c = .error e → ∃ text cause, e = .invalidPattern text cause) ∧
    ((∃ text ∈ c.pattern :: c.ignore, ¬ isGlob c.caseInsensitive text = true) ∨
        ¬ FitTogether c.caseInsensitive c.ignore →
      ∃ cause, ofConfig c = .error (.invalidPattern (refused c) cause)) ∧
    ((∃ text ∈ c.pattern :: c.ignore, ¬ isGlob c.caseInsensitive text = true) →
      (∀ text ∈ c.ignore, isMalformed text = false → isGlob c.caseInsensitive text = true) →
        (c.pattern :: c.ignore).find? (!isGlob c.caseInsensitive ·) = some (refused c)) ∧
    ((∀ glob ∈ c.ignore, ¬ CutsEscape glob) →
      ((∃ f, ofConfig c = .ok f) ↔
        (∀ text ∈ c.pattern :: c.ignore, isGlob c.caseInsensitive text = true) ∧
          FitTogether c.caseInsensitive c.ignore)) := by
  refine ⟨fun e => ofConfig_error, ofConfig_of_refused, find?_eq_refused, fun hcuts => ?_⟩
  rw [exists_ofConfig_iff]
  constructor
  · rintro ⟨hglobs, hfits, -⟩
    exact ⟨hglobs, hfits⟩
  · rintro ⟨hglobs, hfits⟩
    refine ⟨hglobs, hfits, fun folder hfolder => ?_⟩
    obtain ⟨glob, hglob, hstrip⟩ := List.mem_filterMap.mp hfolder
    obtain ⟨rfl, hne⟩ := folderGlob?_eq_some_iff.mp hstrip
    have hleaves : ¬ LeavesEscape folder := fun h => hcuts _ hglob ⟨folder, rfl, h⟩
    exact isGlob_folder (hglobs _ (List.mem_cons_of_mem _ hglob)) hne hleaves

end Building

def nestedGroups (n : Nat) : Text :=
  List.replicate n '\x7b' ++ 'a' :: List.replicate n '\x7d'

theorem not_cutsEscape_backslashes : ¬ CutsEscape "a\\\\/**" := by
  rintro ⟨folder, hglob, hleaves⟩
  have hfolder : ['a', '\\', '\\'] = folder := by
    apply List.append_cancel_right
    exact hglob
  rw [← hfolder] at hleaves
  exact absurd hleaves (by decide)

theorem isGlob_questionMarks {n : Nat} (hn : n ≠ 0) (hroom : 2 * n + 5 ≤ Glob.maxStates) :
    isGlob true (questionMarks n) = true := by
  have hfits := (fitTogether_questionMarks_iff (k := 1) hn).mpr (by omega)
  have hg := compile_questionMarks n
  refine isGlob_iff.mpr ⟨_, hg, ?_, (fitTogether_singleton_iff hg).mp hfits⟩
  rintro ⟨-, hdeep⟩
  rw [GlobSet.isTooDeep, decide_eq_true_eq] at hdeep
  have hle := depth_questionGlob_le n
  have hmax : Glob.maxDepth = 250 := rfl
  omega

/-- Two globs that make a set each and for which there is no room together. -/
def crowded : ScanConfig where
  ignore := List.replicate 2 (questionMarks 120000)

theorem refused_crowded : refused crowded = (", " : Text).intercalate crowded.ignore := by
  have hpattern : isGlob true defaultPattern = true := by decide +kernel
  have hnone : crowded.ignore.find? isMalformed = none := by
    rw [List.find?_eq_none]
    intro text htext hbad
    rw [List.eq_of_mem_replicate htext, isMalformed,
      (Glob.parse_of_compile (compile_questionMarks _)).1] at hbad
    cases hbad
  have hblamed : refused crowded = blamed crowded.ignore := if_pos hpattern
  rw [hblamed, blamed, hnone]
  rfl

/-- A malformed glob is named though the one before it is nested too deep, an escaped backslash at
the end of a folder is no reason to refuse a glob, and globs are refused for which there is no room
together. -/
theorem ofConfig_refusal_mixed :
    (∃ cause, ofConfig { ignore := [nestedGroups 250, "a["] } =
      .error (.invalidPattern "a[" cause)) ∧
      ([defaultPattern, "x", "a[", "b["] : List Text).find? (!isGlob true ·) = some "a[".toList ∧
      (∃ f, ofConfig { ignore := ["a\\\\/**"] } = .ok f) ∧
      (∀ text ∈ crowded.ignore, isGlob true text = true) ∧
      ∃ cause, ofConfig crowded =
        .error (.invalidPattern ((", " : Text).intercalate crowded.ignore) cause) := by
  have hbracket : isGlob true "a[" = false := by decide +kernel
  have hnamed : refused { ignore := [nestedGroups 250, "a["] } = "a[".toList := by decide +kernel
  have hfirst : refused { ignore := ["x", "a[", "b["] } = "a[".toList := by decide +kernel
  obtain ⟨-, hdeep, -⟩ := ofConfig_refusal { ignore := [nestedGroups 250, "a["] }
  obtain ⟨-, -, hshallow, -⟩ := ofConfig_refusal { ignore := ["x", "a[", "b["] }
  obtain ⟨-, -, -, hescaped⟩ := ofConfig_refusal { ignore := ["a\\\\/**"] }
  obtain ⟨-, hcrowded, -⟩ := ofConfig_refusal crowded
  rw [refused_crowded] at hcrowded
  have hnot : ¬ isGlob true "a[" = true := Bool.eq_false_iff.mp hbracket
  obtain ⟨cause, hcause⟩ := hdeep (.inl ⟨_, .tail _ (.tail _ (.head _)), hnot⟩)
  have hfind := hshallow ⟨_, .tail _ (.tail _ (.head _)), hnot⟩ (by decide +kernel)
  rw [hnamed] at hcause
  rw [hfirst] at hfind
  have hall : ∀ text ∈ [defaultPattern, "a\\\\/**"], isGlob true text = true := by decide +kernel
  have hfits : FitTogether true ["a\\\\/**"] := by
    apply fitTogether_of_compileSet
    decide +kernel
  have hroom : Glob.maxStates = 262144 := rfl
  refine ⟨⟨cause, hcause⟩, hfind,
    (hescaped (List.forall_mem_singleton.mpr not_cutsEscape_backslashes)).mpr ⟨hall, hfits⟩,
    fun text htext => ?_, hcrowded (.inr fun hfit => ?_)⟩
  · rw [List.eq_of_mem_replicate htext]
    exact isGlob_questionMarks (by omega) (by omega)
  · have hle := (fitTogether_questionMarks_iff (by omega)).mp hfit
    omega

/-- A list of globs is named though only its last one makes no set. -/
theorem ofConfig_names_list :
    isGlob true defaultPattern = true ∧ isGlob true "x" = true ∧
      isGlob true (nestedGroups 250) = false ∧
      (∃ cause, ofConfig { ignore := ["x", nestedGroups 250] } =
        .error (.invalidPattern ("x, " ++ nestedGroups 250) cause)) ∧
      "x, " ++ nestedGroups 250 ∉ [defaultPattern, "x", nestedGroups 250] := by
  have hdeep : isGlob true (nestedGroups 250) = false := by decide +kernel
  have hnamed : refused { ignore := ["x", nestedGroups 250] } = "x, " ++ nestedGroups 250 := by
    decide +kernel
  refine ⟨by decide +kernel, by decide +kernel, hdeep, ?_, by decide +kernel⟩
  rw [← hnamed]
  exact ofConfig_of_refused (.inl ⟨nestedGroups 250, by simp, by simp [hdeep]⟩)

end ImportCensus.Discovery.FileFilter
