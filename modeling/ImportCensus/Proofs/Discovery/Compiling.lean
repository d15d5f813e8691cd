import ImportCensus.Discovery.FileFilter
import ImportCensus.Proofs.Except
/-!
# Compiling the globs of a scan

Globs make a set when each of them is well formed, none needs an expression that is nested too
deep, and there is room for the automata.  The set then has one glob for each text.
-/

namespace ImportCensus

/-! ## Sets of globs -/

namespace GlobSet

variable {globs : List Glob}

/-- Whether a glob needs an expression and that is nested too deep. -/
def IsOverDeep (g : Glob) : Prop :=
  g.strategy.usesExpression = true ∧ isTooDeep g = true

theorem not_isOverDeep_iff {g : Glob} :
    ¬ IsOverDeep g ↔ (standsAlone g = true → isTooDeep g = false) ∧
      (g.strategy = .nameExpression → isTooDeep g = false) ∧
      (g.strategy = .expression → isTooDeep g = false) := by
  unfold IsOverDeep standsAlone
  cases g.strategy <;> simp [Glob.Strategy.usesExpression, Glob.Strategy.asksForName]

section Building

variable [Glob.Capacity]

/-- Whether there is room for the automata of some globs. -/
structure Fits (globs : List Glob) : Prop where
  alone : ∀ g ∈ globs, standsAlone g = true → Glob.Capacity.admits [g] = true
  names : Glob.Capacity.admits (globs.filter (·.strategy = .nameExpression)) = true
  paths : Glob.Capacity.admits (globs.filter (·.strategy = .expression)) = true

theorem checkAlone_eq_ok_iff {g : Glob} :
    checkAlone g = .ok () ↔ isTooDeep g = false ∧ Glob.Capacity.admits [g] = true := by
  unfold checkAlone
  split <;> simp [*]

theorem checkSingly_eq_ok_iff :
    checkSingly globs = .ok () ↔ ∀ g ∈ globs, standsAlone g = true →
      isTooDeep g = false ∧ Glob.Capacity.admits [g] = true := by
  rw [checkSingly, forM_eq_ok_iff]
  simp only [List.mem_filter, and_imp, checkAlone_eq_ok_iff]

theorem checkTogether_eq_ok_iff {strategy : Glob.Strategy} :
    checkTogether strategy globs = .ok () ↔
      (∀ g ∈ globs, g.strategy = strategy → isTooDeep g = false) ∧
        Glob.Capacity.admits (globs.filter (·.strategy = strategy)) = true := by
  have hfind : (globs.filter (·.strategy = strategy)).findIdx? isTooDeep = none ↔
      ∀ g ∈ globs, g.strategy = strategy → isTooDeep g = false := by
    simp [List.findIdx?_eq_none_iff]
  rw [← hfind, checkTogether]
  split <;> simp [*]

theorem ofGlobs_eq_ok_iff {s : GlobSet} :
    ofGlobs globs = .ok s ↔ s.globs = globs ∧ (∀ g ∈ globs, ¬ IsOverDeep g) ∧ Fits globs := by
  simp only [ofGlobs, bind_eq_ok_iff, not_isOverDeep_iff]
  constructor
  · rintro ⟨⟨⟩, hsingly, ⟨⟩, hname, ⟨⟩, hwhole, h⟩
    cases h
    have halone := checkSingly_eq_ok_iff.mp hsingly
    obtain ⟨hnames, hnamesFit⟩ := checkTogether_eq_ok_iff.mp hname
    obtain ⟨hpaths, hpathsFit⟩ := checkTogether_eq_ok_iff.mp hwhole
    refine ⟨rfl, fun g hg => ⟨fun h => (halone g hg h).1, hnames g hg, hpaths g hg⟩, ?_⟩
    exact ⟨fun g hg h => (halone g hg h).2, hnamesFit, hpathsFit⟩
  · rintro ⟨rfl, hglobs, hfits⟩
    exact ⟨(), checkSingly_eq_ok_iff.mpr fun g hg h => ⟨(hglobs g hg).1 h, hfits.alone g hg h⟩,
      (), checkTogether_eq_ok_iff.mpr ⟨fun g hg => (hglobs g hg).2.1, hfits.names⟩,
      (), checkTogether_eq_ok_iff.mpr ⟨fun g hg => (hglobs g hg).2.2, hfits.paths⟩, rfl⟩

end Building

end GlobSet

namespace Discovery

namespace FileFilter

open GlobSet (IsOverDeep Fits)

variable {c : ScanConfig} {f : FileFilter} {fold : Bool} {text : Text} {texts : List Text}
  {g : Glob} {s : GlobSet} {path : Path}

theorem compileGlob_eq_ok_iff :
    compileGlob fold text = .ok g ↔ Glob.compile fold text = .ok g := by
  unfold compileGlob
  split <;> simp [*]

theorem folderGlob?_eq_some_iff {text folder : Text} :
    folderGlob? text = some folder ↔ text = folder ++ belowFolder ∧ folder ≠ [] := by
  rw [folderGlob?, Option.filter_eq_some_iff, Text.stripTail?_eq_some_iff]
  simp

section Building

variable [Glob.Capacity]

theorem joinGlobs_eq_ok_iff {globs : List Glob} :
    joinGlobs globs = .ok s ↔
      s.globs = globs ∧ (∀ g ∈ globs, ¬ IsOverDeep g) ∧ Fits globs := by
  rw [← GlobSet.ofGlobs_eq_ok_iff]
  unfold joinGlobs
  split <;> simp [*]

theorem compileSet_eq_ok_iff :
    compileSet fold texts = .ok s ↔
      List.Forall₂ (fun text g => Glob.compile fold text = .ok g) texts s.globs ∧
        (∀ g ∈ s.globs, ¬ IsOverDeep g) ∧ Fits s.globs := by
  simp only [compileSet, compileGlobs, bind_eq_ok_iff, mapM_eq_ok_iff, compileGlob_eq_ok_iff,
    joinGlobs_eq_ok_iff]
  constructor
  · rintro ⟨globs, hglobs, rfl, hsound⟩
    exact ⟨hglobs, hsound⟩
  · rintro ⟨hglobs, hsound⟩
    exact ⟨s.globs, hglobs, rfl, hsound⟩

theorem exists_text (h : compileSet fold texts = .ok s) (hg : g ∈ s.globs) :
    ∃ text ∈ texts, Glob.compile fold text = .ok g :=
  exists_of_mem_right (compileSet_eq_ok_iff.mp h).1 hg

theorem exists_glob (h : compileSet fold texts = .ok s) (ht : text ∈ texts) :
    ∃ g ∈ s.globs, Glob.compile fold text = .ok g :=
  exists_of_mem_left (compileSet_eq_ok_iff.mp h).1 ht

theorem isMatch_compileSet_iff (h : compileSet fold texts = .ok s) :
    s.isMatch path = true ↔
      ∃ text ∈ texts, ∃ g, Glob.compile fold text = .ok g ∧ g.isMatch path = true := by
  rw [GlobSet.isMatch, List.any_eq_true]
  constructor
  · rintro ⟨g, hg, hmatch⟩
    obtain ⟨text, htext, hcompile⟩ := exists_text h hg
    exact ⟨text, htext, g, hcompile, hmatch⟩
  · rintro ⟨text, htext, g, hcompile, hmatch⟩
    obtain ⟨g', hg', hcompile'⟩ := exists_glob h htext
    obtain rfl := Except.ok.inj (hcompile.symm.trans hcompile')
    exact ⟨g, hg', hmatch⟩

/-- A set matches a path when one of its globs does, whatever that says of the path. -/
theorem isMatch_compileSet_map_iff {ι : Type} {items : List ι} {textOf : ι → Text}
    {p : ι → Prop} (h : compileSet fold (items.map textOf) = .ok s)
    (hmatch : ∀ i ∈ items, ∀ g, Glob.compile fold (textOf i) = .ok g →
      (g.isMatch path = true ↔ p i)) :
    s.isMatch path = true ↔ ∃ i ∈ items, p i := by
  rw [isMatch_compileSet_iff h]
  constructor
  · rintro ⟨text, htext, g, hg, hpath⟩
    obtain ⟨i, hi, rfl⟩ := List.mem_map.mp htext
    exact ⟨i, hi, (hmatch i hi g hg).mp hpath⟩
  · rintro ⟨i, hi, hp⟩
    have htext : textOf i ∈ items.map textOf := List.mem_map_of_mem hi
    obtain ⟨g, -, hg⟩ := exists_glob h htext
    exact ⟨textOf i, htext, g, hg, (hmatch i hi g hg).mpr hp⟩

theorem ofConfig_eq_ok_iff :
    ofConfig c = .ok f ↔ compileSet c.caseInsensitive [c.pattern] = .ok f.wanted ∧
      compileSet c.caseInsensitive c.ignore = .ok f.ignored ∧
      compileSet c.caseInsensitive (folderGlobs c) = .ok f.pruned := by
  simp only [ofConfig, bind_eq_ok_iff]
  constructor
  · rintro ⟨wanted, hwanted, ignored, hignored, pruned, hpruned, h⟩
    cases h
    exact ⟨hwanted, hignored, hpruned⟩
  · rintro ⟨hwanted, hignored, hpruned⟩
    exact ⟨_, hwanted, _, hignored, _, hpruned, rfl⟩

end Building

end FileFilter

theorem exists_ofConfig [Glob.Capacity] {c : ScanConfig} {file folder : Path}
    {isSource enters : Bool}
    (h : (FileFilter.ofConfig c).toOption.map
      (fun f => (f.isSource file, f.entersFolder folder)) = some (isSource, enters)) :
    ∃ f, FileFilter.ofConfig c = .ok f ∧ f.isSource file = isSource ∧
      f.entersFolder folder = enters := by
  cases hf : FileFilter.ofConfig c with
  | error cause =>
    rw [hf] at h
    cases h
  | ok f =>
    rw [hf] at h
    cases h
    exact ⟨f, rfl, rfl, rfl⟩

end Discovery

end ImportCensus
