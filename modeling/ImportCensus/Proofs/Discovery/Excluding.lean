import ImportCensus.Proofs.Census
import ImportCensus.Proofs.Config.Merging
import ImportCensus.Proofs.Discovery.Scanning
/-!
# Leaving out more

With more globs to leave out a scan enters fewer folders and takes fewer files, and it gives the
files that are left in the same order.  So overrides that only exclude add no file and no import.
-/

namespace ImportCensus

namespace Discovery

open FileTree

/-! ## Filters with more globs to leave out -/

namespace FileFilter

variable {c : ScanConfig} {f f' : FileFilter} {fold : Bool} {texts texts' : List Text}
  {s s' : GlobSet} {path : Path}

/-- Whether every file and every folder that the first filter takes is taken by the second. -/
structure IsNarrower (f' f : FileFilter) : Prop where
  isSource : ∀ path, f'.isSource path = true → f.isSource path = true
  entersFolder : ∀ path, f'.entersFolder path = true → f.entersFolder path = true

theorem isMatch_of_subset [Glob.Capacity] (h : compileSet fold texts = .ok s)
    (h' : compileSet fold texts' = .ok s')
    (hsub : texts ⊆ texts') (hmatch : s.isMatch path = true) : s'.isMatch path = true := by
  obtain ⟨text, htext, hglob⟩ := (isMatch_compileSet_iff h).mp hmatch
  exact (isMatch_compileSet_iff h').mpr ⟨text, hsub htext, hglob⟩

theorem isNarrower_of_subset [Glob.Capacity] {ignore : List Text} (hf : ofConfig c = .ok f)
    (hf' : ofConfig { c with ignore := ignore } = .ok f') (hsub : c.ignore ⊆ ignore) :
    f'.IsNarrower f := by
  obtain ⟨hsame, hignored, hpruned⟩ := ofConfig_eq_ok_iff.mp hf
  obtain ⟨hsame', hignored', hpruned'⟩ := ofConfig_eq_ok_iff.mp hf'
  have hwanted : f'.wanted = f.wanted := Except.ok.inj (hsame'.symm.trans hsame)
  have hfolders : folderGlobs c ⊆ folderGlobs { c with ignore := ignore } :=
    List.filterMap_subset _ hsub
  refine ⟨fun path h => ?_, fun path h => ?_⟩
  · simp only [isSource, isIgnored, hwanted, Bool.and_eq_true, Bool.not_eq_true'] at h ⊢
    refine ⟨h.1, Bool.eq_false_iff.mpr fun hmatch => ?_⟩
    exact Bool.eq_false_iff.mp h.2 (isMatch_of_subset hignored hignored' hsub hmatch)
  · simp only [entersFolder, Bool.not_eq_true'] at h ⊢
    refine Bool.eq_false_iff.mpr fun hmatch => ?_
    exact Bool.eq_false_iff.mp h (isMatch_of_subset hpruned hpruned' hfolders hmatch)

end FileFilter

/-! ## The files that are left -/

section Narrower

variable {f f' : FileFilter} {limit : Option Nat} {names : List Name} {shown : Path}
  {files files' : List SourceFile}

open List (Sublist)

mutual

theorem collectAt_narrower (h : f'.IsNarrower f) :
    ∀ (names : List Name) (shown : Path) (s : Sight) (files : List SourceFile),
      collectAt f limit names shown s = .ok files →
        ∃ files', collectAt f' limit names shown s = .ok files' ∧ Sublist files' files
  | names, shown, .file size, files, hfiles => by
    refine ⟨_, rfl, ?_⟩
    cases hfiles
    by_cases hsource : f'.isSource (Path.ofNames names) = true
    · rw [if_pos hsource, if_pos (h.isSource _ hsource)]
    · rw [if_neg hsource]
      exact List.nil_sublist _
  | names, shown, .folder es, files, hfiles => by
    rw [collectAt] at hfiles ⊢
    by_cases henters : f'.entersFolder (Path.ofNames names) = true
    · rw [if_pos (h.entersFolder _ henters)] at hfiles
      rw [if_pos henters]
      exact collectIn_narrower h names shown es files hfiles
    · rw [if_neg henters]
      exact ⟨[], rfl, List.nil_sublist _⟩
  | names, shown, .passed, files, hfiles => ⟨files, hfiles, .refl _⟩
  | names, shown, .failed error, files, hfiles => by cases hfiles

theorem collectIn_narrower (h : f'.IsNarrower f) :
    ∀ (names : List Name) (shown : Path) (es : List (Name × Sight)) (files : List SourceFile),
      collectIn f limit names shown es = .ok files →
        ∃ files', collectIn f' limit names shown es = .ok files' ∧ Sublist files' files
  | names, shown, [], files, hfiles => ⟨files, hfiles, .refl _⟩
  | names, shown, (name, s) :: es, files, hfiles => by
    rw [collectIn] at hfiles ⊢
    by_cases hdepth : withinDepth limit (names.length + 1) = true
    · rw [if_pos hdepth] at hfiles ⊢
      obtain ⟨here, hhere, hfiles⟩ := bind_eq_ok_iff.mp hfiles
      obtain ⟨others, hothers, hfiles⟩ := bind_eq_ok_iff.mp hfiles
      cases hfiles
      obtain ⟨here', hhere', hsub⟩ := collectAt_narrower h _ _ s here hhere
      obtain ⟨others', hothers', hsub'⟩ := collectIn_narrower h names shown es others hothers
      refine ⟨here' ++ others', ?_, hsub.append hsub'⟩
      rw [hhere', hothers']
      rfl
    · rw [if_neg hdepth] at hfiles ⊢
      exact ⟨files, hfiles, .refl _⟩

end

namespace SourceFile

theorem exists_mergeSort_cons (file : SourceFile) (files : List SourceFile) :
    ∃ before after, (file :: files).mergeSort le = before ++ file :: after ∧
      files.mergeSort le = before ++ after ∧
      before = (files.mergeSort le).filter (!le file ·) ∧
      after = (files.mergeSort le).filter (le file ·) := by
  obtain ⟨before, after, hcons, hsort, hbefore⟩ :=
    List.mergeSort_cons le_trans le_total file files
  have hafter : ∀ other ∈ after, le file other = true := by
    have hsorted := List.pairwise_mergeSort le_trans le_total (file :: files)
    rw [hcons, List.pairwise_append, List.pairwise_cons] at hsorted
    exact hsorted.2.1.1
  refine ⟨before, after, hcons, hsort, ?_, ?_⟩
  · rw [hsort, List.filter_append, List.filter_eq_self.mpr hbefore, List.filter_eq_nil_iff.mpr,
      List.append_nil]
    exact fun other hother => by simp [hafter other hother]
  · rw [hsort, List.filter_append, List.filter_eq_self.mpr hafter, List.filter_eq_nil_iff.mpr,
      List.nil_append]
    exact fun other hother => by simpa using hbefore other hother

theorem sublist_mergeSort (h : Sublist files' files) :
    Sublist (files'.mergeSort le) (files.mergeSort le) := by
  induction h with
  | slnil => exact .refl _
  | @cons files' files file _ ih =>
    obtain ⟨before, after, hcons, hsort, -⟩ := exists_mergeSort_cons file files
    rw [hsort] at ih
    rw [hcons]
    exact ih.middle file
  | @cons_cons files' files file _ ih =>
    obtain ⟨before, after, hcons, -, rfl, rfl⟩ := exists_mergeSort_cons file files'
    obtain ⟨before', after', hcons', -, rfl, rfl⟩ := exists_mergeSort_cons file files
    rw [hcons, hcons']
    exact (ih.filter _).append ((ih.filter _).cons_cons file)

end SourceFile

/-- A scan that succeeds does so with more globs to leave out, and gives some of its files. -/
theorem scan_narrower [Glob.Capacity] {root : FileTree} {c : ScanConfig} {path : Path}
    {ignore : List Text}
    (hsub : c.ignore ⊆ ignore) (hf' : FileFilter.ofConfig { c with ignore := ignore } = .ok f')
    (hfiles : scan root c path = .ok files) :
    ∃ files', scan root { c with ignore := ignore } path = .ok files' ∧ Sublist files' files := by
  obtain ⟨f, hf, hlist⟩ := bind_eq_ok_iff.mp hfiles
  obtain ⟨seen, found, hseen, hfound, rfl⟩ := list_eq_ok_iff.mp hlist
  have hnarrower := FileFilter.isNarrower_of_subset hf hf' hsub
  obtain ⟨found', hfound', hless⟩ := collectIn_narrower hnarrower [] path seen found hfound
  refine ⟨found'.mergeSort SourceFile.le, ?_, SourceFile.sublist_mergeSort hless⟩
  have hlist' := list_eq_ok_iff.mpr ⟨seen, found', hseen, hfound', rfl⟩
  exact bind_eq_ok_iff.mpr ⟨f', hf', hlist'⟩

end Narrower

theorem list_nested {c : ScanConfig} {f : FileFilter} (hdepth : c.maxDepth = none)
    (hsource : f.isSource (Path.ofText "a/b.ts") = true)
    (henters : f.entersFolder (Path.ofText "a") = true) :
    list nested c f (Path.ofText "/") =
      .ok [⟨Path.ofText "/a/b.ts", [Path.ofText "a", Path.ofText "b.ts"], 0⟩] := by
  obtain ⟨real, -, -, hseen⟩ := survey_of_node node_nested c.followLinks
  have hname : Path.ofNames ([] ++ [Path.ofText "a"]) = Path.ofText "a" := by decide
  have hnames : Path.ofNames ([] ++ [Path.ofText "a"] ++ [Path.ofText "b.ts"]) =
      Path.ofText "a/b.ts" := by decide
  have hshown : Path.join (Path.join (Path.ofText "/") (Path.ofText "a")) (Path.ofText "b.ts") =
      Path.ofText "/a/b.ts" := by decide
  refine list_eq_ok_iff.mpr ⟨_, _, hseen, ?_, (List.mergeSort_singleton _).symm⟩
  rw [hdepth]
  simp only [sights, Node.sight, collectIn, collectAt, withinDepth, if_true, hname, hnames,
    hshown, henters, hsource]
  rfl

end Discovery

/-! ## The census that is left -/

namespace Census

open Discovery FileTree

variable {root : FileTree} {base : Path} {package : Statement.PackageFilter}
  {census census' : Census}

theorem imports_of_sublist {files files' : List SourceFile} (h : files'.Sublist files) :
    ∀ symbol ∈ (ofPaths root base package files').imports,
      symbol ∈ (ofPaths root base package files).imports := by
  intro symbol hsymbol
  obtain ⟨file, hfile, hread⟩ := mem_imports_ofPaths_iff.mp hsymbol
  exact mem_imports_ofPaths_iff.mpr ⟨file, h.subset hfile, hread⟩

/-- Overrides that give no pattern take no file into a census and no import, whatever they leave
out: its files are some of those before, in the same order. -/
theorem take_merge [Glob.Capacity] (c : Config) (o : Overrides) (ho : o.pattern = none)
    (h : (take root c.scan base package).1 = .ok census)
    (h' : (take root (c.merge o).scan base package).1 = .ok census') :
    ∃ files files', scan root c.scan base = .ok files ∧
      scan root (c.merge o).scan base = .ok files' ∧ files'.Sublist files ∧
      census.filesScanned = files.length ∧ census'.filesScanned = files'.length ∧
      ∀ symbol ∈ census'.imports, symbol ∈ census.imports := by
  obtain ⟨files, hfiles, rfl⟩ := take_eq_ok_iff.mp h
  obtain ⟨files', hfiles', rfl⟩ := take_eq_ok_iff.mp h'
  have hmerge : (c.merge o).scan =
      { c.scan with ignore := Config.mergeIgnore c.scan.ignore o } := by
    rw [Config.merge, ho]
    rfl
  have hsub : c.scan.ignore ⊆ Config.mergeIgnore c.scan.ignore o :=
    fun _ hglob => Config.mem_mergeIgnore_iff.mpr (Or.inl hglob)
  have hscan := hfiles'
  rw [hmerge] at hscan
  obtain ⟨f', hf', -⟩ := bind_eq_ok_iff.mp hscan
  obtain ⟨less, hless, hsublist⟩ := scan_narrower hsub hf' hfiles
  obtain rfl := Except.ok.inj (hless.symm.trans hscan)
  exact ⟨files, less, hfiles, hfiles', hsublist, rfl, rfl, imports_of_sublist hsublist⟩

/-- The only file is in a folder that the overrides leave out. -/
theorem take_merge_nested :
    ∃ census census', (take nested { ignore := [] } (Path.ofText "/") none).1 = .ok census ∧
      (take nested (Config.merge { scan := { ignore := [] } }
        { exclude := some ["a/**"], excludeNodeModules := true }).scan
        (Path.ofText "/") none).1 = .ok census' ∧
      census.filesScanned = 1 ∧ census'.filesScanned = 0 ∧
      ∀ symbol ∈ census'.imports, symbol ∈ census.imports := by
  obtain ⟨f, hf, hsource, henters⟩ : ∃ f, FileFilter.ofConfig { ignore := [] } = .ok f ∧
      f.isSource (Path.ofText "a/b.ts") = true ∧ f.entersFolder (Path.ofText "a") = true :=
    exists_ofConfig (by decide +kernel)
  obtain ⟨f', hf', -, henters'⟩ : ∃ f, FileFilter.ofConfig (Config.merge
        { scan := { ignore := [] } }
        { exclude := some ["a/**"], excludeNodeModules := true }).scan = .ok f ∧
      f.isSource (Path.ofText "a/b.ts") = false ∧ f.entersFolder (Path.ofText "a") = false :=
    exists_ofConfig (by decide +kernel)
  obtain ⟨real, -, -, hseen⟩ := survey_of_node node_nested false
  have hfiles : scan nested { ignore := [] } (Path.ofText "/") = .ok _ :=
    bind_eq_ok_iff.mpr ⟨f, hf, list_nested rfl hsource henters⟩
  have hfiles' : scan nested (Config.merge { scan := { ignore := [] } }
      { exclude := some ["a/**"], excludeNodeModules := true }).scan (Path.ofText "/") = .ok [] :=
    bind_eq_ok_iff.mpr ⟨f', hf', list_of_not_entersFolder hseen henters'⟩
  have h := take_eq_ok_iff.mpr ⟨_, hfiles, Eq.refl (ofPaths nested (Path.ofText "/") none _)⟩
  have h' := take_eq_ok_iff.mpr ⟨_, hfiles', Eq.refl (ofPaths nested (Path.ofText "/") none _)⟩
  obtain ⟨-, -, -, -, -, -, -, himports⟩ := take_merge { scan := { ignore := [] } }
    { exclude := some ["a/**"], excludeNodeModules := true } rfl h h'
  exact ⟨_, _, h, h', rfl, rfl, himports⟩

end Census

end ImportCensus
