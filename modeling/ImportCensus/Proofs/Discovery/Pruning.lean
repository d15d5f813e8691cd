import ImportCensus.Proofs.Discovery.Compiling
import ImportCensus.Proofs.Glob.Below
import ImportCensus.Proofs.Path
/-!
# Folders that need not be entered

A folder that a scan does not enter holds no file that the scan would read, unless one of the
globs to leave out is a row of double stars.
-/

namespace ImportCensus.Discovery

open Glob (StarFolders)

/-- A glob to leave out that keeps a scan out of every folder, though it leaves out nothing. -/
def IsBlanket (glob : Text) : Prop :=
  ∃ folder, StarFolders folder ∧ glob = folder ++ FileFilter.belowFolder

namespace FileFilter

variable {c : ScanConfig} {f : FileFilter} {fold : Bool} {path : Path}

/-- Everything below a folder that is not entered is left out. -/
theorem isIgnored_below [Glob.Capacity] (h : ofConfig c = .ok f)
    (hignore : ∀ glob ∈ c.ignore, ¬ IsBlanket glob)
    (hpruned : f.entersFolder path = false) (rest : Path) :
    f.isIgnored (path ++ Path.slash :: rest) = true := by
  obtain ⟨-, hi, hp⟩ := ofConfig_eq_ok_iff.mp h
  rw [entersFolder, Bool.not_eq_false', GlobSet.isMatch, List.any_eq_true] at hpruned
  obtain ⟨g, hg, hmatch⟩ := hpruned
  obtain ⟨folder, hfolder, hcompile⟩ := exists_text hp hg
  rw [folderGlobs, List.mem_filterMap] at hfolder
  obtain ⟨glob, hglob, hstrip⟩ := hfolder
  obtain ⟨rfl, -⟩ := folderGlob?_eq_some_iff.mp hstrip
  obtain ⟨g', hg', hcompile'⟩ := exists_glob hi hglob
  have hstars : ¬ StarFolders folder := fun hs => hignore _ hglob ⟨folder, hs, rfl⟩
  rw [isIgnored, GlobSet.isMatch, List.any_eq_true]
  exact ⟨g', hg', Glob.isMatch_below hcompile hcompile' hstars hmatch⟩

theorem starFolders_ne_nil {folder : Text} (h : StarFolders folder) : folder ≠ [] := by
  cases h <;> simp [Glob.starFolder]

/-- A row of double stars keeps a scan out of every folder. -/
theorem entersFolder_of_isBlanket [Glob.Capacity] (h : ofConfig c = .ok f) {glob : Text}
    (hglob : glob ∈ c.ignore) (hblanket : IsBlanket glob) : f.entersFolder path = false := by
  obtain ⟨folder, hstars, rfl⟩ := hblanket
  have hfolder : folder ∈ folderGlobs c := by
    rw [folderGlobs, List.mem_filterMap]
    exact ⟨_, hglob, folderGlob?_eq_some_iff.mpr ⟨rfl, starFolders_ne_nil hstars⟩⟩
  obtain ⟨g, hg, hcompile⟩ := exists_glob (ofConfig_eq_ok_iff.mp h).2.2 hfolder
  rw [entersFolder, Bool.not_eq_false', GlobSet.isMatch, List.any_eq_true]
  exact ⟨g, hg, Glob.isMatch_starFolders hcompile hstars⟩

/-! ## When pruning is sound -/

/-- Names that may follow one another in a relative path. -/
def AreComponents (names : List Name) : Prop :=
  ∀ name ∈ names, name ≠ [] ∧ Path.slash ∉ name

/-- Whatever is below a folder that is not entered is left out, and so is no file to read. -/
def PrunesSoundly (f : FileFilter) : Prop :=
  ∀ folder below : List Name, AreComponents (folder ++ below) → folder ≠ [] → below ≠ [] →
    f.entersFolder (Path.ofNames folder) = false →
      f.isIgnored (Path.ofNames (folder ++ below)) = true ∧
        f.isSource (Path.ofNames (folder ++ below)) = false

theorem isSource_of_isIgnored (h : f.isIgnored path = true) : f.isSource path = false := by
  rw [isSource, h, Bool.not_true, Bool.and_false]

theorem suffix_of_isBlanket {glob : Text} (h : IsBlanket glob) : ['/', '/', '*', '*'] <:+ glob := by
  obtain ⟨folder, hfolder, rfl⟩ := h
  obtain ⟨before, rfl⟩ : ∃ before, folder = before ++ ['/'] := by
    cases hfolder with
    | one => exact ⟨['*', '*'], rfl⟩
    | @more text h => exact ⟨text ++ ['*', '*'], by simp [Glob.starFolder]⟩
  exact ⟨before, by simp [belowFolder]⟩

/-- Everything below a folder that is not entered is left out as long as no row of double stars
is to be left out.  Where there is such a row no folder is entered at all, so pruning is sound
only if the other globs leave out all that is not in the root folder. -/
theorem prunesSoundly_iff [Glob.Capacity] (h : ofConfig c = .ok f) :
    ((∀ glob ∈ c.ignore, ¬ IsBlanket glob) → ∀ folder rest : Path,
      f.entersFolder folder = false →
        f.isIgnored (folder ++ Path.slash :: rest) = true ∧
          f.isSource (folder ++ Path.slash :: rest) = false) ∧
    (f.PrunesSoundly ↔ (∀ glob ∈ c.ignore, ¬ IsBlanket glob) ∨
      ∀ names, AreComponents names → 2 ≤ names.length →
        f.isIgnored (Path.ofNames names) = true) := by
  have hbelow : (∀ glob ∈ c.ignore, ¬ IsBlanket glob) → ∀ folder rest : Path,
      f.entersFolder folder = false →
        f.isIgnored (folder ++ Path.slash :: rest) = true ∧
          f.isSource (folder ++ Path.slash :: rest) = false := by
    intro hignore folder rest hpruned
    have hignored := isIgnored_below h hignore hpruned rest
    exact ⟨hignored, isSource_of_isIgnored hignored⟩
  refine ⟨hbelow, fun hsound => ?_, ?_⟩
  · by_cases hblanket : ∃ glob ∈ c.ignore, IsBlanket glob
    · obtain ⟨glob, hglob, hblanket⟩ := hblanket
      refine Or.inr fun names hnames hlength => ?_
      match names with
      | first :: second :: names =>
        exact (hsound [first] (second :: names) hnames (by simp) (by simp)
          (entersFolder_of_isBlanket h hglob hblanket)).1
    · exact Or.inl fun glob hglob hb => hblanket ⟨glob, hglob, hb⟩
  · rintro (hignore | hall) folder below hnames hfolder hne hpruned
    · rw [Path.ofNames_append hfolder hne]
      exact hbelow hignore _ _ hpruned
    · have hlength : 2 ≤ (folder ++ below).length := by
        rw [List.length_append]
        have hf := List.length_pos_of_ne_nil hfolder
        have hb := List.length_pos_of_ne_nil hne
        omega
      have hignored := hall _ hnames hlength
      exact ⟨hignored, isSource_of_isIgnored hignored⟩

/-- The built-in globs prune soundly, and they do keep a scan out of folders. -/
theorem prunesSoundly_builtIn : ∃ f, ofConfig {} = .ok f ∧ f.PrunesSoundly ∧
    f.entersFolder (Path.ofText "web/node_modules") = false ∧
    f.isIgnored (Path.ofText "web/node_modules/pkg/index.ts") = true := by
  obtain ⟨f, hf, -, hpruned⟩ : ∃ f, ofConfig {} = .ok f ∧
      f.isSource (Path.ofText "web/node_modules/pkg/index.ts") = false ∧
      f.entersFolder (Path.ofText "web/node_modules") = false :=
    exists_ofConfig (by decide +kernel)
  have hignore : ∀ glob ∈ ({} : ScanConfig).ignore, ¬ IsBlanket glob := by
    have hnot : ∀ glob ∈ ({} : ScanConfig).ignore, ¬ ['/', '/', '*', '*'] <:+ glob := by decide
    exact fun glob hglob hblanket => hnot glob hglob (suffix_of_isBlanket hblanket)
  obtain ⟨hbelow, hiff⟩ := prunesSoundly_iff hf
  exact ⟨f, hf, hiff.mpr (Or.inl hignore), hpruned,
    (hbelow hignore _ (Path.ofText "pkg/index.ts") hpruned).1⟩

/-- A row of double stars keeps a scan out of a folder of whose files it leaves out none. -/
theorem not_prunesSoundly_doubleStars : ∃ f, ofConfig { ignore := ["**//**"] } = .ok f ∧
    f.entersFolder (Path.ofText "a") = false ∧ f.isSource (Path.ofText "a/b.ts") = true ∧
    ¬ f.PrunesSoundly := by
  obtain ⟨f, hf, hsource, hpruned⟩ : ∃ f, ofConfig { ignore := ["**//**"] } = .ok f ∧
      f.isSource (Path.ofText "a/b.ts") = true ∧ f.entersFolder (Path.ofText "a") = false :=
    exists_ofConfig (by decide +kernel)
  refine ⟨f, hf, hpruned, hsource, fun hsound => ?_⟩
  have hnames : AreComponents ([Path.ofText "a"] ++ [Path.ofText "b.ts"]) := by
    rw [AreComponents]
    decide
  have hnot := (hsound [Path.ofText "a"] [Path.ofText "b.ts"] hnames (by simp) (by simp) hpruned).2
  rw [show Path.ofNames ([Path.ofText "a"] ++ [Path.ofText "b.ts"]) = Path.ofText "a/b.ts" from rfl,
    hsource] at hnot
  cases hnot

end FileFilter

end ImportCensus.Discovery
