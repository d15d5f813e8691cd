import ImportCensus.Proofs.Config.Merging
import ImportCensus.Proofs.Discovery.Scanning
import ImportCensus.Proofs.Glob.Components
/-!
# Installed packages

Once the glob for installed packages is among those to leave out, a scan enters no folder
`node_modules` and takes no file below one, at whatever depth and whatever else the configuration
says.
-/

namespace ImportCensus

/-! ## Names in paths -/

namespace Path

variable {name : Name} {path : Path}

theorem exists_of_mem_dropLast_components (h : name ∈ (components path).dropLast) :
    ∃ folder rest, path = folder ++ slash :: rest ∧ Glob.IsNamed name folder := by
  obtain ⟨before, after, hdrop⟩ := List.append_of_mem h
  have hne : components path ≠ [] := by
    intro hnil
    rw [hnil] at h
    cases h
  have hcomponents := List.dropLast_append_getLast hne
  rw [hdrop, List.append_assoc, List.cons_append] at hcomponents
  -- the empty parts between slashes, which components leave out, are on either side of the name
  obtain ⟨before', rest, hparts, -, hrest⟩ := List.filter_eq_append_iff.mp hcomponents.symm
  obtain ⟨between, after', rfl, -, -, hafter⟩ := List.filter_eq_cons_iff.mp hrest
  have hafter' : after' ≠ [] := by
    rintro rfl
    simp at hafter
  have hjoin : [slash].intercalate (Text.splitOn slash path) = path :=
    Text.intercalate_splitOn path
  have hpath : path = ofNames (before' ++ between ++ [name] ++ after') := by
    rw [← hjoin, hparts, ofNames]
    simp
  refine ⟨ofNames (before' ++ between ++ [name]), ofNames after', ?_,
    Glob.isNamed_ofNames_concat (before' ++ between) name⟩
  rw [hpath, ofNames_append (by simp) hafter']

end Path

namespace Discovery

open FileTree

def nodeModules : Name :=
  Path.ofText "node_modules"

namespace FileFilter

variable {c : ScanConfig} {f : FileFilter} {path : Path}

theorem isPlainName_nodeModules : Glob.IsPlainName "node_modules".toList :=
  ⟨List.all_eq_true.mp (by decide), by decide, by decide, by decide⟩

theorem nodeModulesGlob_eq :
    nodeModulesGlob = Glob.starFolder ++ "node_modules".toList ++ belowFolder := by
  decide

theorem entersFolder_of_isNamed [Glob.Capacity] (hf : ofConfig c = .ok f)
    (h : nodeModulesGlob ∈ c.ignore)
    (hpath : Glob.IsNamed nodeModules path) : f.entersFolder path = false := by
  have hfolder : Glob.starFolder ++ "node_modules".toList ∈ folderGlobs c := by
    rw [folderGlobs, List.mem_filterMap]
    exact ⟨_, h, folderGlob?_eq_some_iff.mpr ⟨nodeModulesGlob_eq, by simp [Glob.starFolder]⟩⟩
  obtain ⟨g, hg, hcompile⟩ := exists_glob (ofConfig_eq_ok_iff.mp hf).2.2 hfolder
  rw [entersFolder, Bool.not_eq_false', GlobSet.isMatch, List.any_eq_true]
  exact ⟨g, hg, Glob.isMatch_of_isNamed isPlainName_nodeModules hcompile hpath⟩

theorem isIgnored_of_isNamed [Glob.Capacity] (hf : ofConfig c = .ok f)
    (h : nodeModulesGlob ∈ c.ignore) (hpath : Glob.IsNamed nodeModules path) (rest : Path) :
    f.isIgnored (path ++ Path.slash :: rest) = true := by
  obtain ⟨g, hg, hcompile⟩ := exists_glob (ofConfig_eq_ok_iff.mp hf).2.1 h
  rw [nodeModulesGlob_eq] at hcompile
  rw [isIgnored, GlobSet.isMatch, List.any_eq_true]
  exact ⟨g, hg, Glob.isMatch_below_of_isNamed isPlainName_nodeModules hcompile hpath⟩

end FileFilter

/-- Overrides that leave installed packages out keep a scan out of every folder `node_modules`,
and no file that it takes is below one. -/
theorem scan_outside_nodeModules [Glob.Capacity] (c : Config) (o : Overrides)
    (ho : o.excludeNodeModules = true)
    {f : FileFilter} (hf : FileFilter.ofConfig (c.merge o).scan = .ok f) :
    (∀ root base files, scan root (c.merge o).scan base = .ok files →
      ∀ file ∈ files, nodeModules ∉ (Path.components file.relative).dropLast) ∧
    ∀ names, f.entersFolder (Path.ofNames (names ++ [nodeModules])) = false := by
  have hglob : nodeModulesGlob ∈ (c.merge o).scan.ignore :=
    Config.mem_mergeIgnore_iff.mpr (Or.inr (Or.inr ⟨ho, rfl⟩))
  refine ⟨fun root base files hfiles file hfile hmem => ?_, fun names => ?_⟩
  · obtain ⟨folder, rest, hpath, hnamed⟩ := Path.exists_of_mem_dropLast_components hmem
    have hignored := FileFilter.isIgnored_of_isNamed hf hglob hnamed rest
    rw [← hpath] at hignored
    have hsource := isSource_of_mem_scan hf hfiles file hfile
    rw [FileFilter.isSource_of_isIgnored hignored] at hsource
    cases hsource
  · have hnamed := Glob.isNamed_ofNames_concat names nodeModules
    exact FileFilter.entersFolder_of_isNamed hf hglob hnamed

def installed : FileTree :=
  .folder [(Path.ofText "web", .folder
    [(Path.ofText "app.ts", .file []),
      (nodeModules, .folder [(Path.ofText "index.ts", .file [])])])]

theorem list_installed {c : ScanConfig} {f : FileFilter} (hdepth : c.maxDepth = none)
    (henters : f.entersFolder (Path.ofText "web") = true)
    (hsource : f.isSource (Path.ofText "web/app.ts") = true)
    (hinstalled : f.entersFolder (Path.ofText "web/node_modules") = false) :
    list installed c f (Path.ofText "/") =
      .ok [⟨Path.ofText "/web/app.ts", [Path.ofText "web", Path.ofText "app.ts"], 0⟩] := by
  obtain ⟨real, -, -, hseen⟩ := survey_of_node (node_root _) c.followLinks
  have hweb : Path.ofNames ([] ++ [Path.ofText "web"]) = Path.ofText "web" := by decide
  have happ : Path.ofNames ([] ++ [Path.ofText "web"] ++ [Path.ofText "app.ts"]) =
      Path.ofText "web/app.ts" := by decide
  have hmodules : Path.ofNames ([] ++ [Path.ofText "web"] ++ [nodeModules]) =
      Path.ofText "web/node_modules" := by decide
  have hshown : Path.join (Path.join (Path.ofText "/") (Path.ofText "web")) (Path.ofText "app.ts") =
      Path.ofText "/web/app.ts" := by decide
  refine list_eq_ok_iff.mpr ⟨_, _, hseen, ?_, (List.mergeSort_singleton _).symm⟩
  rw [hdepth]
  simp only [sights, Node.sight, collectIn, collectAt, withinDepth, if_true, hweb, happ, hmodules,
    hshown, henters, hsource, hinstalled]
  rfl

/-- The configuration itself leaves nothing out, and installed packages are left out all the
same. -/
theorem scan_outside_nodeModules_installed :
    ∃ f files, FileFilter.ofConfig (Config.merge { scan := { ignore := [] } }
        { excludeNodeModules := true }).scan = .ok f ∧
      f.entersFolder (Path.ofText "web") = true ∧
      f.entersFolder (Path.ofText "web/node_modules") = false ∧
      scan installed (Config.merge { scan := { ignore := [] } }
        { excludeNodeModules := true }).scan (Path.ofText "/") = .ok files ∧
      files.length = 1 ∧
      ∀ file ∈ files, nodeModules ∉ (Path.components file.relative).dropLast := by
  obtain ⟨f, hf, hsource, henters⟩ : ∃ f, FileFilter.ofConfig (Config.merge
        { scan := { ignore := [] } } { excludeNodeModules := true }).scan = .ok f ∧
      f.isSource (Path.ofText "web/app.ts") = true ∧ f.entersFolder (Path.ofText "web") = true :=
    exists_ofConfig (by decide +kernel)
  obtain ⟨houtside, hpruned⟩ := scan_outside_nodeModules { scan := { ignore := [] } }
    { excludeNodeModules := true } rfl hf
  have hinstalled : f.entersFolder (Path.ofText "web/node_modules") = false :=
    hpruned [Path.ofText "web"]
  have hfiles : scan installed (Config.merge { scan := { ignore := [] } }
      { excludeNodeModules := true }).scan (Path.ofText "/") = .ok _ :=
    bind_eq_ok_iff.mpr ⟨f, hf, list_installed rfl henters hsource hinstalled⟩
  exact ⟨f, _, hf, henters, hinstalled, hfiles, rfl, houtside _ _ _ hfiles⟩

end Discovery

end ImportCensus
