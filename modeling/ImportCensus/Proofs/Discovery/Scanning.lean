import ImportCensus.Proofs.Discovery.Collecting
import ImportCensus.Proofs.Discovery.Pruning
import ImportCensus.Proofs.FileTree.Hops
import ImportCensus.Proofs.Path
/-!
# What a scan gives

A scan that meets no error gives the source files of the tree, each once and in the order of
their names, whatever order the folders are listed in.  Only where a row of double stars is to
be left out, the scan gives nothing but source files of the root folder.
-/

namespace ImportCensus.Discovery

open FileTree Sight

/-- Whether a scan comes to a sight along some names. -/
def ComesTo (root : FileTree) (c : ScanConfig) (f : FileFilter) (path : Path)
    (names : List Name) (s : Sight) : Prop :=
  ∃ seen, survey root c.followLinks path = .ok seen ∧
    Leads (LooksInto f c.maxDepth) [] (.folder seen) names s

/-! ## The order of files -/

namespace SourceFile

theorem le_trans (a b c : SourceFile) (hab : le a b = true) (hbc : le b c = true) :
    le a c = true := by
  simp only [le, decide_eq_true_eq] at hab hbc ⊢
  exact List.le_trans hab hbc

theorem le_total (a b : SourceFile) : (le a b || le b a) = true := by
  simp only [le, Bool.or_eq_true, decide_eq_true_eq]
  exact List.le_total a.names b.names

theorem pairwise_mergeSort {files : List SourceFile} (h : (files.map (·.names)).Nodup) :
    (files.mergeSort le).Pairwise fun a b => a.names < b.names := by
  have hsorted := List.pairwise_mergeSort le_trans le_total files
  have hnodup : ((files.mergeSort le).map (·.names)).Nodup :=
    ((List.mergeSort_perm files le).map _).nodup_iff.mpr h
  refine (hsorted.and (List.pairwise_map.mp hnodup)).imp ?_
  rintro a b ⟨hle, hne⟩
  simp only [le, decide_eq_true_eq] at hle
  exact Std.lt_of_le_of_ne hle hne

theorem eq_of_pairwise {files files' : List SourceFile}
    (h : files.Pairwise fun a b => a.names < b.names)
    (h' : files'.Pairwise fun a b => a.names < b.names)
    (hmem : ∀ file, file ∈ files ↔ file ∈ files') : files = files' := by
  have hne : ∀ {a b : SourceFile}, a.names < b.names → a ≠ b := by
    rintro a b hlt rfl
    exact List.lt_irrefl a.names hlt
  apply List.Perm.eq_of_pairwise _ h h'
  · exact (List.perm_ext_iff_of_nodup (h.imp hne) (h'.imp hne)).mpr hmem
  · intro a b _ _ hab hba
    exact absurd hab (List.lt_asymm hba)

end SourceFile

/-! ## The list of files -/

section Listing

variable {root : FileTree} {c : ScanConfig} {f : FileFilter} {path : Path} {names : List Name}
  {es : List (Name × Node)} {seen : List (Name × Sight)} {limit : Option Nat}

theorem list_eq_ok_iff {files : List SourceFile} :
    list root c f path = .ok files ↔
      ∃ seen found, survey root c.followLinks path = .ok seen ∧
        collectIn f c.maxDepth [] path seen = .ok found ∧
        files = found.mergeSort SourceFile.le := by
  rw [list, bind_eq_ok_iff]
  refine exists_congr fun seen => ?_
  constructor
  · rintro ⟨hseen, h⟩
    split at h
    · rename_i found hfound
      cases h
      exact ⟨found, hseen, hfound, rfl⟩
    · cases h
  · rintro ⟨found, hseen, hfound, rfl⟩
    rw [hfound]
    exact ⟨hseen, rfl⟩

theorem list_spec (hseen : survey root c.followLinks path = .ok seen)
    (hcalm : IsCalm f c.maxDepth [] (.folder seen)) :
    ∃ files, list root c f path = .ok files ∧
      (∀ file, file ∈ files ↔ ∃ names size,
        Leads (LooksInto f c.maxDepth) [] (.folder seen) names (.file size) ∧
        f.isSource (Path.ofNames names) = true ∧ file = ⟨Path.descend path names, names, size⟩) ∧
      files.Pairwise fun a b => a.names < b.names := by
  obtain ⟨files, hfiles, hcollected⟩ :=
    collectIn_spec f c.maxDepth [] path (Or.inl rfl) seen hcalm
  refine ⟨files.mergeSort SourceFile.le, ?_, fun file => ?_,
    SourceFile.pairwise_mergeSort hcollected.nodup⟩
  · exact list_eq_ok_iff.mpr ⟨seen, files, hseen, hfiles, rfl⟩
  · rw [List.mem_mergeSort, hcollected.mem]
    rfl

/-- Whatever a scan gives is a source file. -/
theorem isSource_of_mem_scan [Glob.Capacity] {files : List SourceFile}
    (hf : FileFilter.ofConfig c = .ok f)
    (h : scan root c path = .ok files) : ∀ file ∈ files, f.isSource file.relative = true := by
  obtain ⟨f', hf', hlist⟩ := bind_eq_ok_iff.mp h
  obtain rfl := Except.ok.inj (hf.symm.trans hf')
  obtain ⟨seen, found, -, hfound, rfl⟩ := list_eq_ok_iff.mp hlist
  intro file hfile
  rw [List.mem_mergeSort] at hfile
  exact isSource_of_mem_collectIn [] path seen found hfound file hfile

theorem withinDepth_mono {m n : Nat} (hmn : m ≤ n) (h : withinDepth limit n = true) :
    withinDepth limit m = true := by
  cases limit with
  | none => rfl
  | some d =>
    simp only [withinDepth, decide_eq_true_eq] at h ⊢
    omega

/-- A scan looks into all folders on the way to a source file that is not too deep, unless a row
of double stars is to be left out: then it looks into the root folder only. -/
theorem goesAlong_iff [Glob.Capacity] (hf : FileFilter.ofConfig c = .ok f) (hne : names ≠ [])
    (hsource : f.isSource (Path.ofNames names) = true) :
    GoesAlong (LooksInto f limit) [] names ↔
      withinDepth limit names.length = true ∧
        ((∃ glob ∈ c.ignore, IsBlanket glob) → names.length = 1) := by
  constructor
  · intro h
    refine ⟨?_, ?_⟩
    · obtain ⟨before, name, rfl⟩ := (List.eq_nil_or_concat' names).resolve_left hne
      have hlast := (h before name [] rfl).2
      simpa using hlast
    · rintro ⟨glob, hglob, hblanket⟩
      match names, hne with
      | [_], _ => rfl
      | first :: second :: after, _ =>
        have henters := (h [first] second after rfl).1.resolve_left (by simp)
        rw [FileFilter.entersFolder_of_isBlanket hf hglob hblanket] at henters
        cases henters
  · rintro ⟨hdepth, hblanket⟩ before name after rfl
    rw [List.nil_append]
    refine ⟨?_, withinDepth_mono (by simp) hdepth⟩
    by_cases hbefore : before = []
    · exact Or.inl hbefore
    · right
      -- a folder that is not entered has nothing below it that is not left out
      by_contra henters
      rw [Bool.not_eq_true] at henters
      have hnone : ∀ glob ∈ c.ignore, ¬ IsBlanket glob := by
        intro glob hglob h
        have hlength := hblanket ⟨glob, hglob, h⟩
        have hpos := List.length_pos_iff.mpr hbefore
        rw [List.length_append, List.length_cons] at hlength
        omega
      have hignored := FileFilter.isIgnored_below hf hnone henters (Path.ofNames (name :: after))
      rw [← Path.ofNames_append_cons hbefore] at hignored
      simp [FileFilter.isSource, hignored] at hsource

theorem slash_not_mem_of_leads {goes : List Name → Prop} {base : List Name} {s t : Sight}
    (hnames : ∀ rest seen, Leads goes base s rest (.folder seen) → ∀ e ∈ seen, Path.slash ∉ e.1)
    (h : Leads goes base s names t) : ∀ name ∈ names, Path.slash ∉ name := by
  induction names generalizing base s with
  | nil => simp
  | cons name rest ih =>
    obtain ⟨hgoes, child, hchild, hleads⟩ := h
    have hfolder : s = .folder s.entries := by
      cases s with
      | folder seen => rfl
      | _ => cases hchild
    intro name' hname'
    rcases List.mem_cons.mp hname' with rfl | hname'
    · exact hnames [] s.entries hfolder _ hchild
    · refine ih (fun rest seen hseen => ?_) hleads name' hname'
      exact hnames (name :: rest) seen ⟨hgoes, child, hchild, hseen⟩

theorem isCalm_of_comesTo (hnode : node root path = .ok (.folder es)) (ht : root.IsTidy)
    (hseen : survey root c.followLinks path = .ok seen)
    (hcalm : ∀ names error, ¬ ComesTo root c f path names (.failed error)) :
    IsCalm f c.maxDepth [] (.folder seen) := by
  refine ⟨fun rest error hleads => hcalm rest error ⟨seen, hseen, hleads⟩, fun rest es hleads => ?_⟩
  exact (nodup_of_leads ht (sameSight_survey ht hnode hseen) hleads).1

/-- A scan fails at a followed link that leads nowhere or to a folder that the scan is in. -/
theorem failsAt_of_comesTo {error : WalkError} (h : ComesTo root c f path names (.failed error)) :
    c.followLinks = true ∧ FailsAt root (Path.descend path names) error := by
  obtain ⟨seen, hseen, hleads⟩ := h
  exact failsAt_of_survey hseen hleads

theorem not_comesTo_failed (hfollow : c.followLinks = false) (names : List Name)
    (error : WalkError) : ¬ ComesTo root c f path names (.failed error) := by
  intro h
  rw [(failsAt_of_comesTo h).1] at hfollow
  cases hfollow

theorem nodup_relative {files : List SourceFile} {goes : List Name → Prop} {s : Sight}
    (hs : ∀ size, s ≠ .file size)
    (hnames : ∀ rest seen, Leads goes [] s rest (.folder seen) → ∀ e ∈ seen, Path.slash ∉ e.1)
    (hleads : ∀ file ∈ files, ∃ size, Leads goes [] s file.names (.file size))
    (hsorted : files.Pairwise fun a b => a.names < b.names) :
    (files.map (·.relative)).Nodup := by
  have hfile : ∀ file ∈ files, file.names ≠ [] ∧ ∀ name ∈ file.names, Path.slash ∉ name := by
    intro file hfile
    obtain ⟨size, h⟩ := hleads file hfile
    refine ⟨?_, slash_not_mem_of_leads hnames h⟩
    intro hnil
    rw [hnil] at h
    exact hs size h
  refine List.pairwise_map.mpr (hsorted.imp_of_mem ?_)
  intro a b ha hb hlt heq
  have hnames := Path.ofNames_injective (hfile a ha).1 (hfile b hb).1 (hfile a ha).2
    (hfile b hb).2 heq
  rw [hnames] at hlt
  exact List.lt_irrefl b.names hlt

/-- The source files that a scan comes to are those of the tree that are not too deep. -/
theorem leads_source_iff [Glob.Capacity] (hf : FileFilter.ofConfig c = .ok f)
    (hnode : node root path = .ok (.folder es))
    (hseen : survey root c.followLinks path = .ok seen)
    (hcalm : IsCalm f c.maxDepth [] (.folder seen)) {size : Nat}
    (hsource : f.isSource (Path.ofNames names) = true) :
    Leads (LooksInto f c.maxDepth) [] (.folder seen) names (.file size) ↔
      HasFile root c.followLinks path (.folder es) names size ∧
        withinDepth c.maxDepth names.length = true ∧
        ((∃ glob ∈ c.ignore, IsBlanket glob) → names.length = 1) := by
  obtain ⟨real, -, -, hseen'⟩ := survey_of_node hnode c.followLinks
  obtain rfl := Except.ok.inj (hseen'.symm.trans hseen)
  rw [leads_iff_hasFile (.folder (isRule_linkRule root c.followLinks) rfl) hcalm.not_failed]
  apply and_congr_right
  intro hfile
  apply goesAlong_iff hf _ hsource
  rintro rfl
  cases hfile

/-- The list of files does not depend on the order in which folders are listed. -/
theorem list_reordered {root' : FileTree} (hre : root.IsReordered root') (ht : root.IsTidy)
    (hnode : node root path = .ok (.folder es))
    (hseen : survey root c.followLinks path = .ok seen)
    (hcalm : IsCalm f c.maxDepth [] (.folder seen)) :
    list root' c f path = list root c f path := by
  obtain ⟨es', seen₁, seen', hnode', h₁, hseen', hsame⟩ :=
    survey_reordered hre ht hnode c.followLinks
  obtain rfl := Except.ok.inj (h₁.symm.trans hseen)
  have ht' := hre.tidy ht
  have hcalm' : IsCalm f c.maxDepth [] (.folder seen') := by
    refine ⟨fun rest error hleads => ?_, fun rest es hleads => ?_⟩
    · exact hcalm.not_failed rest error ((leads_iff_reordered hre ht hsame (by simp)).mpr hleads)
    · exact (nodup_of_leads ht' (sameSight_survey ht' hnode' hseen') hleads).1
  obtain ⟨files, hfiles, hmem, hsorted⟩ := list_spec hseen hcalm
  obtain ⟨files', hfiles', hmem', hsorted'⟩ := list_spec hseen' hcalm'
  have heq : files' = files := by
    apply SourceFile.eq_of_pairwise hsorted' hsorted
    intro file
    rw [hmem, hmem']
    simp only [leads_iff_reordered hre ht hsame (t := .file _) (by simp)]
  rw [hfiles, hfiles', heq]

/-- A scan that meets no error gives exactly the source files of the tree that are not too deep,
in strictly increasing order, whatever order the folders are listed in; where a row of double
stars is to be left out, those of the root folder only. -/
theorem scan_spec [Glob.Capacity] (hf : FileFilter.ofConfig c = .ok f)
    (hnode : node root path = .ok (.folder es)) (ht : root.IsTidy)
    (hcalm : ∀ names error, ¬ ComesTo root c f path names (.failed error)) :
    ∃ files, scan root c path = .ok files ∧
      (∀ file, file ∈ files ↔
        HasFile root c.followLinks path (.folder es) file.names file.size ∧
        file.source = Path.descend path file.names ∧
        withinDepth c.maxDepth file.names.length = true ∧
        f.isSource file.relative = true ∧
        ((∃ glob ∈ c.ignore, IsBlanket glob) → file.names.length = 1)) ∧
      (files.Pairwise fun a b => a.names < b.names) ∧
      (files.map (·.relative)).Nodup ∧
      ∀ root', root.IsReordered root' → scan root' c path = .ok files := by
  obtain ⟨real, -, -, hseen⟩ := survey_of_node hnode c.followLinks
  have hquiet := isCalm_of_comesTo hnode ht hseen hcalm
  obtain ⟨files, hfiles, hmem, hsorted⟩ := list_spec hseen hquiet
  refine ⟨files, ?_, fun file => ?_, hsorted, ?_, fun root' hre => ?_⟩
  · rw [scan, hf]
    exact hfiles
  · rw [hmem]
    constructor
    · rintro ⟨names, size, hleads, hsource, rfl⟩
      obtain ⟨hfile, hdepth, hblanket⟩ :=
        (leads_source_iff hf hnode hseen hquiet hsource).mp hleads
      exact ⟨hfile, rfl, hdepth, hsource, hblanket⟩
    · rintro ⟨hfile, hshown, hdepth, hsource, hblanket⟩
      refine ⟨file.names, file.size, ?_, hsource, ?_⟩
      · exact (leads_source_iff hf hnode hseen hquiet hsource).mpr ⟨hfile, hdepth, hblanket⟩
      · rw [← hshown]
  · have hleads : ∀ file ∈ files, ∃ size, Leads (LooksInto f c.maxDepth) []
        (.folder (sights (linkRule root c.followLinks) ⟨path, real, []⟩ es)) file.names
        (.file size) := by
      intro file hfile
      obtain ⟨names, size, hleads, -, rfl⟩ := (hmem file).mp hfile
      exact ⟨size, hleads⟩
    refine nodup_relative (by simp) (fun rest seen hleads => ?_) hleads hsorted
    exact (nodup_of_leads ht (sameSight_survey ht hnode hseen) hleads).2
  · rw [scan, hf]
    exact (list_reordered hre ht hnode hseen hquiet).trans hfiles

end Listing

/-! ## A file in a folder -/

section Nested

def nested : FileTree :=
  .folder [(Path.ofText "a", .folder [(Path.ofText "b.ts", .file [])])]

theorem node_nested : node nested (Path.ofText "/") = .ok nested :=
  node_root _

theorem isTidy_nested : nested.IsTidy := by
  refine Node.isTidy_folder (by decide) (by decide) ?_
  rintro e he
  rw [List.mem_singleton.mp he]
  refine Node.isTidy_folder (by decide) (by decide) ?_
  rintro e he
  rw [List.mem_singleton.mp he]
  exact Node.isTidy_file []

theorem hasFile_nested (follow : Bool) :
    HasFile nested follow (Path.ofText "/") nested [Path.ofText "a", Path.ofText "b.ts"] 0 :=
  ⟨_, _, List.mem_cons_self, rfl, _, _, List.mem_cons_self, rfl, rfl⟩

theorem list_of_not_entersFolder {root : FileTree} {c : ScanConfig} {f : FileFilter} {path : Path}
    {name : Name} {seen : List (Name × Sight)}
    (hseen : survey root c.followLinks path = .ok [(name, .folder seen)])
    (h : f.entersFolder name = false) : list root c f path = .ok [] := by
  have hname : Path.ofNames [name] = name := by simp [Path.ofNames]
  have hcollect : collectIn f c.maxDepth [] path [(name, .folder seen)] = .ok [] := by
    rw [collectIn, List.nil_append, collectAt, hname, h, collectIn]
    split <;> rfl
  exact list_eq_ok_iff.mpr ⟨_, _, hseen, hcollect, List.mergeSort_nil.symm⟩

/-- Nothing is left out, and the file is found. -/
theorem scan_spec_nested : ∃ files, scan nested { ignore := [] } (Path.ofText "/") = .ok files ∧
    ⟨Path.ofText "/a/b.ts", [Path.ofText "a", Path.ofText "b.ts"], 0⟩ ∈ files := by
  obtain ⟨f, hf, hsource, -⟩ : ∃ f, FileFilter.ofConfig { ignore := [] } = .ok f ∧
      f.isSource (Path.ofText "a/b.ts") = true ∧ f.entersFolder (Path.ofText "a") = true :=
    exists_ofConfig (by decide +kernel)
  obtain ⟨files, hfiles, hmem, -⟩ :=
    scan_spec hf node_nested isTidy_nested (not_comesTo_failed rfl)
  refine ⟨files, hfiles, (hmem _).mpr ⟨hasFile_nested false, by decide, rfl, hsource, ?_⟩⟩
  rintro ⟨glob, hglob, -⟩
  cases hglob

/-- Under a row of double stars the file is lost, though it is not left out. -/
theorem scan_loses_source : ∃ f, FileFilter.ofConfig { ignore := ["**//**"] } = .ok f ∧
    node nested (Path.ofText "/") = .ok nested ∧ nested.IsTidy ∧
    (∀ names error, ¬ ComesTo nested { ignore := ["**//**"] } f (Path.ofText "/") names
      (.failed error)) ∧
    HasFile nested false (Path.ofText "/") nested [Path.ofText "a", Path.ofText "b.ts"] 0 ∧
    f.isSource (Path.ofText "a/b.ts") = true ∧
    scan nested { ignore := ["**//**"] } (Path.ofText "/") = .ok [] := by
  obtain ⟨f, hf, hsource, henters⟩ : ∃ f, FileFilter.ofConfig { ignore := ["**//**"] } = .ok f ∧
      f.isSource (Path.ofText "a/b.ts") = true ∧ f.entersFolder (Path.ofText "a") = false :=
    exists_ofConfig (by decide +kernel)
  refine ⟨f, hf, node_nested, isTidy_nested, not_comesTo_failed rfl, hasFile_nested false,
    hsource, ?_⟩
  obtain ⟨real, -, -, hseen⟩ := survey_of_node node_nested false
  rw [scan, bind_eq_ok_iff]
  exact ⟨f, hf, list_of_not_entersFolder hseen henters⟩

end Nested

end ImportCensus.Discovery
