import ImportCensus.Census
import ImportCensus.Proofs.Collection.Report
/-!
# What a census holds

A census is taken exactly when the files of the folder can be listed.  It has the symbols of
those files that can be read.
-/

namespace ImportCensus.Census

open Discovery Collection

variable {root : FileTree} {c : ScanConfig} {base : Path} {package : Statement.PackageFilter}
  {census : Census} {files : List SourceFile}

def ofPaths (root : FileTree) (base : Path) (package : Statement.PackageFilter)
    (files : List SourceFile) : Census :=
  ofReport files.length (collect root package base (files.map SourceFile.relative))

theorem take_of_scan [Glob.Capacity] (h : scan root c base = .ok files) :
    take root c base package =
      (.ok (ofPaths root base package files),
        FileFilter.events c ++ listingEvents base c files ++
          (ofFiles root base package files).2) := by
  rw [take, h]
  rfl

theorem take_of_not_scan [Glob.Capacity] {cause : Error} (h : scan root c base = .error cause) :
    take root c base package = (.error cause, FileFilter.events c) := by
  rw [take, h]

theorem take_eq_ok_iff [Glob.Capacity] :
    (take root c base package).1 = .ok census ↔
      ∃ files, scan root c base = .ok files ∧ census = ofPaths root base package files := by
  cases h : scan root c base with
  | error cause =>
    rw [take_of_not_scan h]
    constructor
    · intro h
      cases h
    · rintro ⟨_, h, -⟩
      cases h
  | ok files =>
    rw [take_of_scan h, Except.ok.injEq]
    constructor
    · rintro rfl
      exact ⟨files, rfl, rfl⟩
    · rintro ⟨_, h, rfl⟩
      cases h
      rfl

theorem mem_imports_ofPaths_iff {symbol : Text} :
    symbol ∈ (ofPaths root base package files).imports ↔
      ∃ file ∈ files, ∃ content,
        FileTree.bytesAt root (Path.join base file.relative) = .ok content ∧
          symbol ∈ symbolsOf package content := by
  rw [ofPaths, ofReport, mem_imports_collect_iff]
  simp only [List.mem_map, exists_exists_and_eq_and]

end ImportCensus.Census
