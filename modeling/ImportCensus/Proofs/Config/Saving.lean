import ImportCensus.Config.File
import ImportCensus.Proofs.FileTree.Store
import ImportCensus.Proofs.Toml.Statements
/-!
# Configurations that have been saved

A configuration that was saved is the one that is loaded from the file.  Where a file can be
written, every configuration is saved but one whose depth limit has more than 63 bits; that one
leaves the tree as it was.
-/

namespace ImportCensus.Config

open Toml

variable {rest : Text} {statements : List Statement}

/-! ## Tables of a configuration -/

def depthEntries : Option Nat → List (Text × Value)
  | some n => [("max_depth".toList, .integer n)]
  | none => []

def scanTable (c : ScanConfig) : List (Text × Value) :=
  ("pattern".toList, .string c.pattern) ::
    ("ignore".toList, .array (c.ignore.map .string)) ::
    ("case_insensitive".toList, .boolean c.caseInsensitive) ::
    ("follow_links".toList, .boolean c.followLinks) :: depthEntries c.maxDepth

def outputTable (c : OutputConfig) : List (Text × Value) :=
  [("color".toList, .boolean c.color), ("show_time".toList, .boolean c.showTime)]

def tables (c : Config) : List (Text × Value) :=
  [("scan".toList, .table (scanTable c.scan)), ("output".toList, .table (outputTable c.output))]

def tableStatements (name : Text) (entries : List (Text × Value)) : List Statement :=
  .header [name] :: entries.map fun (key, v) => .assign [key] v

theorem ofStatements_tables (c : Config) :
    ofStatements (tableStatements "scan".toList (scanTable c.scan) ++
      tableStatements "output".toList (outputTable c.output)) = .ok (tables c) := by
  obtain ⟨⟨pattern, ignore, caseInsensitive, followLinks, maxDepth⟩, output⟩ := c
  cases maxDepth <;> rfl

theorem decodeScan_scanTable (c : ScanConfig) : decodeScan (.table (scanTable c)) = .ok c := by
  have hignore : (c.ignore.map Value.string).mapM asText = .ok c.ignore := by
    rw [mapM_eq_ok_iff, List.forall₂_map_left_iff]
    exact List.forall₂_same.mpr fun _ _ => rfl
  refine bind_eq_ok_iff.mpr ⟨(), rfl, ?_⟩
  refine bind_eq_ok_iff.mpr ⟨c.pattern, rfl, ?_⟩
  refine bind_eq_ok_iff.mpr ⟨c.ignore, hignore, ?_⟩
  refine bind_eq_ok_iff.mpr ⟨c.caseInsensitive, rfl, ?_⟩
  refine bind_eq_ok_iff.mpr ⟨c.followLinks, rfl, ?_⟩
  refine bind_eq_ok_iff.mpr ⟨c.maxDepth, ?_, rfl⟩
  obtain ⟨pattern, ignore, caseInsensitive, followLinks, maxDepth⟩ := c
  cases maxDepth <;> rfl

theorem decode_tables (c : Config) : decode (tables c) = .ok c := by
  refine bind_eq_ok_iff.mpr ⟨c.scan, decodeScan_scanTable c.scan, ?_⟩
  exact bind_eq_ok_iff.mpr ⟨c.output, rfl, rfl⟩

/-! ## Written configurations -/

theorem isReadAs_writeOutput (c : OutputConfig) :
    IsReadAs (writeOutput c) (tableStatements "output".toList (outputTable c)) := by
  have hlines :=
    ((isReadAs_nil.assign "show_time".toList (by decide)
      (isWritten_writeBoolean c.showTime)).assign "color".toList (by decide)
      (isWritten_writeBoolean c.color)).header "output".toList (by decide)
  unfold writeOutput
  simpa [tableStatements, outputTable] using hlines

theorem isWritable_iff (c : Config) :
    isWritable c = true ↔ ∀ n, c.scan.maxDepth = some n → n < Nat.pow 2 63 := by
  rw [isWritable]
  cases c.scan.maxDepth with
  | none => simp
  | some n => simp

theorem isReadAs_writeDepth {depth : Option Nat} (hdepth : ∀ n, depth = some n → n < Nat.pow 2 63)
    (h : IsReadAs rest statements) :
    IsReadAs (writeDepth depth ++ rest)
      ((depthEntries depth).map (fun (key, v) => .assign [key] v) ++ statements) := by
  cases depth with
  | none => exact h
  | some n =>
    have hline := h.assign "max_depth".toList (by decide) (isWritten_ofNat (hdepth n rfl))
    unfold writeDepth
    simpa [depthEntries] using hline

theorem isReadAs_writeScan {c : ScanConfig} (hdepth : ∀ n, c.maxDepth = some n → n < Nat.pow 2 63)
    (h : IsReadAs rest statements) :
    IsReadAs (writeScan c ++ rest) (tableStatements "scan".toList (scanTable c) ++ statements) := by
  have hlines :=
    (((((isReadAs_writeDepth hdepth h).assign "follow_links".toList (by decide)
      (isWritten_writeBoolean c.followLinks)).assign "case_insensitive".toList (by decide)
      (isWritten_writeBoolean c.caseInsensitive)).assign "ignore".toList (by decide)
      (isWritten_writeStrings c.ignore)).assign "pattern".toList (by decide)
      (isWritten_writeString c.pattern)).header "scan".toList (by decide)
  unfold writeScan
  simpa [tableStatements, scanTable] using hlines

/-- A configuration is read back from its text. -/
theorem exists_toToml? {c : Config} (h : isWritable c = true) :
    ∃ text, toToml? c = some text ∧ ofToml text = .ok c := by
  have hdepth := (isWritable_iff c).mp h
  have hread := isReadAs_writeScan hdepth (isReadAs_writeOutput c.output).emptyLine
  have hparse := hread.parse (by unfold writeScan; simp)
  rw [ofStatements_tables] at hparse
  refine ⟨writeScan c.scan ++ '\n' :: writeOutput c.output, ?_, ?_⟩
  · rw [toToml?, if_pos h, List.append_assoc]
    rfl
  · exact bind_eq_ok_iff.mpr ⟨_, hparse, decode_tables c⟩

/-! ## Saving and loading -/

/-- The tree after a configuration was saved, or after that failed. -/
def treeAfter (root : FileTree) (dir path : Path) (c : Config) : FileTree :=
  match save root dir path c with
  | .ok saved => saved
  | .error _ => root

/-- A configuration whose depth limit, if it has one, has 63 bits is saved wherever a file can be
written, and the same configuration is loaded from there.  With another limit it is not saved, and
the tree stays as it was. -/
theorem ofFile_save (root : FileTree) (dir path : Path) (c : Config)
    (hpath : FileTree.IsWritable root (Path.join dir path)) :
    ((∀ n, c.scan.maxDepth = some n → n ≤ 2 ^ 63 - 1) →
      save root dir path c = .ok (treeAfter root dir path c) ∧
        ofFile (treeAfter root dir path c) dir path = .ok c) ∧
    ∀ n, c.scan.maxDepth = some n → 2 ^ 63 - 1 < n →
      save root dir path c = .error .depthTooLarge ∧ treeAfter root dir path c = root := by
  constructor
  · intro hdepth
    have hwritable : isWritable c = true := (isWritable_iff c).mpr fun n hn => by
      have hle := hdepth n hn
      exact Nat.lt_of_le_of_lt hle (by decide)
    obtain ⟨text, htext, hread⟩ := exists_toToml? hwritable
    obtain ⟨saved, hstore⟩ := hpath.exists_store (Text.utf8 text)
    have hsave : save root dir path c = .ok saved := by
      rw [save, htext]
      dsimp only
      rw [hstore]
    have hafter : treeAfter root dir path c = saved := by rw [treeAfter, hsave]
    rw [hafter]
    refine ⟨hsave, ?_⟩
    rw [ofFile, if_pos (FileTree.pathExists_of_store hstore), FileTree.textAt_of_store hstore]
    dsimp only
    rw [hread]
  · intro n hn hlarge
    have hnone : toToml? c = none := by
      rw [toToml?, if_neg]
      intro hwritable
      have hlt := (isWritable_iff c).mp hwritable n hn
      have hpow : Nat.pow 2 63 = 2 ^ 63 := rfl
      omega
    have hsave : save root dir path c = .error .depthTooLarge := by rw [save, hnone]
    exact ⟨hsave, by rw [treeAfter, hsave]⟩

/-! ## A file behind a link -/

section Linked

def linked : FileTree :=
  .folder [(Path.ofText "etc", .folder []), (Path.ofText "conf", .link (Path.ofText "etc"))]

def linkedFile : Path :=
  Path.ofText "/conf/census.toml"

theorem isWritable_linked : FileTree.IsWritable linked linkedFile := by
  have hsteps : Path.steps linkedFile = [Path.ofText "conf", Path.ofText "census.toml"] := by
    decide
  have hetc : Path.ofText "etc" = [101, 116, 99] := by decide
  have hconf : Path.ofText "conf" = [99, 111, 110, 102] := by decide
  have hfile : Path.ofText "census.toml" =
      [99, 101, 110, 115, 117, 115, 46, 116, 111, 109, 108] := by
    decide
  have hlink : Path.steps [101, 116, 99] = [[101, 116, 99]] := by decide
  have hwalk : FileTree.walk linked .writing FileTree.maxLinks [] (Path.steps linkedFile) =
      .ok (.vacant [Path.ofText "etc"] (Path.ofText "census.toml")) := by
    rw [hsteps, linked, hetc, hconf, hfile]
    simp [FileTree.walk, FileTree.maxLinks, FileTree.maxName, Node.at?, Node.entries, List.lookup_cons,
      Path.here, Path.nothing, Path.above, Path.isAbsolute, Path.slash, hlink]
  have hplace := FileTree.place_eq_ok_iff.mpr ⟨by decide, hwalk⟩
  exact ⟨[], _, bind_eq_ok_iff.mpr ⟨_, hplace, rfl⟩⟩

/-- A configuration with a pattern that only double quotes over several lines suit. -/
def awkward (depth : Nat) : Config :=
  { scan := { pattern := "'''\"\"\"\\\n\x07", ignore := ["", "\t"], maxDepth := some depth } }

/-- The largest depth limit is saved and loaded, the next one is refused. -/
theorem ofFile_save_linked :
    FileTree.IsWritable linked linkedFile ∧
      ofFile (treeAfter linked (Path.ofText "/") linkedFile (awkward (2 ^ 63 - 1)))
          (Path.ofText "/") linkedFile = .ok (awkward (2 ^ 63 - 1)) ∧
      save linked (Path.ofText "/") linkedFile (awkward (2 ^ 63)) = .error .depthTooLarge := by
  refine ⟨isWritable_linked, ?_, ?_⟩
  · refine ((ofFile_save linked (Path.ofText "/") linkedFile _ isWritable_linked).1 ?_).2
    rintro n ⟨⟩
    exact Nat.le_refl _
  · refine ((ofFile_save linked (Path.ofText "/") linkedFile _ isWritable_linked).2 _ rfl ?_).1
    decide

end Linked

end ImportCensus.Config
