import ImportCensus.Discovery.FileFilter
import ImportCensus.FileTree.Survey
/-!
# Listing source files

The files below a folder that a scan reads, in the order of their relative paths.
-/

namespace ImportCensus.Discovery

structure SourceFile where
  /-- The path to read it by. -/
  source : Path
  /-- The names that lead to it from the root of the scan. -/
  names : List Name
  size : Nat
  deriving DecidableEq, Repr

namespace SourceFile

def relative (f : SourceFile) : Path :=
  Path.ofNames f.names

def extension (f : SourceFile) : Text :=
  Text.lower (((Path.extension? f.source).bind Text.decode?).getD [])

/-- The order of files: by their names, bytewise and from the first on. -/
def le (f g : SourceFile) : Bool :=
  f.names ≤ g.names

end SourceFile

def withinDepth (limit : Option Nat) (depth : Nat) : Bool :=
  match limit with
  | some n => depth ≤ n
  | none => true

mutual

/-- The files at an entry that are read; `names` leads to it and `shown` is its path. -/
def collectAt (f : FileFilter) (limit : Option Nat) (names : List Name) (shown : Path) :
    Sight → Except WalkError (List SourceFile)
  | .file size => .ok (if f.isSource (Path.ofNames names) then [⟨shown, names, size⟩] else [])
  | .folder entries =>
    if f.entersFolder (Path.ofNames names) then collectIn f limit names shown entries else .ok []
  | .passed => .ok []
  | .failed error => .error error

def collectIn (f : FileFilter) (limit : Option Nat) (names : List Name) (shown : Path) :
    List (Name × Sight) → Except WalkError (List SourceFile)
  | [] => .ok []
  | (name, sight) :: rest =>
    if withinDepth limit (names.length + 1) then do
      let here ← collectAt f limit (names ++ [name]) (Path.join shown name) sight
      let others ← collectIn f limit names shown rest
      .ok (here ++ others)
    else .ok []

end

def list (root : FileTree) (c : ScanConfig) (f : FileFilter) (path : Path) :
    Except Error (List SourceFile) := do
  let entries ← FileTree.survey root c.followLinks path
  match collectIn f c.maxDepth [] path entries with
  | .ok files => .ok (files.mergeSort SourceFile.le)
  | .error cause => .error (.discovery cause)

def scan [Glob.Capacity] (root : FileTree) (c : ScanConfig) (path : Path) :
    Except Error (List SourceFile) := do
  list root c (← FileFilter.ofConfig c) path

end ImportCensus.Discovery
