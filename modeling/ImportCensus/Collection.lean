import ImportCensus.FileTree.Basic
import ImportCensus.ImportSet
import ImportCensus.Error
import ImportCensus.Statement.Scan
/-!
# Collecting imports

Every file of a list is read and its imports are put into one set.  A file that cannot be read
leaves an error and changes nothing else.
-/

namespace ImportCensus.Collection

open Statement

structure Report where
  imports : ImportSet := ImportSet.empty
  filesRead : Nat := 0
  /-- The errors of the files that could not be read, as the user sees them. -/
  errors : List Text := []

def Report.filesFailed (r : Report) : Nat :=
  r.errors.length

/-- What reading one file gives: its symbols, or why it could not be read. -/
abbrev Outcome := Except Error (List Text)

/-- The symbols of a file's bytes; ill-formed text is replaced, not refused. -/
def symbolsOf (package : PackageFilter) (content : List UInt8) : List Text :=
  Statement.imports package (Text.decodeLossy content)

def outcome (package : PackageFilter) (path : Path) : Except OsError (List UInt8) → Outcome
  | .ok content => .ok (symbolsOf package content)
  | .error cause => .error (.readFailed path cause)

def read (root : FileTree) (package : PackageFilter) (path : Path) : Outcome :=
  outcome package path (FileTree.bytesAt root path)

def Report.add (r : Report) : Outcome → Report
  | .ok symbols => { r with filesRead := r.filesRead + 1, imports := r.imports.extend symbols }
  | .error e => { r with errors := r.errors ++ [e.userMessage] }

def join (outcomes : List Outcome) : Report :=
  outcomes.foldl Report.add {}

def outcomes (root : FileTree) (package : PackageFilter) (base : Path) (paths : List Path) :
    List Outcome :=
  paths.map fun path => read root package (Path.join base path)

def collect (root : FileTree) (package : PackageFilter) (base : Path) (paths : List Path) :
    Report :=
  join (outcomes root package base paths)

end ImportCensus.Collection
