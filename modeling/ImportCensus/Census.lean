import ImportCensus.Collection
import ImportCensus.Discovery.Statistics
import ImportCensus.Log.Event
import ImportCensus.Number.Duration
/-!
# The census of a folder

One run over a folder: the files to read are listed, each of them is read, and their imports are
counted.  Beside its result a run leaves a trail of log events.
-/

namespace ImportCensus

open Discovery Collection Log

structure Census where
  imports : ImportSet := ImportSet.empty
  filesScanned : Nat := 0
  filesFailed : Nat := 0
  /-- The errors of the files that could not be read, as the user sees them. -/
  errors : List Text := []

namespace Census

def outcomeEvent (file : Path) : Outcome → Event
  | .ok symbols => .extracted file symbols.length
  | .error e => .skipped file e.userMessage

def ofReport (files : Nat) (r : Report) : Census where
  imports := r.imports
  filesScanned := files
  filesFailed := r.filesFailed
  errors := r.errors

def finalEvent (c : Census) : Event :=
  .finished c.filesScanned c.filesFailed c.imports.size

def listingEvents (base : Path) (c : ScanConfig) (files : List SourceFile) : List Event :=
  [.discovered base c.pattern files.length, .summarized (Statistics.ofFiles files).summary]

def ofFiles (root : FileTree) (base : Path) (package : Statement.PackageFilter)
    (files : List SourceFile) : Census × List Event :=
  let paths := files.map SourceFile.relative
  let results := outcomes root package base paths
  let census := ofReport files.length (join results)
  (census, (paths.zip results).map (fun (p, o) => outcomeEvent p o) ++ [census.finalEvent])

/-- Takes the census of the folder `base`; only listing its files can fail. -/
def take [Glob.Capacity] (root : FileTree) (c : ScanConfig) (base : Path)
    (package : Statement.PackageFilter) : Except Error Census × List Event :=
  match scan root c base with
  | .error e => (.error e, FileFilter.events c)
  | .ok files =>
    let (census, events) := ofFiles root base package files
    (.ok census, FileFilter.events c ++ listingEvents base c files ++ events)

def warning? (c : Census) : Option Text :=
  if c.filesFailed = 0 then none
  else
    some (Text.ofNat c.filesFailed ++ " of " ++ Text.ofNat c.filesScanned ++
      " files could not be read")

end Census

end ImportCensus
