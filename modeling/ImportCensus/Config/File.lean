import ImportCensus.Config.Encoding
import ImportCensus.Error
import ImportCensus.Log.Event
/-!
# Configuration files

Where the configuration of a run comes from, and how files are read and written.  A file that is
asked for is the only one looked at; else the first default file of the scanned folder counts,
and without one the built-in settings do.
-/

namespace ImportCensus.Config

inductive Source
  /-- A file that was asked for. -/
  | explicit (path : Path)
  /-- A default file of the scanned folder. -/
  | found (path : Path)
  | builtIn
  deriving DecidableEq, Repr

/-- The names of the default files, the first one first. -/
def defaultFiles : List Name :=
  [Path.ofText "impseek.toml", Path.ofText ".impseek.toml"]

def source (root : FileTree) (asked : Option Path) (base : Path) : Source :=
  match asked with
  | some path => .explicit path
  | none =>
    match (defaultFiles.map (Path.join base)).find? (FileTree.pathExists root) with
    | some path => .found path
    | none => .builtIn

def Source.events : Source → List Log.Event
  | found path => [.loadingConfig path]
  | _ => []

def ofFile (root : FileTree) (dir path : Path) : Except ConfigError Config :=
  if FileTree.pathExists root (Path.join dir path) then
    match FileTree.textAt root (Path.join dir path) with
    | .error cause => .error (.unreadableFile path cause)
    | .ok text =>
      match ofToml text with
      | .error cause => .error (.malformedFile path cause)
      | .ok c => .ok c
  else .error (.missingFile path)

def load (root : FileTree) (dir : Path) : Source → Except ConfigError Config
  | .explicit path => ofFile root dir path
  | .found path => ofFile root dir path
  | .builtIn => .ok {}

def save (root : FileTree) (dir path : Path) (c : Config) : Except ConfigError FileTree :=
  match toToml? c with
  | none => .error .depthTooLarge
  | some text =>
    match FileTree.store root (Path.join dir path) (Text.utf8 text) with
    | .ok root => .ok root
    | .error cause => .error (.unwritableFile path cause)

def resolve (c : Config) (o : Overrides) : Except ConfigError Config :=
  let merged := c.merge o
  match merged.validate with
  | .ok () => .ok merged
  | .error cause => .error (.flaw cause)

end ImportCensus.Config
