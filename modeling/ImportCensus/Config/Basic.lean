import ImportCensus.Text.Blank
/-!
# Configuration

What to look for, where not to look, and how to report it; how command-line settings change a
configuration; and which configurations make no sense.
-/

namespace ImportCensus

def defaultPattern : Text := "**/*.\x7bts,tsx\x7d"

def nodeModulesGlob : Text := "**/node_modules/**"

structure ScanConfig where
  /-- The glob of the files to read. -/
  pattern : Text := defaultPattern
  /-- The globs of the paths to leave out. -/
  ignore : List Text := ["**/.*/**", "**/target/**", "**/dist/**", nodeModulesGlob]
  /-- Whether globs ignore ASCII case. -/
  caseInsensitive : Bool := true
  followLinks : Bool := false
  /-- The number of levels below the root to look into. -/
  maxDepth : Option Nat := none
  deriving DecidableEq, Repr

structure OutputConfig where
  color : Bool := true
  showTime : Bool := false
  deriving DecidableEq, Repr

structure Config where
  scan : ScanConfig := {}
  output : OutputConfig := {}
  deriving DecidableEq, Repr

structure Overrides where
  pattern : Option Text := none
  exclude : Option (List Text) := none
  excludeNodeModules : Bool := false
  color : Option Bool := none
  showTime : Bool := false
  deriving DecidableEq, Repr

inductive ConfigFlaw
  | emptyPattern
  | zeroDepth
  | blankIgnore (glob : Text)
  deriving DecidableEq, Repr

namespace Config

/-- Adds a glob behind the others, unless it is there already. -/
def addIgnore (ignore : List Text) (glob : Text) : List Text :=
  if ignore.contains glob then ignore else ignore ++ [glob]

def mergeIgnore (ignore : List Text) (o : Overrides) : List Text :=
  let ignore := (o.exclude.getD []).foldl addIgnore ignore
  if o.excludeNodeModules then addIgnore ignore nodeModulesGlob else ignore

def merge (c : Config) (o : Overrides) : Config where
  scan := { c.scan with
    pattern := o.pattern.getD c.scan.pattern
    ignore := mergeIgnore c.scan.ignore o }
  output :=
    { color := o.color.getD c.output.color
      showTime := c.output.showTime || o.showTime }

/-- Looks for the first flaw: an empty pattern, then a depth of zero, then a blank glob. -/
def validate (c : Config) : Except ConfigFlaw Unit :=
  if Text.isAllWhite c.scan.pattern then .error .emptyPattern
  else if c.scan.maxDepth = some 0 then .error .zeroDepth
  else
    match c.scan.ignore.find? Text.isAllWhite with
    | some glob => .error (.blankIgnore glob)
    | none => .ok ()

end Config

end ImportCensus
