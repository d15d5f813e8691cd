import ImportCensus.Error
import ImportCensus.Log.Event
/-!
# Which paths count

The globs of a scan decide about paths relative to its root: which files are read, and which
folders need not be entered because everything in them is left out anyway.
-/

namespace ImportCensus.Discovery

structure FileFilter where
  /-- The glob of the files to read. -/
  wanted : GlobSet
  /-- The globs of the paths to leave out. -/
  ignored : GlobSet
  /-- The globs of the folders not to enter. -/
  pruned : GlobSet

namespace FileFilter

def compileGlob (fold : Bool) (text : Text) : Except Error Glob :=
  match Glob.compile fold text with
  | .ok glob => .ok glob
  | .error cause => .error (.invalidPattern text (.malformed cause))

def compileGlobs (fold : Bool) (texts : List Text) : Except Error (List Glob) :=
  texts.mapM (compileGlob fold)

def belowFolder : Text := ['/', '*', '*']

/-- The glob of the folders whose whole content a glob leaves out. -/
def folderGlob? (text : Text) : Option Text :=
  (Text.stripTail? belowFolder text).filter (!·.isEmpty)

def folderGlobs (c : ScanConfig) : List Text :=
  c.ignore.filterMap folderGlob?

def globEvent? (g : Glob) : Option Log.Event :=
  if g.strategy = .expression then
    some (.globConverted g.text (Glob.expression g.fold g.tokens))
  else none

def setEvents (globs : List Glob) : List Log.Event :=
  match globs with
  | [] => []
  | _ => globs.filterMap globEvent? ++ [.globSetBuilt (GlobSet.summary globs)]

section Building

variable [Glob.Capacity]

def joinGlobs (globs : List Glob) : Except Error GlobSet :=
  match GlobSet.ofGlobs globs with
  | .ok s => .ok s
  | .error cause => .error (.invalidPattern ((", " : Text).intercalate (globs.map (·.text))) cause)

def compileSet (fold : Bool) (texts : List Text) : Except Error GlobSet := do
  joinGlobs (← compileGlobs fold texts)

/-- Compiles the globs of a scan: the wanted one, then those to leave out, then what these say
about folders. -/
def ofConfig (c : ScanConfig) : Except Error FileFilter := do
  let wanted ← compileSet c.caseInsensitive [c.pattern]
  let ignored ← compileSet c.caseInsensitive c.ignore
  let pruned ← compileSet c.caseInsensitive (folderGlobs c)
  .ok ⟨wanted, ignored, pruned⟩

/-- The globs that are put together one list after another, up to the first list that makes no
set. -/
def joined (fold : Bool) : List (List Text) → List (List Glob)
  | [] => []
  | texts :: rest =>
    match compileGlobs fold texts with
    | .error _ => []
    | .ok globs => globs :: if (joinGlobs globs).toBool then joined fold rest else []

def events (c : ScanConfig) : List Log.Event :=
  (joined c.caseInsensitive [[c.pattern], c.ignore, folderGlobs c]).flatMap setEvents

end Building

def isIgnored (f : FileFilter) (path : Path) : Bool :=
  f.ignored.isMatch path

def isSource (f : FileFilter) (path : Path) : Bool :=
  f.wanted.isMatch path && !f.isIgnored path

def entersFolder (f : FileFilter) (path : Path) : Bool :=
  !f.pruned.isMatch path

end FileFilter

end ImportCensus.Discovery
