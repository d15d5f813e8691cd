import ImportCensus.Program
import Std.Time
/-!
# Running the program

The outer layer: it takes a picture of the part of the file system that a command line is about,
lets the program work on that picture, and prints what it says.
-/

namespace ImportCensus.Main

open CommandLine

/-- What of a folder is looked at: which folders in it are entered and which files are read, by
their paths relative to it, and whether links are followed. -/
structure Scope where
  enters : Path → Bool
  reads : Path → Bool
  follow : Bool

def Scope.all (follow : Bool) : Scope where
  enters := fun _ => true
  reads := fun _ => true
  follow := follow

/-- The scope of a scan.  A link may lead to any place, so where links are followed everything
is looked at. -/
def Scope.ofScan (f : Discovery.FileFilter) (follow : Bool) : Scope :=
  if follow then Scope.all true
  else { enters := f.entersFolder, reads := f.isSource, follow := false }

def pathString (path : Path) : String :=
  String.ofList (Path.display path)

def pathOf (s : String) : Path :=
  Path.ofText s.toList

def entryOf (names : List Name) : IO.FS.DirEntry where
  root := "/"
  fileName := pathString (Path.ofNames names)

def entryKind? (entry : IO.FS.DirEntry) : IO (Option IO.FS.FileType) := do
  try return some (← entry.path.symlinkMetadata).type
  catch _ => return none

/-- The path that a link leads to; empty if it leads nowhere, in which case the system gives the
link itself. -/
def linkTarget (entry : IO.FS.DirEntry) : IO Path := do
  try
    let target ← IO.FS.realPath entry.path
    return if target == entry.path then [] else pathOf target.toString
  catch _ => return []

def fileNode (entry : IO.FS.DirEntry) : IO Node := do
  try return .file (← IO.FS.readBinFile entry.path).toList
  catch _ => return .sealed

/-- The entry as the system has it, and the targets of the links in it.  The names lead to it
from the folder of the scope. -/
partial def picture (s : Scope) (names : List Name) (entry : IO.FS.DirEntry) :
    IO (Node × List Path) := do
  match (← entry.path.symlinkMetadata).type with
  | .symlink =>
    let target ← linkTarget entry
    return (.link target, if s.follow then [target] else [])
  | .dir =>
    if names.isEmpty || s.enters (Path.ofNames names) then
      let parts ← (← entry.path.readDir).toList.mapM fun child => do
        let name := pathOf child.fileName
        let (node, links) ← picture s (names ++ [name]) child
        return ((name, node), links)
      return (.folder (parts.map (·.1)), parts.flatMap (·.2))
    else return (.empty, [])
  | _ =>
    if names.isEmpty || s.reads (Path.ofNames names) then return (← fileNode entry, [])
    else return (.file [], [])

structure Album where
  root : FileTree
  whole : List (List Name) := []

/-- Adds what a path leads to, with the folders and links on the way. -/
partial def addPath (s : Scope) (album : Album) (position : List Name) :
    List Name → IO (Album × List Path)
  | [] => do
    if album.whole.any (·.isPrefixOf position) then return (album, [])
    else
      let (node, links) ← picture s [] (entryOf position)
      return ({ root := album.root.insert position node, whole := position :: album.whole }, links)
  | name :: rest => do
    if name = Path.here then addPath s album position rest
    else if name = Path.above then addPath s album position.dropLast rest
    else
      let here := position ++ [name]
      match ← entryKind? (entryOf here) with
      | some .symlink =>
        let target ← linkTarget (entryOf here)
        let album := { album with root := album.root.insert here (.link target) }
        addPath s album [] (Path.components target ++ rest)
      | some .dir =>
        let known := (album.root.at? here).isSome
        let root := if known then album.root else album.root.insert here .empty
        addPath s { album with root := root } here rest
      | some _ => if rest.isEmpty then addPath s album here rest else return (album, [])
      | none => return (album, [])

/-- Adds what some paths lead to, and what the links that are met there lead to. -/
partial def addPaths (s : Scope) (album : Album) : List Path → IO Album
  | [] => return album
  | path :: rest => do
    let (album, links) ← addPath s album [] (Path.components path)
    addPaths s album (rest ++ links)

def configPaths (dir : Path) (a : Arguments) : List Path :=
  match a.config with
  | some file => [Path.join dir (Path.ofText file)]
  | none => Config.defaultFiles.map (Path.join (Program.baseOf dir a))

def configTree (dir : Path) (a : Arguments) : IO FileTree := do
  let start : Album := { root := Node.empty.insert (Path.components dir) .empty }
  let album ← addPaths (Scope.all false) start (configPaths dir a)
  return album.root

def runTree (s : Surroundings) (a : Arguments) : IO FileTree := do
  match Program.setup s a with
  | .error _ => return s.root
  | .ok p =>
    match Discovery.FileFilter.ofConfig p.config.scan with
    | .error _ => return s.root
    | .ok f =>
      let follow := p.config.scan.followLinks
      let album ← addPaths (Scope.ofScan f follow) { root := s.root } [p.base]
      let album ← addPaths (Scope.all false) { album with whole := [] } (configPaths s.dir a)
      return album.root

def hasColors : IO Bool := do
  let isTerminal ← (← IO.getStdout).isTty
  let noColor ← IO.getEnv "NO_COLOR"
  let terminal ← IO.getEnv "TERM"
  return isTerminal && noColor.isNone && terminal.isSome && terminal != some "dumb"

def timeText : IO Text := do
  let now ← Std.Time.Timestamp.now
  let date := Std.Time.DateTime.ofTimestamp now Std.Time.TimeZone.ZoneRules.UTC
  return (date.format "uuuu-MM-dd'T'HH:mm:ss.SSSSSSSSSxxx").toList

def treeOf (s : Surroundings) (arguments : List Text) : IO FileTree := do
  match parse arguments with
  | .error _ => return s.root
  | .ok a =>
    let root ← configTree s.dir a
    if a.generateConfig then return root else runTree { s with root := root } a

def writeBack (s : Surroundings) (arguments : List Text) (effect : Effect) : IO Unit := do
  if let .ok a := parse arguments then
    let file := Path.join s.dir (Path.ofText (Program.newConfigFile s a))
    if a.generateConfig && effect.exitCode = 0 then
      if let .ok content := FileTree.bytesAt effect.root file then
        IO.FS.writeBinFile (pathString file) ⟨content.toArray⟩

def execute (arguments : List Text) : IO UInt32 := do
  let start ← IO.monoNanosNow
  let bare : Surroundings :=
    { root := .empty
      dir := pathOf (← IO.currentDir).toString
      logSetting := (← IO.getEnv "RUST_LOG").map String.toList
      colors := ← hasColors
      time := ← timeText }
  let s := { bare with root := ← treeOf bare arguments }
  let elapsed := Number.Duration.ofParts 0 ((← IO.monoNanosNow) - start)
  let effect := Program.run { s with elapsed := elapsed } arguments
  writeBack s arguments effect
  IO.print (String.ofList effect.stdout)
  IO.eprint (String.ofList effect.stderr)
  return effect.exitCode.toUInt32

end ImportCensus.Main

def main (args : List String) : IO UInt32 :=
  ImportCensus.Main.execute (args.map String.toList)
