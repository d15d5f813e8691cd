import ImportCensus.Path
/-!
# File trees

A tree of named entries: files with their bytes, folders, and links that name another path.
Paths are resolved the usual way: component by component from the root, links replaced by what
they name.
-/

namespace ImportCensus

inductive OsError
  | notFound
  | inputOutput
  | notAFolder
  | isAFolder
  | nameTooLong
  | tooManyLinks
  | nulInPath
  | illFormedText
  | other (message : Text)
  deriving DecidableEq, Repr

def OsError.message : OsError → Text
  | notFound => "No such file or directory (os error 2)"
  | inputOutput => "Input/output error (os error 5)"
  | notAFolder => "Not a directory (os error 20)"
  | isAFolder => "Is a directory (os error 21)"
  | nameTooLong => "File name too long (os error 36)"
  | tooManyLinks => "Too many levels of symbolic links (os error 40)"
  | nulInPath => "file name contained an unexpected NUL byte"
  | illFormedText => "stream did not contain valid UTF-8"
  | other message => message

inductive Node
  | file (content : List UInt8)
  /-- A file of zero bytes, told by its size. -/
  | blank (size : Nat)
  /-- A file that can be seen but not read. -/
  | sealed
  | folder (entries : List (Name × Node))
  | link (target : Path)

namespace Node

def empty : Node := .folder []

instance : Inhabited Node := ⟨empty⟩

def entries : Node → List (Name × Node)
  | folder es => es
  | _ => []

def isFolder : Node → Bool
  | folder _ => true
  | _ => false

/-- The entry below `node` at a path of names, links taken as they are. -/
def at? (node : Node) : List Name → Option Node
  | [] => some node
  | name :: rest =>
    match node.entries.lookup name with
    | some child => child.at? rest
    | none => none

/-- The entries with `name` standing for `node`: in place of an old one, or behind the others. -/
def replaceEntry (name : Name) (node : Node) : List (Name × Node) → List (Name × Node)
  | [] => [(name, node)]
  | (n, old) :: rest =>
    if n = name then (name, node) :: rest else (n, old) :: replaceEntry name node rest

/-- The tree with `leaf` at a path of names; folders on the way are made as needed. -/
def insert (node : Node) (path : List Name) (leaf : Node) : Node :=
  match path with
  | [] => leaf
  | name :: rest =>
    let child := (node.entries.lookup name).getD empty
    .folder (replaceEntry name (child.insert rest leaf) node.entries)

mutual

def folderCount : Node → Nat
  | .folder es => folderCountAll es + 1
  | _ => 0

def folderCountAll : List (Name × Node) → Nat
  | [] => 0
  | (_, node) :: rest => folderCount node + folderCountAll rest

end

end Node

abbrev FileTree := Node

namespace FileTree

def maxName : Nat := 255

def maxPath : Nat := 4096

/-- The number of links that one path may lead through. -/
def maxLinks : Nat := 40

/-- Where a path leads: to an entry, or to a free name in a folder. -/
inductive Place
  | found (path : List Name)
  | vacant (folder : List Name) (name : Name)
  deriving DecidableEq, Repr

inductive Purpose
  /-- An entry that is there. -/
  | finding
  /-- A file, made if it is not there. -/
  | writing
  deriving DecidableEq, Repr

/-- Walks from the folder at `position`, a path without links, along `rest`.  A slash behind the
last name asks for a folder: no file is written there, whatever the name stands for. -/
def walk (root : FileTree) (purpose : Purpose) (links : Nat) (position : List Name)
    (rest : List Name) : Except OsError Place :=
  match rest with
  | [] => .ok (.found position)
  | name :: rest =>
    match root.at? position with
    | some (.folder es) =>
      if name = Path.here || name = Path.nothing then walk root purpose links position rest
      else if name = Path.above then walk root purpose links position.dropLast rest
      else if purpose = .writing && rest = [Path.nothing] then .error .isAFolder
      else if maxName < name.length then .error .nameTooLong
      else
        match es.lookup name with
        | none => if rest.isEmpty then .ok (.vacant position name) else .error .notFound
        | some (.link target) =>
          match links with
          | 0 => .error .tooManyLinks
          | links + 1 =>
            let start := if Path.isAbsolute target then [] else position
            if target.isEmpty then .error .notFound
            else walk root purpose links start (Path.steps target ++ rest)
        | some _ => walk root purpose links (position ++ [name]) rest
    | some _ => .error .notAFolder
    | none => .error .notFound
  termination_by (links, rest.length)

def place (root : FileTree) (purpose : Purpose) (path : Path) : Except OsError Place :=
  if path.contains 0 then .error .nulInPath
  else if path.isEmpty then .error .notFound
  else if maxPath ≤ path.length then .error .nameTooLong
  else walk root purpose maxLinks [] (Path.steps path)

def resolve (root : FileTree) (path : Path) : Except OsError (List Name) := do
  match ← place root .finding path with
  | .found names => .ok names
  | .vacant .. => .error .notFound

def node (root : FileTree) (path : Path) : Except OsError Node := do
  match root.at? (← resolve root path) with
  | some node => .ok node
  | none => .error .notFound

def pathExists (root : FileTree) (path : Path) : Bool :=
  (node root path).toBool

def bytesAt (root : FileTree) (path : Path) : Except OsError (List UInt8) := do
  match ← node root path with
  | .file content => .ok content
  | .blank size => .ok (List.replicate size 0)
  | .folder _ => .error .isAFolder
  | .sealed => .error .inputOutput
  | .link _ => .error .tooManyLinks

def textAt (root : FileTree) (path : Path) : Except OsError Text := do
  match Text.decode? (← bytesAt root path) with
  | some text => .ok text
  | none => .error .illFormedText

/-- The tree after the file at a path has got new bytes; the file is made if it is not there. -/
def store (root : FileTree) (path : Path) (content : List UInt8) :
    Except OsError FileTree := do
  match ← place root .writing path with
  | .vacant folder name => .ok (root.insert (folder ++ [name]) (.file content))
  | .found names =>
    match root.at? names with
    | some (.folder _) => .error .isAFolder
    | some .sealed => .error .inputOutput
    | _ => .ok (root.insert names (.file content))

end FileTree

end ImportCensus
