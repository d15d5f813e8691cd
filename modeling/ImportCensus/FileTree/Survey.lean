import ImportCensus.Error
/-!
# What a walk meets

The entries below a folder as a walk comes upon them: files with their sizes, folders with what
is in them, and entries that it passes over or fails at.  Links are passed over, or followed; a
followed link to a folder that the walk is already in is a loop.
-/

namespace ImportCensus

inductive Sight
  | file (size : Nat)
  | folder (entries : List (Name × Sight))
  | passed
  | failed (error : WalkError)

/-- Where a walk is: the path it came by, the names from the root with links resolved, and the
folders around it, nearest first. -/
structure Position where
  shown : Path
  real : List Name
  around : List (List Name × Path) := []

def Position.child (p : Position) (name : Name) : Position where
  shown := Path.join p.shown name
  real := p.real ++ [name]
  around := (p.real, p.shown) :: p.around

mutual

/-- What a walk meets at a node, when `atLink` says what it meets at a link. -/
def Node.sight (atLink : Position → Sight) (p : Position) : Node → Sight
  | .file content => .file content.length
  | .blank size => .file size
  | .sealed => .file 0
  | .folder entries => .folder (sights atLink p entries)
  | .link _ => atLink p

def sights (atLink : Position → Sight) (p : Position) : List (Name × Node) → List (Name × Sight)
  | [] => []
  | (name, node) :: rest => (name, node.sight atLink (p.child name)) :: sights atLink p rest

end

namespace FileTree

/-- What a walk meets at a link that it follows.  It can enter no more folders by links than
there are, since a folder that it is already in is a loop. -/
def followed (root : FileTree) : Nat → Position → Sight
  | 0, p => .failed (.unreachable p.shown .tooManyLinks)
  | hops + 1, p =>
    match resolve root p.shown with
    | .error cause => .failed (.unreachable p.shown cause)
    | .ok real =>
      match root.at? real with
      | some (.folder entries) =>
        match p.around.lookup real with
        | some ancestor => .failed (.loop p.shown ancestor)
        | none => .folder (sights (followed root hops) { p with real := real } entries)
      | some (.file content) => .file content.length
      | some (.blank size) => .file size
      | some .sealed => .file 0
      | _ => .failed (.unreachable p.shown .notFound)

def linkRule (root : FileTree) (follow : Bool) : Position → Sight :=
  if follow then followed root (root.folderCount + 1) else fun _ => .passed

/-- What a walk meets below the folder of a path.  The folder itself may be reached by links. -/
def survey (root : FileTree) (follow : Bool) (path : Path) : Except Error (List (Name × Sight)) :=
  match resolve root path with
  | .error _ => .error (.missingFolder path)
  | .ok real =>
    match root.at? real with
    | some (.folder entries) => .ok (sights (linkRule root follow) ⟨path, real, []⟩ entries)
    | some _ => .error (.notAFolder path)
    | none => .error (.missingFolder path)

end FileTree

end ImportCensus
