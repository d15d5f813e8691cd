import ImportCensus.Text.Lowercase
import ImportCensus.Text.Utf8
/-!
# Paths

A path is a byte string; its components stand between slashes.  Names and paths need not be
UTF-8, so they are shown with replacement characters.
-/

namespace ImportCensus

abbrev Name := List UInt8

abbrev Path := List UInt8

namespace Path

def slash : UInt8 := 0x2F

def here : Name := [0x2E]

def above : Name := [0x2E, 0x2E]

def isAbsolute (path : Path) : Bool :=
  path.head? == some slash

def endsWithSlash (path : Path) : Bool :=
  path.getLast? == some slash

/-- The path `path` as seen from `base`: an absolute path stands for itself. -/
def join (base path : Path) : Path :=
  if isAbsolute path then path
  else if base.isEmpty || endsWithSlash base then base ++ path
  else base ++ slash :: path

def ofNames (names : List Name) : Path :=
  [slash].intercalate names

def components (path : Path) : List Name :=
  (Text.splitOn slash path).filter (!·.isEmpty)

/-- The component behind a slash at the end of a path: it has no name and asks for a directory. -/
def nothing : Name := []

def steps (path : Path) : List Name :=
  if endsWithSlash path then components path ++ [nothing] else components path

def fileName? (path : Path) : Option Name :=
  match ((components path).filter (· != here)).getLast? with
  | some name => if name = above then none else some name
  | none => none

/-- The part of a name after its last dot; a dot that begins the name does not count. -/
def extensionOf? (name : Name) : Option Name :=
  match Text.splitOn 0x2E name.reverse with
  | _ :: [] => none
  | after :: before => if before = [[]] then none else some after.reverse
  | [] => none

def extension? (path : Path) : Option Name :=
  (fileName? path).bind extensionOf?

def display (path : Path) : Text :=
  Text.decodeLossy path

def ofText (text : Text) : Path :=
  Text.utf8 text

end Path

end ImportCensus
