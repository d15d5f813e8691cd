import ImportCensus.Config.Basic
import ImportCensus.FileTree.Basic
import ImportCensus.Glob.Set
import ImportCensus.Toml.Value
/-!
# Errors

Everything that can stop a run or spoil a file, as causes; their wording for the log and for the
user; and the advice that goes with some of them.
-/

namespace ImportCensus

inductive ConfigError
  | missingFile (path : Path)
  | unreadableFile (path : Path) (cause : OsError)
  | malformedFile (path : Path) (cause : Toml.Fault)
  | unwritableFile (path : Path) (cause : OsError)
  | depthTooLarge
  | flaw (cause : ConfigFlaw)
  | other (message : Text)
  deriving DecidableEq, Repr

inductive WalkError
  | unreachable (path : Path) (cause : OsError)
  | loop (path ancestor : Path)
  | other (path : Path) (message : Text)
  deriving DecidableEq, Repr

inductive Error
  | io (cause : OsError)
  | missingFolder (path : Path)
  | notAFolder (path : Path)
  | discovery (cause : WalkError)
  | invalidPattern (pattern : Text) (cause : GlobSet.Fault)
  | config (cause : ConfigError)
  | readFailed (path : Path) (cause : OsError)
  | taskFailed (path : Path) (message : Text)
  deriving DecidableEq, Repr

def ConfigFlaw.message : ConfigFlaw → Text
  | emptyPattern => "The include pattern must not be empty"
  | zeroDepth => "Maximum directory depth must be greater than 0"
  | blankIgnore glob => "Ignore patterns must not be empty (got " ++ Text.quoted glob ++ ")"

def ConfigError.message : ConfigError → Text
  | missingFile path => "Configuration file not found: " ++ Path.display path
  | unreadableFile path cause =>
    "Failed to read config file " ++ Path.display path ++ ": " ++ cause.message
  | malformedFile path cause =>
    "Failed to parse config file " ++ Path.display path ++ ": " ++ cause.message
  | unwritableFile path cause =>
    "Failed to write config file " ++ Path.display path ++ ": " ++ cause.message
  | depthTooLarge => "Failed to serialize config: out-of-range value for u64 type"
  | .flaw cause => cause.message
  | other message => message

def WalkError.path : WalkError → Path
  | unreachable path _ => path
  | loop path _ => path
  | other path _ => path

def WalkError.message : WalkError → Text
  | unreachable path cause =>
    "IO error for operation on " ++ Path.display path ++ ": " ++ cause.message
  | loop path ancestor =>
    "File system loop found: " ++ Path.display path ++ " points to an ancestor " ++
      Path.display ancestor
  | other _ message => message

namespace Error

def message : Error → Text
  | io cause => "IO operation failed: " ++ cause.message
  | missingFolder path => "Path validation failed: " ++ Path.display path
  | notAFolder path => "Path validation failed: " ++ Path.display path ++ " is not a directory"
  | discovery cause =>
    "File discovery failed under " ++ Path.display cause.path ++ ": " ++ cause.message
  | invalidPattern pattern _ => "Invalid glob pattern: " ++ pattern
  | config cause => "Configuration error: " ++ cause.message
  | readFailed path _ => "Failed to read " ++ Path.display path
  | taskFailed path message =>
    "Extraction task failed for " ++ Path.display path ++ ": " ++ message

def userMessage : Error → Text
  | missingFolder path => "Invalid directory: " ++ Path.display path
  | notAFolder path => "Invalid directory: " ++ Path.display path ++ " is not a directory"
  | discovery cause =>
    "Could not list files under " ++ Path.display cause.path ++ ": " ++ cause.message
  | invalidPattern pattern cause =>
    "Invalid glob pattern '" ++ pattern ++ "': " ++ cause.message
  | readFailed path cause => "Could not read " ++ Path.display path ++ ": " ++ cause.message
  | e => e.message

def suggestion? : Error → Option Text
  | missingFolder _ | notAFolder _ =>
    some "Pass an existing directory, or run impseek from the root of your project.".toList
  | discovery _ =>
    some ("Check that you have read permission for every directory in the tree, " ++
      "or exclude the offending directory with --exclude.").toList
  | invalidPattern .. =>
    some "Use glob syntax such as **/*.\x7bts,tsx\x7d or **/generated/**.".toList
  | config _ =>
    some ("Check your configuration file syntax, " ++
      "or regenerate one with --generate-config.").toList
  | _ => none

end Error

end ImportCensus
