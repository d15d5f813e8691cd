import ImportCensus.Config.Basic
import ImportCensus.Text.Terminal
/-!
# Command-line arguments

The switches of the program and what a command line says with them.
-/

namespace ImportCensus.CommandLine

inductive OutputFormat
  | human
  | json
  | plain
  deriving DecidableEq, Repr

def OutputFormat.ofName? (name : Text) : Option OutputFormat :=
  if name = "human".toList then some human
  else if name = "json".toList then some json
  else if name = "plain".toList then some plain
  else none

inductive Switch
  | dir
  | packageName
  | node
  | time
  | glob
  | exclude
  | config
  | outputFormat
  | noColor
  | verbose
  | quiet
  | generateConfig
  | help
  | version
  deriving DecidableEq, Repr

namespace Switch

def takesValue : Switch → Bool
  | dir | packageName | glob | exclude | config | outputFormat => true
  | _ => false

def label : Switch → Text
  | dir => "[DIR]"
  | packageName => "--package-name <NAME>"
  | node => "--node"
  | time => "--time"
  | glob => "--glob <PATTERN>"
  | exclude => "--exclude <GLOB>"
  | config => "--config <CONFIG>"
  | outputFormat => "--output-format <OUTPUT_FORMAT>"
  | noColor => "--no-color"
  | verbose => "--verbose..."
  | quiet => "--quiet"
  | generateConfig => "--generate-config"
  | help => "--help"
  | version => "--version"

def longNames : List (Text × Switch) :=
  [("package-name", packageName), ("packageName", packageName), ("node", node), ("time", time),
    ("glob", glob), ("exclude", exclude), ("config", config), ("output-format", outputFormat),
    ("no-color", noColor), ("verbose", verbose), ("quiet", quiet),
    ("generate-config", generateConfig), ("help", help), ("version", version)]

def ofLong? (name : Text) : Option Switch :=
  longNames.lookup name

def letters : List (Char × Switch) :=
  [('p', packageName), ('n', node), ('t', time), ('g', glob), ('e', exclude), ('c', config),
    ('v', verbose), ('q', quiet), ('h', help), ('V', version)]

def ofShort? (c : Char) : Option Switch :=
  letters.lookup c

def letter? (s : Switch) : Option Char :=
  (letters.find? fun (_, t) => t = s).map (·.1)

end Switch

structure Arguments where
  dir : Option Text := none
  packageName : Option Text := none
  node : Bool := false
  time : Bool := false
  glob : Option Text := none
  exclude : Option (List Text) := none
  config : Option Text := none
  outputFormat : Option OutputFormat := none
  noColor : Bool := false
  verbose : Nat := 0
  quiet : Bool := false
  generateConfig : Bool := false
  deriving DecidableEq, Repr

namespace Arguments

def format (a : Arguments) : OutputFormat :=
  a.outputFormat.getD .human

/-- The package filter; an empty one is none. -/
def packageFilter (a : Arguments) : Option Text :=
  a.packageName.filter (!·.isEmpty)

def verbosity (a : Arguments) : Nat :=
  if a.quiet then 0 else a.verbose

def overrides (a : Arguments) : Overrides where
  pattern := a.glob
  exclude := a.exclude
  excludeNodeModules := a.node
  color := if a.noColor then some false else none
  showTime := a.time

end Arguments

/-- Why a command line makes no sense. -/
inductive UsageError
  | unexpectedArgument (argument : Text)
  | unexpectedValue (value : Text) (switch : Switch)
  | missingValue (switch : Switch)
  | invalidValue (value : Text) (switch : Switch)
  | repeated (switch : Switch)
  | conflict (switch other : Switch)
  deriving DecidableEq, Repr

/-- The wording of a usage error.  What was typed is quoted without terminal controls. -/
def UsageError.message : UsageError → Text
  | unexpectedArgument argument =>
    "error: unexpected argument '" ++ Text.shown argument ++ "' found"
  | unexpectedValue value switch =>
    "error: unexpected value '" ++ Text.shown value ++ "' for '" ++ switch.label ++
      "' found; no more were expected"
  | missingValue switch =>
    "error: a value is required for '" ++ switch.label ++ "' but none was supplied"
  | invalidValue value switch =>
    "error: invalid value '" ++ Text.shown value ++ "' for '" ++ switch.label ++ "'"
  | repeated switch =>
    "error: the argument '" ++ switch.label ++ "' cannot be used multiple times"
  | conflict switch other =>
    "error: the argument '" ++ switch.label ++ "' cannot be used with '" ++ other.label ++ "'"

/-- Why a command line does not lead to a run. -/
inductive Stop
  /-- The help text was asked for, the long one or the short one. -/
  | help (long : Bool)
  | version
  | usage (error : UsageError)
  deriving DecidableEq, Repr

end ImportCensus.CommandLine
