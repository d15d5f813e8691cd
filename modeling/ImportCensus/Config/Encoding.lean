import ImportCensus.Config.Basic
import ImportCensus.Toml.Reader
import ImportCensus.Toml.Writer
/-!
# Configurations as TOML

A configuration file has a table `scan` and a table `output`.  Keys that it does not know are
passed over, and settings that it does not give keep their defaults.  Either table may also be a
list that gives its settings in order.
-/

namespace ImportCensus.Config

open Toml

def asText : Value → Except Fault Text
  | .string text => .ok text
  | _ => .error (.wrongType "a string")

def asBool : Value → Except Fault Bool
  | .boolean b => .ok b
  | _ => .error (.wrongType "a boolean")

def asTexts : Value → Except Fault (List Text)
  | .array items => items.mapM asText
  | _ => .error (.wrongType "a list of strings")

def asNat : Value → Except Fault Nat
  | .integer (.ofNat n) => .ok n
  | _ => .error (.wrongType "a number that is not negative")

def setting {α : Type} (read : Value → Except Fault α) (default : α) :
    Option Value → Except Fault α
  | some v => read v
  | none => .ok default

/-- The setting of a name in a table, or of a position in a list. -/
def field? (v : Value) (key : Text) (position : Nat) : Option Value :=
  match v with
  | .table entries => entries.lookup key
  | .array items => items[position]?
  | _ => none

/-- Refuses what is neither a table nor a list.  A time counts as a table without settings. -/
def asSection (v : Value) : Except Fault Unit :=
  match v with
  | .table _ => .ok ()
  | .array _ => .ok ()
  | .time _ => .ok ()
  | _ => .error (.wrongType "a table")

def decodeScan (v : Value) : Except Fault ScanConfig := do
  asSection v
  let base : ScanConfig := {}
  .ok
    { pattern := ← setting asText base.pattern (field? v "pattern" 0)
      ignore := ← setting asTexts base.ignore (field? v "ignore" 1)
      caseInsensitive := ← setting asBool base.caseInsensitive (field? v "case_insensitive" 2)
      followLinks := ← setting asBool base.followLinks (field? v "follow_links" 3)
      maxDepth := ← setting (fun v => (asNat v).map some) base.maxDepth (field? v "max_depth" 4) }

def decodeOutput (v : Value) : Except Fault OutputConfig := do
  asSection v
  let base : OutputConfig := {}
  .ok
    { color := ← setting asBool base.color (field? v "color" 0)
      showTime := ← setting asBool base.showTime (field? v "show_time" 1) }

def decode (entries : List (Text × Value)) : Except Fault Config := do
  .ok
    { scan := ← setting decodeScan {} (entries.lookup "scan".toList)
      output := ← setting decodeOutput {} (entries.lookup "output".toList) }

def ofToml (text : Text) : Except Fault Config := do
  decode (← Toml.parse text)

def writeDepth : Option Nat → Text
  | some n => "max_depth = " ++ Text.ofNat n ++ "\n"
  | none => []

def writeScan (c : ScanConfig) : Text :=
  "[scan]\n" ++
    "pattern = " ++ writeString c.pattern ++ "\n" ++
    "ignore = " ++ writeStrings c.ignore ++ "\n" ++
    "case_insensitive = " ++ writeBoolean c.caseInsensitive ++ "\n" ++
    "follow_links = " ++ writeBoolean c.followLinks ++ "\n" ++
    writeDepth c.maxDepth

def writeOutput (c : OutputConfig) : Text :=
  "[output]\n" ++
    "color = " ++ writeBoolean c.color ++ "\n" ++
    "show_time = " ++ writeBoolean c.showTime ++ "\n"

def isWritable (c : Config) : Bool :=
  match c.scan.maxDepth with
  | some n => n < Nat.pow 2 63
  | none => true

/-- The text of a file that holds the configuration; none when a number is too large for one. -/
def toToml? (c : Config) : Option Text :=
  if isWritable c then some (writeScan c.scan ++ "\n" ++ writeOutput c.output) else none

end ImportCensus.Config
