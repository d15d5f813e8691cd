import ImportCensus.Number.Dyadic
import ImportCensus.Path
import ImportCensus.Text.Quoted
/-!
# Log events

What a run notes about itself, and the line that each note makes.
-/

namespace ImportCensus.Log

inductive Level
  | error
  | warn
  | info
  | debug
  | trace
  deriving DecidableEq, Repr

/-- The rank of a level: higher is more talkative. -/
def Level.rank : Level → Nat
  | error => 1
  | warn => 2
  | info => 3
  | debug => 4
  | trace => 5

def Level.column : Level → Text
  | error => "ERROR"
  | warn => " WARN"
  | info => " INFO"
  | debug => "DEBUG"
  | trace => "TRACE"

inductive Event
  /-- A configuration file was found. -/
  | loadingConfig (path : Path)
  /-- A glob was put into a set as an expression. -/
  | globConverted (glob expression : Text)
  /-- A set of globs was built. -/
  | globSetBuilt (summary : Text)
  /-- The files below a root were listed. -/
  | discovered (root : Path) (pattern : Text) (files : Nat)
  /-- The listed files were counted. -/
  | summarized (summary : Text)
  /-- A file was read. -/
  | extracted (file : Path) (symbols : Nat)
  /-- A file could not be read. -/
  | skipped (file : Path) (error : Text)
  /-- All files were read. -/
  | finished (files failed imports : Nat)
  deriving DecidableEq, Repr

namespace Event

def level : Event → Level
  | skipped .. => .error
  | finished .. => .info
  | _ => .debug

def target : Event → Text
  | loadingConfig _ => "impseek::config"
  | globConverted .. => "globset"
  | globSetBuilt _ => "globset"
  | discovered .. => "impseek::scanner::source_scanner"
  | summarized _ => "impseek"
  | extracted .. => "impseek::extractor::aggregator"
  | skipped .. => "impseek::extractor::aggregator"
  | finished .. => "impseek"

def message : Event → Text
  | loadingConfig _ => "loading configuration"
  | globConverted glob expression =>
    "glob \x60Glob(" ++ Text.quoted glob ++ ")\x60 converted to regex: \x60" ++
      Text.quoted expression ++ "\x60"
  | globSetBuilt summary => "built glob set; " ++ summary
  | discovered .. => "discovery finished"
  | summarized summary => summary
  | extracted .. => "extracted imports"
  | skipped .. => "skipping file"
  | finished .. => "run finished"

def fields : Event → List (Text × Text)
  | loadingConfig path => [("path", Path.display path)]
  | globConverted .. => []
  | globSetBuilt _ => []
  | discovered root pattern files =>
    [("root", Path.display root), ("pattern", Text.quoted pattern), ("files", Text.ofNat files)]
  | summarized _ => []
  | extracted file symbols => [("file", Path.display file), ("symbols", Text.ofNat symbols)]
  | skipped file error => [("file", Path.display file), ("error", error)]
  | finished files failed imports =>
    [("files", Text.ofNat files), ("failed", Text.ofNat failed), ("imports", Text.ofNat imports)]

/-- The names of the values of an event that are not written. -/
def silentFields : Event → List Text
  | globConverted .. => ["log.target", "log.module_path", "log.file", "log.line"]
  | globSetBuilt _ => ["log.target", "log.module_path", "log.file", "log.line"]
  | _ => []

def hasField (e : Event) (name : Text) : Bool :=
  name == "message".toList || e.silentFields.contains name || e.fields.any fun (n, _) => n == name

def fieldText (field : Text × Text) : Text :=
  ' ' :: field.1 ++ '=' :: field.2

/-- A character of a message as it is written: what a terminal could take as a command is shown
by its number. -/
def guarded (c : Char) : Text :=
  if c = '\x1b' then "\\x1b"
  else if c = '\x07' then "\\x07"
  else if c = '\x08' then "\\x08"
  else if c = '\x0c' then "\\x0c"
  else if c = '\x7f' then "\\x7f"
  else if 0x80 ≤ c.toNat && c.toNat ≤ 0x9F then
    ['\\', 'u', '\x7b'] ++ Nat.toDigits 16 c.toNat ++ ['\x7d']
  else [c]

def line (e : Event) : Text :=
  e.level.column ++ ' ' :: e.message.flatMap guarded ++ e.fields.flatMap fieldText ++ ['\n']

end Event

end ImportCensus.Log
