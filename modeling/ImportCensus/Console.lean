import ImportCensus.Census
import ImportCensus.CommandLine.Arguments
import ImportCensus.Console.Style
import ImportCensus.Json
/-!
# The console

What a run prints: notes for the user beside the result, and the result itself.  Notes and
result are written for a reader at a terminal, as JSON lines, or as plain text.
-/

namespace ImportCensus

open CommandLine (OutputFormat)

structure Console where
  format : OutputFormat
  colored : Bool
  verbosity : Nat
  quiet : Bool
  deriving DecidableEq, Repr

inductive Severity
  | error
  | warning
  | info
  deriving DecidableEq, Repr

namespace Severity

def key : Severity → Text
  | error => "error"
  | warning => "warning"
  | info => "info"

def label : Severity → Text
  | error => "ERROR: "
  | warning => "WARNING: "
  | info => "INFO: "

def mark : Severity → Text
  | error => "✗ "
  | warning => "! "
  | info => "i "

def emblem : Severity → Text
  | error => "❌ "
  | warning => "⚠️  "
  | info => "ℹ️  "

def styles : Severity → List Console.Style
  | error => [.red, .bold]
  | warning => [.yellow, .bold]
  | info => [.cyan]

end Severity

namespace Console

/-- The console of a run.  Only text for a reader has colours, and a quiet run is not verbose. -/
def make (format : OutputFormat) (colors : Bool) (verbosity : Nat) (quiet : Bool) : Console where
  format := format
  colored := colors && format == .human
  verbosity := if quiet then 0 else verbosity
  quiet := quiet

/-- Whether notes of a severity are printed: errors always, warnings unless the run is quiet,
and the rest only when the run is verbose. -/
def shows (c : Console) : Severity → Bool
  | .error => true
  | .warning => !c.quiet
  | .info => !c.quiet && 1 ≤ c.verbosity

def noteObject (time : Text) (severity : Severity) (message : Text) : Json.Value :=
  .object
    [("level", .text severity.key), ("message", .text message), ("timestamp", .text time),
      ("type", .text "message")]

def noteText (c : Console) (time : Text) (severity : Severity) (message : Text) : Text :=
  match c.format with
  | .human =>
    if c.colored then severity.emblem ++ paint severity.styles message
    else severity.mark ++ message
  | .json => Json.render (noteObject time severity message)
  | .plain => severity.label ++ message

def note (c : Console) (time : Text) (severity : Severity) (message : Text) : Text :=
  if c.shows severity then c.noteText time severity message ++ "\n" else []

def suggestionObject (message : Text) : Json.Value :=
  .object [("message", .text message), ("type", .text "suggestion")]

def suggestionText (c : Console) (message : Text) : Text :=
  match c.format with
  | .human =>
    if c.colored then Severity.info.emblem ++ paint Severity.info.styles ("Suggestion: " ++ message)
    else "Suggestion: " ++ message
  | .json => Json.render (suggestionObject message)
  | .plain => "SUGGESTION: " ++ message

/-- What is printed of an error: what went wrong, and what may be done about it. -/
def failure (c : Console) (time : Text) (e : Error) : Text :=
  c.note time .error e.userMessage ++
    match e.suggestion? with
    | some message => c.suggestionText message ++ "\n"
    | none => []

/-- The bound of the numbers that a duration in milliseconds is cut to. -/
def millisBound : Nat := Nat.pow 2 64

def resultObject (census : Census) (elapsed : Number.Duration) : Json.Value :=
  .object
    [("duration_ms", .number (elapsed.millis % millisBound)),
      ("files_failed", .number census.filesFailed),
      ("files_scanned", .number census.filesScanned),
      ("imports", .list (census.imports.members.map Json.Value.text))]

def result (c : Console) (census : Census) (elapsed : Number.Duration) : Text :=
  match c.format with
  | .human =>
    if c.colored then paint [.cyan] census.imports.render else census.imports.render
  | .json => Json.render (resultObject census elapsed)
  | .plain => census.imports.render

/-- What is printed of the time that a run took.  As JSON the result tells it. -/
def elapsed (c : Console) (d : Number.Duration) : Text :=
  match c.format with
  | .human =>
    (if c.colored then paint [.green] "time" else "time") ++ ": " ++ d.text ++ "\n"
  | .json => []
  | .plain => "time: " ++ d.text ++ "\n"

end Console

end ImportCensus
