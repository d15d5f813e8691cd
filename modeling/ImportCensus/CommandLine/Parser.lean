import ImportCensus.CommandLine.Arguments
/-!
# Reading command lines

The arguments are read one by one.  A switch that waits for its value takes the next argument
unless that is a switch; it takes effect when the next switch or the end is reached.  After a
lone `--` every argument is a plain one.
-/

namespace ImportCensus.CommandLine

structure ParseState where
  arguments : Arguments := {}
  /-- A switch that has not taken effect yet, and the value that it has got. -/
  pending : Option (Switch × Option Text) := none
  /-- Whether a lone `--` was read. -/
  trailing : Bool := false
  /-- Whether a plain argument was read. -/
  hasDir : Bool := false
  /-- Whether verbosity was asked for after quietness. -/
  verboseLast : Bool := false

def maxVerbose : Nat := 255

namespace ParseState

def once (switch : Switch) (old : Bool) (s : ParseState) : Except Stop ParseState :=
  if old then .error (.usage (.repeated switch)) else .ok s

def nonEmpty (switch : Switch) (value : Text) (s : ParseState) : Except Stop ParseState :=
  if value.isEmpty then .error (.usage (.missingValue switch)) else .ok s

def setValue (s : ParseState) (switch : Switch) (value : Text) : Except Stop ParseState :=
  let a := s.arguments
  match switch with
  | .dir => nonEmpty switch value { s with arguments := { a with dir := some value } }
  | .packageName =>
    once switch a.packageName.isSome { s with arguments := { a with packageName := some value } }
  | .glob => once switch a.glob.isSome { s with arguments := { a with glob := some value } }
  | .config => do
    let s ← once switch a.config.isSome { s with arguments := { a with config := some value } }
    nonEmpty switch value s
  | .exclude =>
    let globs := a.exclude.getD [] ++ Text.splitOn ',' value
    .ok { s with arguments := { a with exclude := some globs } }
  | .outputFormat => do
    let s ← once switch a.outputFormat.isSome s
    let s ← nonEmpty switch value s
    match OutputFormat.ofName? value with
    | some f => .ok { s with arguments := { a with outputFormat := some f } }
    | none => .error (.usage (.invalidValue value switch))
  | _ => .error (.usage (.unexpectedValue value switch))

def setFlag (s : ParseState) (switch : Switch) (long : Bool) : Except Stop ParseState :=
  let a := s.arguments
  match switch with
  | .node => once switch a.node { s with arguments := { a with node := true } }
  | .time => once switch a.time { s with arguments := { a with time := true } }
  | .noColor => once switch a.noColor { s with arguments := { a with noColor := true } }
  | .quiet =>
    once switch a.quiet { s with arguments := { a with quiet := true }, verboseLast := false }
  | .generateConfig =>
    once switch a.generateConfig { s with arguments := { a with generateConfig := true } }
  | .verbose =>
    .ok { s with
      arguments := { a with verbose := min (a.verbose + 1) maxVerbose }, verboseLast := true }
  | .help => .error (.help long)
  | .version => .error .version
  | _ => .error (.usage (.missingValue switch))

def settle (s : ParseState) : Except Stop ParseState :=
  match s.pending with
  | none => .ok s
  | some (switch, some value) => { s with pending := none }.setValue switch value
  | some (switch, none) => .error (.usage (.missingValue switch))

/-- A switch with its value takes effect, after the one that waits. -/
def giveValue (s : ParseState) (switch : Switch) (value : Text) : Except Stop ParseState := do
  (← s.settle).setValue switch value

def giveFlag (s : ParseState) (switch : Switch) (long : Bool) : Except Stop ParseState := do
  (← s.settle).setFlag switch long

def await (s : ParseState) (switch : Switch) : Except Stop ParseState := do
  .ok { ← s.settle with pending := some (switch, none) }

def splitLong (body : Text) : Text × Option Text :=
  match body.dropWhile (· != '=') with
  | _ :: value => (body.takeWhile (· != '='), some value)
  | [] => (body, none)

def readLong (s : ParseState) (body : Text) : Except Stop ParseState :=
  let (name, value) := splitLong body
  match Switch.ofLong? name with
  | none => .error (.usage (.unexpectedArgument ('-' :: '-' :: name)))
  | some switch =>
    match value with
    | some value =>
      if switch.takesValue then s.giveValue switch value
      else .error (.usage (.unexpectedValue value switch))
    | none => if switch.takesValue then s.await switch else s.giveFlag switch true

/-- Reads the letters behind one dash: flags, up to a switch that takes the rest as its value. -/
def readShort (s : ParseState) : Text → Except Stop ParseState
  | [] => .ok s
  | c :: rest =>
    match Switch.ofShort? c with
    | none => .error (.usage (.unexpectedArgument ['-', c]))
    | some switch =>
      if switch.takesValue then
        match rest with
        | [] => s.await switch
        | '=' :: value => s.giveValue switch value
        | value => s.giveValue switch value
      else do
        (← s.giveFlag switch false).readShort rest

def readPlain (s : ParseState) (argument : Text) : Except Stop ParseState :=
  if s.hasDir then .error (.usage (.unexpectedArgument argument))
  else do
    .ok { ← s.settle with pending := some (.dir, some argument), hasDir := true }

def readWord (s : ParseState) (argument : Text) : Except Stop ParseState :=
  match s.pending with
  | some (switch, none) => .ok { s with pending := some (switch, some argument) }
  | _ => s.readPlain argument

def read (s : ParseState) (argument : Text) : Except Stop ParseState :=
  if s.trailing then s.readPlain argument
  else
    match argument with
    | ['-', '-'] => .ok { s with trailing := true }
    | '-' :: '-' :: body => s.readLong body
    | '-' :: c :: rest => s.readShort (c :: rest)
    | _ => s.readWord argument

/-- What was said, once the last switch has taken effect; quietness and verbosity exclude each
other, and the one said first is named first. -/
def finish (s : ParseState) : Except Stop Arguments := do
  let s ← s.settle
  let a := s.arguments
  if a.quiet && 0 < a.verbose then
    if s.verboseLast then .error (.usage (.conflict .quiet .verbose))
    else .error (.usage (.conflict .verbose .quiet))
  else .ok a

end ParseState

def parse (arguments : List Text) : Except Stop Arguments := do
  (← arguments.foldlM ParseState.read {}).finish

end ImportCensus.CommandLine
