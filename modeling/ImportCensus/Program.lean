import ImportCensus.CommandLine.Help
import ImportCensus.CommandLine.Parser
import ImportCensus.Config.File
import ImportCensus.Console
import ImportCensus.Log.Filter
/-!
# The program

What a command line does in its surroundings: the text on its two output channels, its exit code,
and the file tree that it leaves.  What is not under the program's control is part of the
surroundings, too: how a log setting is read, and which bytes an argument stands for that is no
Unicode text.
-/

namespace ImportCensus

open CommandLine

structure Surroundings where
  root : FileTree
  /-- The folder that relative paths start from. -/
  dir : Path
  /-- The path that an argument stands for.  An argument that is not Unicode goes by a text that is
  given to no other one. -/
  pathOf : Text → Path := Path.ofText
  /-- The log filter that is asked for, if any. -/
  logSetting : Option Text := none
  readLog : Text → Except Log.Failure Log.Filter := Log.Filter.parse
  /-- Whether the terminal has colours. -/
  colors : Bool := false
  /-- The time of the run's notes. -/
  time : Text := []
  /-- How long the run takes. -/
  elapsed : Number.Duration := ⟨0, 0, by decide⟩

structure Effect where
  exitCode : Nat := 0
  stdout : Text := []
  stderr : Text := []
  root : FileTree

structure Setup where
  config : Config
  /-- The folder that the run looks into. -/
  base : Path
  console : Console

namespace Program

/-- The folder that a command line looks into, from the folder `dir` on. -/
def folderOf (pathOf : Text → Path) (dir : Path) (a : Arguments) : Path :=
  match a.dir with
  | some folder => Path.join dir (pathOf folder)
  | none => dir

/-- That folder, where all arguments are Unicode. -/
def baseOf (dir : Path) (a : Arguments) : Path :=
  folderOf Path.ofText dir a

def consoleOf (a : Arguments) (colors : Bool) (c : Config) : Console :=
  Console.make a.format (colors && !a.noColor && c.output.color) a.verbose a.quiet

def configSource (s : Surroundings) (a : Arguments) : Config.Source :=
  Config.source s.root (a.config.map s.pathOf) (folderOf s.pathOf s.dir a)

def setup (s : Surroundings) (a : Arguments) : Except ConfigError Setup := do
  let config ← Config.resolve (← Config.load s.root s.dir (configSource s a)) a.overrides
  .ok
    { config := config
      base := folderOf s.pathOf s.dir a
      console := consoleOf a s.colors config }

def usageText (e : UsageError) : Text :=
  e.message ++ "\n\n" ++ usage ++ "\nFor more information, try '--help'.\n"

def helpBelow : Text := "\n" ++ shortHelp ++ "\n"

/-- The configuration file to make.  Its name is taken as it is shown, so the file is another one
than the command line asks for where that is not Unicode. -/
def newConfigFile (s : Surroundings) (a : Arguments) : Text :=
  (a.config.map fun file => Path.display (s.pathOf file)).getD "impseek.toml"

def newConfigNote (file : Text) : Text :=
  "Generated sample configuration file: " ++ file ++
    "\n\nimpseek picks up impseek.toml from the scanned directory automatically,\n" ++
    "or pass it explicitly: impseek --config " ++ file ++ "\n"

def newConfigFailure (e : Error) : Text :=
  "Failed to generate configuration file: " ++ e.userMessage ++ "\n" ++
    match e.suggestion? with
    | some message => "Suggestion: " ++ message ++ "\n"
    | none => []

/-- Writes a configuration file with the built-in settings. -/
def generateConfig (s : Surroundings) (a : Arguments) : Effect :=
  let file := newConfigFile s a
  match Config.save s.root s.dir (Path.ofText file) {} with
  | .ok root => { stderr := newConfigNote file, root := root }
  | .error cause =>
    { exitCode := 1, stderr := newConfigFailure (.config cause), root := s.root }

def startConsole : Console := Console.make .human false 0 false

def askedLog (s : Surroundings) : Option (Except Log.Failure Log.Filter) :=
  s.logSetting.map s.readLog

/-- Whether the reader of the log filter comes to an end, be it that it gives one or refuses. -/
def logReturns (s : Surroundings) : Bool :=
  match askedLog s with
  | some (.error .aborted) => false
  | _ => true

def logFilter (s : Surroundings) (a : Arguments) : Log.Filter :=
  Log.Filter.ofRun (askedLog s) a.quiet a.verbosity

section Running

variable [Glob.Capacity]

def report (s : Surroundings) (a : Arguments) (events : List Log.Event) (p : Setup) : Effect :=
  let log := logFilter s a
  match Census.take s.root p.config.scan p.base a.packageFilter with
  | (.error e, more) =>
    { exitCode := 1
      stderr := log.render (events ++ more) ++ p.console.failure s.time e ++ helpBelow
      root := s.root }
  | (.ok census, more) =>
    { stdout := p.console.result census s.elapsed ++ "\n"
      stderr :=
        log.render (events ++ more) ++
          (census.warning?.map (p.console.note s.time .warning)).getD [] ++
          if p.config.output.showTime then p.console.elapsed s.elapsed else []
      root := s.root }

def execute (s : Surroundings) (a : Arguments) : Effect :=
  if a.generateConfig then generateConfig s a
  else
    let events := (configSource s a).events
    match setup s a with
    | .ok p => report s a events p
    | .error cause =>
      { exitCode := 1
        stderr :=
          (logFilter s a).render events ++
            startConsole.failure s.time (.config cause) ++ helpBelow
        root := s.root }

/-- What a run leaves that is ended before it does anything.  What it says at its end is not
modelled. -/
def aborted (s : Surroundings) : Effect where
  exitCode := 134
  root := s.root

def run (s : Surroundings) (arguments : List Text) : Effect :=
  match parse arguments with
  | .ok a => if logReturns s then execute s a else aborted s
  | .error (.help true) => { stdout := longHelp, root := s.root }
  | .error (.help false) => { stdout := shortHelp, root := s.root }
  | .error .version => { stdout := versionLine, root := s.root }
  | .error (.usage e) => { exitCode := 2, stderr := usageText e, root := s.root }

end Running

end Program

end ImportCensus
