import ImportCensus.CommandLine.Arguments
/-!
# Help

What the program tells about itself: every switch with what it does, in a short form with one
line for each and in a long form with room for details.
-/

namespace ImportCensus.CommandLine

def version : Text := "1.0.0"

def versionLine : Text := "impseek " ++ version ++ "\n"

def usage : Text := "Usage: impseek [OPTIONS] [DIR]\n"

structure HelpEntry where
  switch : Switch
  about : Text
  /-- The values to choose from, with what they mean. -/
  choices : List (Text × Text) := []
  /-- A name or value that goes without saying. -/
  note : Option Text := none

namespace HelpEntry

/-- How the switch is written: its letter, if it has one, before its name. -/
def spelling (e : HelpEntry) : Text :=
  match e.switch.letter? with
  | some c => ['-', c, ',', ' '] ++ e.switch.label
  | none => List.replicate 4 ' ' ++ e.switch.label

def bracketed (words : Text) : Text :=
  " [" ++ words ++ "]"

def choiceList (e : HelpEntry) : Text :=
  match e.choices with
  | [] => []
  | choices =>
    bracketed ("possible values: " ++ (", " : Text).intercalate (choices.map (·.1)))

def short (width : Nat) (e : HelpEntry) : Text :=
  "  " ++ e.spelling ++ List.replicate (width - e.spelling.length) ' ' ++ "  " ++ e.about ++
    (e.note.map bracketed).getD [] ++ e.choiceList ++ "\n"

def indent : Text := List.replicate 10 ' '

def detail (line : Text) : Text :=
  indent ++ line ++ "\n"

def longChoice (width : Nat) (choice : Text × Text) : Text :=
  detail ("- " ++ choice.1 ++ ": " ++ List.replicate (width - choice.1.length) ' ' ++ choice.2)

def longChoices (e : HelpEntry) : Text :=
  match e.choices with
  | [] => []
  | choices =>
    let width := (choices.map fun c => c.1.length).foldl max 0
    "\n" ++ detail "Possible values:" ++ choices.flatMap (longChoice width)

def long (e : HelpEntry) : Text :=
  "  " ++ e.spelling ++ "\n" ++ detail e.about ++ e.longChoices ++
    (e.note.map fun words => detail [] ++ detail ("[" ++ words ++ "]")).getD []

end HelpEntry

def helpEntries : List HelpEntry :=
  [{ switch := .packageName
     about := "Only report imports from lines ending with this text (e.g. \"'react'\")"
     note := some "alias: --packageName".toList },
    { switch := .node, about := "Exclude node_modules folders" },
    { switch := .time, about := "Print how long the run took" },
    { switch := .glob, about := "Glob selecting the files to read" },
    { switch := .exclude, about := "Additional glob patterns to ignore (comma-separated)" },
    { switch := .config, about := "Path to TOML configuration file" },
    { switch := .outputFormat
      about := "Output format for results"
      choices :=
        [("human", "Comma-joined list, colored when the terminal supports it"),
          ("json", "JSON object with the list and run counters"),
          ("plain", "Comma-joined list without color")]
      note := some "default: human".toList },
    { switch := .noColor, about := "Disable colored output" },
    { switch := .verbose, about := "Verbose output level (-v, -vv, -vvv)" },
    { switch := .quiet, about := "Quiet mode (only the result and errors are printed)" },
    { switch := .generateConfig, about := "Generate a sample configuration file" }]

def helpEntry (other : Text) : HelpEntry where
  switch := .help
  about := "Print help (see " ++ other ++ ")"

def versionEntry : HelpEntry where
  switch := .version
  about := "Print version"

def dirAbout : Text := "Directory to scan (defaults to the current directory)"

def helpExamples : Text :=
  "EXAMPLES:\n" ++
    "  impseek\n" ++
    "  impseek --package-name \"'react'\"\n" ++
    "  impseek packages/web --time\n" ++
    "  impseek --glob 'src/**/*.ts' --exclude '**/__tests__/**'\n" ++
    "  impseek --output-format json\n"

def shortHelp : Text :=
  let entries := helpEntries ++ [helpEntry "more with '--help'", versionEntry]
  let width := (entries.map fun e => e.spelling.length).foldl max 0
  "List the symbols a TypeScript source tree imports\n\n" ++ usage ++
    "\nArguments:\n  [DIR]  " ++ dirAbout ++ "\n\nOptions:\n" ++
    entries.flatMap (HelpEntry.short width) ++ "\n" ++ helpExamples

def longHelp : Text :=
  let entries := helpEntries ++ [helpEntry "a summary with '-h'", versionEntry]
  "impseek walks a directory for .ts and .tsx files, reads the import statements in each one " ++
    "and prints every imported symbol once, comma-separated.\n\n" ++ usage ++
    "\nArguments:\n  [DIR]\n" ++ HelpEntry.detail dirAbout ++ "\nOptions:\n" ++
    ("\n" : Text).intercalate (entries.map HelpEntry.long) ++ "\n" ++ helpExamples

end ImportCensus.CommandLine
