import Outline.CommandLine.Arguments
import Outline.CommandLine.Threshold
import Outline.Report.Write

set_option autoImplicit false

/-!
# The command that writes a report

The command takes a root folder and options for the folder of entities, the filter and the log. A
request that cannot be met because of what was asked for is logged and counts as done; a failure of
the files is an error.
-/
namespace Outline.CommandLine

/-- How a run failed, if it ended neither with a report nor with an exit code. -/
inductive Crash where
  | threshold (error : ThresholdError)
  | failure (failure : Failure)

def Crash.message : Crash → String
  | threshold error => error.message
  | failure f => f.message

structure Finished where
  files : FileSystem
  /-- The exit code, or why there is none. -/
  exit : Except Crash Int
  output : String := ""
  errors : String := ""
  /-- The notes that the threshold lets through. -/
  notes : List Note := []
  threshold : Nat := defaultThreshold
  /-- The path of the report, if one was written. -/
  written : Option String := none

def introspectOptions : List OptionSpec :=
  [⟨["-h", "--help"], .help⟩, ⟨["--entities"], .text⟩, ⟨["--filter"], .text⟩,
    ⟨["--log-level"], .text⟩]

def introspectUsage : String :=
  "usage: introspect [-h] [--entities ENTITIES] [--filter FILTER]\n" ++
  "                  [--log-level LOG_LEVEL]\n" ++
  "                  [root]\n"

def introspectHelp : String :=
  introspectUsage ++ "\n" ++
  "Write a markdown snapshot of a C# project to <root>/project_structure.md\n" ++
  "\n" ++
  "positional arguments:\n" ++
  "  root                  Path to the project root\n" ++
  "\n" ++
  "options:\n" ++
  "  -h, --help            show this help message and exit\n" ++
  "  --entities ENTITIES   Directory whose types get a field/property listing\n" ++
  "  --filter FILTER       Pipe-delimited directory names to skip (default:\n" ++
  "                        bin|obj|.git|.vs|node_modules|TestResults|packages)\n" ++
  "  --log-level LOG_LEVEL\n" ++
  "                        Logging level (DEBUG, INFO, WARNING, ...)\n"

def introspect : Program where
  name := "introspect"
  options := introspectOptions
  hasArgument := true
  usage := introspectUsage
  help := introspectHelp

def chosenThreshold (r : Reading) : Except ThresholdError Nat :=
  match r.values.lookup "--log-level" with
  | none | some "" => .ok defaultThreshold
  | some name => threshold name

def produce [CharacterNames] (fs : FileSystem) (here token : String)
    (root entities filter : Option String) (parse : Parser) (room : Option Nat) :
    FileSystem × Outcome String :=
  match Settings.make fs here root entities filter with
  | .error e => (fs, .ofResult (.error e))
  | .ok settings => Report.generate fs here token settings parse room

/-- The folders that a run with these arguments looks at. -/
def foldersOf (arguments : List String) : List String :=
  match readArguments introspect arguments with
  | .ok (.run r) => (r.argument.toList ++ (r.values.lookup "--entities").toList).filter (!·.isEmpty)
  | _ => []

def finish [CharacterNames] (fs : FileSystem) (here token : String) (r : Reading) (threshold : Nat)
    (parse : Parser) (room : Option Nat) : Finished :=
  let (after, outcome) :=
    produce fs here token r.argument (r.values.lookup "--entities")
      (some ((r.values.lookup "--filter").getD Filter.defaultText)) parse room
  let logged (more : List Note) : List Note := notesFrom threshold (outcome.notes ++ more)
  match outcome.result with
  | .ok path =>
    { files := after, exit := .ok 0, output := "Generated " ++ path ++ "\n", notes := logged [],
      threshold := threshold, written := some path }
  | .error e =>
    match e.kind with
    | .configuration =>
      { files := after, exit := .ok 0, notes := logged [⟨.error, .commandLine, e.message⟩],
        threshold := threshold }
    | .file =>
      { files := after, exit := .ok 1, threshold := threshold,
        notes := logged [⟨.error, .commandLine,
          "Failed to produce " ++ Settings.outputName ++ ": " ++ e.message⟩] }
    | .other =>
      { files := after, exit := .error (.failure e), notes := logged [], threshold := threshold }

def run [CharacterNames] (fs : FileSystem) (here token : String) (arguments : List String)
    (parse : Parser := csharp) (room : Option Nat := none) : Finished :=
  match readArguments introspect arguments with
  | .error e => { files := fs, exit := .ok 2, errors := introspect.complaint e }
  | .ok .help => { files := fs, exit := .ok 0, output := introspect.help }
  | .ok (.run r) =>
    match chosenThreshold r with
    | .error e => { files := fs, exit := .error (.threshold e) }
    | .ok threshold => finish fs here token r threshold parse room

end Outline.CommandLine
