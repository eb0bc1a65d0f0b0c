import Outline.CommandLine.Introspect

set_option autoImplicit false

/-!
# The command that starts the service

The command reads where the service shall listen and hands this to the server.
-/
namespace Outline.CommandLine

structure Launch where
  application : String
  host : String
  port : Int
  reload : Bool
deriving Repr, DecidableEq

def serveOptions : List OptionSpec :=
  [⟨["-h", "--help"], .help⟩, ⟨["--host"], .text⟩, ⟨["--port"], .integer⟩,
    ⟨["--reload"], .switch⟩, ⟨["--log-level"], .text⟩]

def serveUsage : String :=
  "usage: introspect-serve [-h] [--host HOST] [--port PORT] [--reload]\n" ++
  "                        [--log-level LOG_LEVEL]\n"

def serveHelp : String :=
  serveUsage ++ "\n" ++
  "options:\n" ++
  "  -h, --help            show this help message and exit\n" ++
  "  --host HOST\n" ++
  "  --port PORT\n" ++
  "  --reload\n" ++
  "  --log-level LOG_LEVEL\n"

def serve : Program where
  name := "introspect-serve"
  options := serveOptions
  hasArgument := false
  usage := serveUsage
  help := serveHelp

def launchOf (r : Reading) : Launch where
  application := "api:app"
  host := (r.values.lookup "--host").getD "127.0.0.1"
  port := ((r.values.lookup "--port").bind Text.readInt?).getD 8000
  reload := (r.values.lookup "--reload").isSome

structure Served where
  /-- The exit code if there is one, or how the run failed. -/
  exit : Except ThresholdError (Option Int)
  launch : Option Launch := none
  output : String := ""
  errors : String := ""
  threshold : Nat := defaultThreshold

def runServe (arguments : List String) : Served :=
  match readArguments serve arguments with
  | .error e => { exit := .ok (some 2), errors := serve.complaint e }
  | .ok .help => { exit := .ok (some 0), output := serve.help }
  | .ok (.run r) =>
    match chosenThreshold r with
    | .error e => { exit := .error e }
    | .ok threshold => { exit := .ok none, launch := some (launchOf r), threshold := threshold }

end Outline.CommandLine
