import Outline.Report.Write
import Outline.Service.Response

set_option autoImplicit false

/-!
# Answering requests

The service has one path, at which a report can be asked for. The report is built from the files as
they are, and written into the root folder only if this is asked for.
-/
namespace Outline.Service

def reportPath : String := "/report"

def threshold : Nat := Level.info.number

structure Handled where
  files : FileSystem
  response : Response
  /-- The notes that the threshold lets through. -/
  notes : List Note

def buildFor [CharacterNames] (fs : FileSystem) (here : String) (w : Wish) (parse : Parser) :
    Outcome (Settings × Report) := do
  let settings ← .ofResult (Settings.make fs here (some w.root) w.entities w.filter)
  let report ← Report.build fs here settings parse
  pure (settings, report)

/-- Meets a wish: gives the file system afterwards, and the report with the path that it was
written to. -/
def meet [CharacterNames] (fs : FileSystem) (here token : String) (w : Wish) (parse : Parser)
    (room : Option Nat) : FileSystem × Outcome (Report × Option String) :=
  let built := buildFor fs here w parse
  match built.result with
  | .error failure => (fs, ⟨built.notes, .error failure⟩)
  | .ok (settings, report) =>
    if w.write then
      match Report.write fs here token report settings.outputPath room with
      | (after, .error e) => (after, ⟨built.notes, .error (.file e)⟩)
      | (after, .ok ()) =>
        (after, ⟨built.notes ++ [⟨.info, .service, "Report written to " ++ settings.outputPath⟩],
          .ok (report, some settings.outputPath)⟩)
    else (fs, ⟨built.notes, .ok (report, none)⟩)

def Response.ofResult : Except Failure (Report × Option String) → Response
  | .ok (report, path) => .ofReport report path
  | .error failure => .ofFailure failure

def fulfil [CharacterNames] (fs : FileSystem) (here token : String) (w : Wish) (parse : Parser)
    (room : Option Nat) : Handled :=
  let (after, outcome) := meet fs here token w parse room
  ⟨after, .ofResult outcome.result, notesFrom threshold outcome.notes⟩

def handle [CharacterNames] (fs : FileSystem) (here token : String) (r : Request)
    (parse : Parser := csharp) (room : Option Nat := none) : Handled :=
  let refused (response : Response) : Handled :=
    ⟨fs, if r.verb == "HEAD" then response.bare else response, []⟩
  if r.path != reportPath then refused .notFound
  else if r.verb != "POST" then refused .methodNotAllowed
  else match Wish.read r.body with
    | .error fault => refused (.ofFault fault)
    | .ok wish => fulfil fs here token wish parse room

end Outline.Service
