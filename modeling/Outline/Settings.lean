import Outline.Failure
import Outline.Json.Check

set_option autoImplicit false

/-!
# Settings of a run

A run needs a root folder; a folder of entities and a filter may be given. Paths are made absolute
when the settings are made. The filter is only read when the report is built.
-/
namespace Outline

structure Settings where
  root : String
  entities : Option String
  filter : String
deriving Repr, DecidableEq

inductive SettingsError where
  | failed (failure : Failure)
  | invalid (issues : List Json.Issue)

namespace Settings

def outputName : String := "project_structure.md"

/-- A text that is not empty. -/
def given? (text : Option String) : Option String := text.filter (!·.isEmpty)

def rootFolder (fs : FileSystem) (here : String) (root : Option String) : Except Failure String :=
  match given? root with
  | none => .error .noRoot
  | some path =>
    let absolute := Path.absolute here path
    if fs.isFolder here absolute then .ok absolute else .error (.missingRoot absolute)

def withRoot (here root : String) (entities : Option String) (filter : String) : Settings where
  root := root
  entities := (given? entities).map (Path.absolute here)
  filter := filter

def make (fs : FileSystem) (here : String) (root entities filter : Option String) :
    Except Failure Settings :=
  (rootFolder fs here root).map fun root =>
    withRoot here root entities (filter.getD Filter.defaultText)

/-- Makes settings with a filter that may turn out not to be a text. -/
def check (fs : FileSystem) (here : String) (root entities : Option String) (filter : Json) :
    Except SettingsError Settings :=
  match rootFolder fs here root with
  | .error e => .error (.failed e)
  | .ok root =>
    match Json.within (.key "filter_pattern") (Json.checkOptionalText filter) with
    | .error issues => .error (.invalid issues)
    | .ok filter => .ok (withRoot here root entities (filter.getD Filter.defaultText))

def outputPath (s : Settings) : String := Path.join s.root outputName

def entitiesFolder? (fs : FileSystem) (here : String) (s : Settings) : Option String :=
  s.entities.filter (fs.isFolder here)

end Settings

end Outline
