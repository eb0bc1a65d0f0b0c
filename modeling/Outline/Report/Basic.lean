import Outline.Json.Check

set_option autoImplicit false

/-!
# Reports

A report is a list of sections, put together with a line feed between them: the drawing of the
root folder, a heading with one block per source file and, if there is a folder of entities, a
second heading with more detailed blocks.
-/
namespace Outline

structure Report where
  sections : List String
deriving Repr, DecidableEq

namespace Report

def render (r : Report) : String := "\n".intercalate r.sections

def check (sections : Json) : Json.Checked Report :=
  Json.both (.ok mk) (Json.within (.key "sections") (Json.checkTexts .notTuple sections))

def treeHeading : String := "# Project structure (filtered)"

def structureHeading : String := "## Types and members"

def entitiesHeading : String := "### Entity fields and properties"

def treeSection (drawing : String) : String :=
  "\n".intercalate (treeHeading :: "" :: if drawing.isEmpty then [] else [drawing]) ++ "\n"

def fileBlock (path body : String) : String :=
  "\n".intercalate
    (["#### File: " ++ path, "```csharp"] ++ (if body.isEmpty then [] else [body]) ++ ["```", ""])

end Report

end Outline
