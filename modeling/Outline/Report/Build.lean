import Outline.Folder.Snapshot
import Outline.Decl.Listing
import Outline.Report.Basic
import Outline.Settings
import Outline.Source.Files
import Outline.Source.Parser
import Outline.Text.Newline

set_option autoImplicit false

/-!
# Building a report

A report shows the root folder, lists the declarations of every source file below it and, if there
is a folder of entities, lists the files below that one in detail.
-/
namespace Outline.Report

/-- Whether a file lies below the root in a folder that is ignored, given its path relative to the
root. -/
def isHidden (f : Filter) (relative : String) : Bool :=
  (Path.cut relative.toList).head? != some "..".toList && f.ignoresPath (Path.folderName relative)

def blockOf (fs : FileSystem) (here root : String) (parse : Parser) (detail : Listing.Detail)
    (path : String) : Outcome String := do
  let bytes ← .ofResult ((fs.fileBytes here path).mapError .file)
  let outline ← parse (Text.sourceText bytes)
  pure (fileBlock (Path.relative here path root) (outline.listing detail))

def blocks (fs : FileSystem) (here root : String) (f : Filter) (parse : Parser)
    (detail : Listing.Detail) (base : String) : Outcome (List String) := do
  let paths ← Source.files fs here f base
  Outcome.forEach (blockOf fs here root parse detail)
    (paths.filter fun path => !isHidden f (Path.relative here path root))

/-- The heading and the blocks for the folder of entities, if there is one. -/
def entitySections (fs : FileSystem) (here : String) (s : Settings) (f : Filter)
    (parse : Parser) : Outcome (List String) := do
  match s.entitiesFolder? fs here, s.entities with
  | some folder, _ =>
    let blocks ← blocks fs here s.root f parse .detailed folder
    Outcome.note .info .report
      ("Listed fields and properties from " ++ toString blocks.length ++ " entity files")
    pure ((entitiesHeading ++ "\n") :: blocks)
  | none, some path =>
    Outcome.note .warning .report
      ("Entities directory " ++ path ++ " does not exist; skipping detailed listing")
    pure []
  | none, none => pure []

def build [CharacterNames] (fs : FileSystem) (here : String) (s : Settings) (parse : Parser) :
    Outcome Report := do
  let f ← .ofResult ((Filter.read s.filter).mapError .filter)
  let folder ← .ofResult ((Folder.snapshot fs here f.ignores s.root).mapError .file)
  Outcome.note .debug .report ("Rendered directory tree for " ++ s.root)
  let structural ← blocks fs here s.root f parse .structural s.root
  Outcome.note .info .report
    ("Listed declarations from " ++ toString structural.length ++ " source files")
  let entities ← entitySections fs here s f parse
  pure ⟨treeSection (folder.render f.ignores) :: (structureHeading ++ "\n") ::
    (structural ++ entities)⟩

end Outline.Report
