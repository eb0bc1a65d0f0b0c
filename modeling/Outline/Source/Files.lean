import Outline.Folder.Snapshot
import Outline.Log

set_option autoImplicit false

/-!
# Source files below a folder

The source files are looked for in a folder and in its subfolders, except for those that are
ignored and those that are only linked. A link that does not lead to a folder counts as a file,
even if it leads nowhere. Folders are opened and links followed by their whole paths: a folder that
cannot be opened is passed over, and a link that cannot be followed counts as a file. The files are
listed in the order of their paths.
-/
namespace Outline.Source

mutual

/-- The ways from the folder with a path to source files at or below its entries. -/
def waysAmong (fs : FileSystem) (here : String) (ignored : String → Bool) (path : String) :
    List (String × Entry) → List (List String)
  | [] => []
  | (name, e) :: rest =>
    waysTo fs here ignored path name e ++ waysAmong fs here ignored path rest

/-- The ways to source files at or below one entry. -/
def waysTo (fs : FileSystem) (here : String) (ignored : String → Bool) (path name : String) :
    Entry → List (List String)
  | .folder entries =>
    if ignored name || !fs.isFolder here (Path.join path name) then []
    else (waysAmong fs here ignored (Path.join path name) entries).map (name :: ·)
  | .file .. => if Path.isSource name then [[name]] else []
  | .link _ =>
    if Path.isSource name && !fs.isFolder here (Path.join path name) then [[name]] else []

end

/-- A source file: its path relative to the base, and the base joined with it. -/
structure FoundFile where
  relative : String
  path : String
deriving Repr, DecidableEq

def FoundFile.ofWay (base : String) (way : List String) : FoundFile :=
  ⟨Path.ofSteps way, way.foldl Path.join base⟩

def sortFiles (files : List FoundFile) : List FoundFile :=
  files.mergeSort fun a b =>
    decide (a.relative < b.relative) || (a.relative == b.relative && decide (a.path ≤ b.path))

/-- The source files below the folder that a path leads to; there are none below anything else. -/
def files (fs : FileSystem) (here : String) (f : Filter) (base : String) :
    Outcome (List String) :=
  if f.ignores (Folder.ownName here base) then pure []
  else
    match fs.listFolder here base with
    | .error ⟨.nullCharacter, path, target⟩ =>
      .ofResult (.error (.file ⟨.nullCharacter, path, target⟩))
    | found => do
      let ways := match found with
        | .ok (_, entries) => waysAmong fs here f.ignores base entries
        | .error _ => []
      let files := sortFiles (ways.map (FoundFile.ofWay base))
      Outcome.note .debug .scan
        ("Found " ++ toString files.length ++ " source files under " ++ base)
      pure (files.map (·.path))

end Outline.Source
