import Outline.FileSystem.Basic
import Outline.Folder.Drawing

set_option autoImplicit false

/-!
# Snapshots of folders

A snapshot shows a folder with its source files and subfolders as they are in a file system. An
ignored folder is shown by its bare name and never looked into. A link is never entered: it shows
as a file if it is named like a source and leads to a file. Folders are opened and links followed by
their whole paths, so that the limits on paths hold for them.
-/
namespace Outline.Folder

/-- What an entry contributes to the snapshot of its folder. -/
inductive Shown where
  | file (name : String)
  | folder (f : Folder)
  | nothing

namespace Shown

def file? : Shown → Option String
  | file name => some name
  | _ => none

def folder? : Shown → Option Folder
  | folder f => some f
  | _ => none

end Shown

def collect {α : Type} : List (Except FileError α) → Except FileError (List α)
  | [] => .ok []
  | .error e :: _ => .error e
  | .ok a :: rest => (collect rest).map (a :: ·)

/-- A folder put together from what its entries contribute, in the order of their names. -/
def assemble (name : String) (parts : List (String × Except FileError Shown)) :
    Except FileError Folder := do
  let sorted := parts.mergeSort fun a b => decide (a.1 ≤ b.1)
  let shown ← collect (sorted.map (·.2))
  pure (.mk name (shown.filterMap Shown.file?) (shown.filterMap Shown.folder?))

mutual

def showEntries (fs : FileSystem) (here : String) (ignored : String → Bool) (path : String) :
    List (String × Entry) → List (String × Except FileError Shown)
  | [] => []
  | (name, e) :: rest =>
    (name, showEntry fs here ignored path name e) :: showEntries fs here ignored path rest

def showEntry (fs : FileSystem) (here : String) (ignored : String → Bool) (path name : String) :
    Entry → Except FileError Shown
  | .folder entries =>
    if ignored name then .ok (.folder (bare name))
    else
      match fs.listFolder here (Path.join path name) with
      | .error e => .error e
      | .ok _ =>
        (assemble name (showEntries fs here ignored (Path.join path name) entries)).map .folder
  | .file .. => .ok (if Path.isSource name then .file name else .nothing)
  | .link _ =>
    match fs.lookUp here (Path.join path name) with
    | .ok (_, e) => .ok (if e.isFile && Path.isSource name then .file name else .nothing)
    | .error e => if e.cause = .missing then .ok .nothing else .error e

end

def ownName (here path : String) : String := Path.baseName (Path.absolute here path)

def snapshot (fs : FileSystem) (here : String) (ignored : String → Bool) (path : String) :
    Except FileError Folder :=
  let name := ownName here path
  if ignored name then .ok (bare name)
  else do
    let (_, entries) ← fs.listFolder here path
    assemble name (showEntries fs here ignored path entries)

end Outline.Folder
