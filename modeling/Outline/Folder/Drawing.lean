import Outline.Folder.Basic

set_option autoImplicit false

/-!
# Drawings of folders

A folder is drawn as an indented tree. Folders that are ignored are left out; the files of a folder
come before its subfolders, and both are in the order of their code points.
-/
namespace Outline.Folder

def sortNames (names : List String) : List String := names.mergeSort (decide <| · ≤ ·)

/-- Folders by name; folders of the same name keep their order. -/
def sortFolders (folders : List Folder) : List Folder :=
  folders.mergeSort fun a b => decide (a.name ≤ b.name)

mutual

/-- A folder as it is drawn: files and subfolders in order, ignored subfolders left out. -/
def arrange (ignored : String → Bool) : Folder → Folder
  | mk name files folders => mk name (sortNames files) (sortFolders (arrangeAll ignored folders))

def arrangeAll (ignored : String → Bool) : List Folder → List Folder
  | [] => []
  | f :: rest =>
    if ignored f.name then arrangeAll ignored rest
    else arrange ignored f :: arrangeAll ignored rest

end

def branch (last : Bool) : String := if last then "└──" else "├──"

def rail (last : Bool) : String := if last then "    " else "│   "

/-- The lines of files, the last of them closing the branch. -/
def drawFiles (indent : String) : List String → List String
  | [] => []
  | [name] => [indent ++ branch true ++ name]
  | name :: rest => (indent ++ branch false ++ name) :: drawFiles indent rest

mutual

def draw (indent : String) (last : Bool) : Folder → List String
  | mk name files folders =>
    (indent ++ branch last ++ name ++ "/") ::
      (drawFiles (indent ++ rail last) files ++ drawAll (indent ++ rail last) folders)

def drawAll (indent : String) : List Folder → List String
  | [] => []
  | f :: rest => draw indent rest.isEmpty f ++ drawAll indent rest

end

/-- The drawing of a folder, empty if the folder itself is ignored. -/
def render (ignored : String → Bool) (f : Folder) : String :=
  if ignored f.name then "" else "\n".intercalate (draw "" true (arrange ignored f))

end Outline.Folder
