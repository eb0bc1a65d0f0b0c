set_option autoImplicit false

/-!
# Folders

A folder as the report shows it: its name, the names of its source files and its subfolders.
-/
namespace Outline

inductive Folder where
  | mk (name : String) (files : List String) (folders : List Folder)
deriving Repr, Inhabited

namespace Folder

def name : Folder → String
  | mk name _ _ => name

def files : Folder → List String
  | mk _ files _ => files

def folders : Folder → List Folder
  | mk _ _ folders => folders

def bare (name : String) : Folder := mk name [] []

end Folder

end Outline
