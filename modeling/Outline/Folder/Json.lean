import Outline.Folder.Basic
import Outline.Json.Check

set_option autoImplicit false

/-!
# Folders as JSON

The JSON form of a folder has its name, its files and its subfolders; the two lists may be left out
when such a form is read.
-/
namespace Outline.Folder

open Json

mutual

def toJson : Folder → Json
  | mk name files folders =>
    .object [("name", .string name), ("files", .array (files.map .string)),
      ("directories", .array (listToJson folders))]

def listToJson : List Folder → List Json
  | [] => []
  | f :: rest => toJson f :: listToJson rest

end

mutual

def check : Json → Checked Folder
  | .object fields =>
    both (both (both (.ok Folder.mk)
      (requiredField fields "name" checkText))
      (optionalField fields "files" [] (checkTexts .notList)))
      (checkSubfolders fields)
  | other => refuse (.notModel "DirectoryEntry") other

def checkSubfolders : List (String × Json) → Checked (List Folder)
  | [] => .ok []
  | (key, value) :: rest =>
    if key == "directories" then within (.key key) (checkList value) else checkSubfolders rest

def checkList : Json → Checked (List Folder)
  | .array items => checkFrom 0 items
  | other => refuse .notList other

def checkFrom : Nat → List Json → Checked (List Folder)
  | _, [] => .ok []
  | position, item :: rest =>
    both (both (.ok List.cons) (within (.index position) (check item)))
      (checkFrom (position + 1) rest)

end

end Outline.Folder
