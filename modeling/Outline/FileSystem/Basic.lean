import Outline.Path.Basic
import Outline.Text.Quoted

set_option autoImplicit false

/-!
# File systems

A file system is a tree of folders, files and symbolic links. A path leads to a place, which is the
list of names from the root down; links on the way are followed, up to a limit. Every operation that
fails says why and on which path.
-/
namespace Outline

inductive Entry where
  | file (bytes : List UInt8) (mode : Nat)
  | link (target : String)
  | folder (entries : List (String × Entry))
deriving Repr, Inhabited

structure FileSystem where
  entries : List (String × Entry)
deriving Repr, Inhabited

inductive FileCause where
  | missing
  | notFolder
  | isFolder
  | busy
  | tooManyLinks
  | nameTooLong
  | nullCharacter
  | noSpace
deriving Repr, DecidableEq

namespace FileCause

def numbered : FileCause → Nat × String
  | missing => (2, "No such file or directory")
  | notFolder => (20, "Not a directory")
  | isFolder => (21, "Is a directory")
  | busy => (16, "Device or resource busy")
  | tooManyLinks => (40, "Too many levels of symbolic links")
  | nameTooLong => (36, "File name too long")
  | nullCharacter => (22, "Invalid argument")
  | noSpace => (28, "No space left on device")

end FileCause

/-- The failure of an operation on a path, or on two paths if it is the renaming of one to the
other. -/
structure FileError where
  cause : FileCause
  path : String
  target : Option String := none
deriving Repr, DecidableEq

/-- The sentence for a failure. A full volume is noticed at a file that is already open, so it is
reported without a path. -/
def FileError.message (e : FileError) : String :=
  let (number, text) := e.cause.numbered
  let sentence := "[Errno " ++ toString number ++ "] " ++ text
  match e.cause with
  | .nullCharacter => "embedded null byte"
  | .noSpace => sentence
  | _ =>
    sentence ++ ": " ++ Text.quoted e.path ++
      (match e.target with
        | some target => " -> " ++ Text.quoted target
        | none => "")

/-- The names from the root down to an entry. -/
abbrev Location := List String

namespace Entry

def find? : Entry → Location → Option Entry
  | e, [] => some e
  | folder entries, name :: rest => (entries.lookup name).bind (find? · rest)
  | _, _ :: _ => none

def isFolder : Entry → Bool
  | folder _ => true
  | _ => false

def isFile : Entry → Bool
  | file .. => true
  | _ => false

/-- Puts an entry among others: one of the same name is replaced where it stands. -/
def insert (entries : List (String × Entry)) (name : String) (e : Entry) :
    List (String × Entry) :=
  if entries.any (·.1 == name) then entries.map fun x => if x.1 == name then (name, e) else x
  else entries ++ [(name, e)]

def erase (entries : List (String × Entry)) (name : String) : List (String × Entry) :=
  entries.filter (·.1 != name)

/-- Changes the entries of the folder at a place; without a folder there, nothing changes. -/
def mapFolder (change : List (String × Entry) → List (String × Entry)) : Location → Entry → Entry
  | [], folder entries => folder (change entries)
  | name :: rest, folder entries =>
    folder (entries.map fun x => if x.1 == name then (x.1, mapFolder change rest x.2) else x)
  | _, e => e

mutual

/-- Everything below entries, in their order: the path and what stands there. -/
def contents (above : String) : List (String × Entry) → List (String × Entry)
  | [] => []
  | (name, e) :: rest =>
    (above ++ name, e) :: (contentsBelow (above ++ name ++ "/") e ++ contents above rest)

def contentsBelow (above : String) : Entry → List (String × Entry)
  | folder entries => contents above entries
  | _ => []

end

end Entry

namespace FileSystem

def root (fs : FileSystem) : Entry := .folder fs.entries

def at? (fs : FileSystem) (place : Location) : Option Entry := fs.root.find? place

def mapFolder (change : List (String × Entry) → List (String × Entry)) (place : Location)
    (fs : FileSystem) : FileSystem :=
  match fs.root.mapFolder change place with
  | .folder entries => ⟨entries⟩
  | _ => fs

def maxNameSize : Nat := 255

def maxPathSize : Nat := 4096

def maxLinks : Nat := 40

/-- The names that a path is walked along. A slash at its end asks for a folder, as a dot would. -/
def waypoints (path : String) : List String :=
  Path.steps path ++ (if path.toList.getLast? == some '/' then ["."] else [])

/-- Walks along names from the folder at a place. What to do at a link is a parameter: it gets the
folder that the link stands in or refers to, and all names still ahead. -/
def walkWith (fs : FileSystem) (atLink : Location → List String → Except FileCause Location) :
    Location → List String → Except FileCause Location
  | place, [] => .ok place
  | place, name :: rest =>
    if name == "." then walkWith fs atLink place rest
    else if name == ".." then walkWith fs atLink place.dropLast rest
    else if maxNameSize < name.utf8ByteSize then .error .nameTooLong
    else match fs.at? (place ++ [name]) with
      | none => .error .missing
      | some (.folder _) => walkWith fs atLink (place ++ [name]) rest
      | some (.file ..) => if rest.isEmpty then .ok (place ++ [name]) else .error .notFolder
      | some (.link target) =>
        atLink (if Path.isAbsolute target then [] else place) (waypoints target ++ rest)

def walk (fs : FileSystem) : Nat → Location → List String → Except FileCause Location
  | 0 => fs.walkWith fun _ _ => .error .tooManyLinks
  | links + 1 => fs.walkWith (fs.walk links)

/-- The folder that a path starts from. -/
def origin (here path : String) : Location := if Path.isAbsolute path then [] else Path.steps here

def pathFault? (path : String) : Option FileCause :=
  if path.toList.contains '\x00' then some .nullCharacter
  else if path.isEmpty then some .missing
  else if maxPathSize ≤ path.utf8ByteSize then some .nameTooLong
  else none

/-- The place that a path leads to, seen from a working folder. -/
def locate (fs : FileSystem) (here path : String) : Except FileCause Location :=
  match pathFault? path with
  | some cause => .error cause
  | none => fs.walk maxLinks (origin here path) (waypoints path)

def lookUp (fs : FileSystem) (here path : String) : Except FileError (Location × Entry) :=
  match fs.locate here path with
  | .error cause => .error ⟨cause, path, none⟩
  | .ok place =>
    match fs.at? place with
    | some e => .ok (place, e)
    | none => .error ⟨.missing, path, none⟩

def isFolder (fs : FileSystem) (here path : String) : Bool :=
  match fs.lookUp here path with
  | .ok (_, e) => e.isFolder
  | .error _ => false

def listFolder (fs : FileSystem) (here path : String) :
    Except FileError (Location × List (String × Entry)) :=
  match fs.lookUp here path with
  | .error e => .error e
  | .ok (place, .folder entries) => .ok (place, entries)
  | .ok _ => .error ⟨.notFolder, path, none⟩

def fileBytes (fs : FileSystem) (here path : String) : Except FileError (List UInt8) :=
  match fs.lookUp here path with
  | .error e => .error e
  | .ok (_, .file bytes _) => .ok bytes
  | .ok _ => .error ⟨.isFolder, path, none⟩

end FileSystem

end Outline
