import Outline.Text.Lowercase

set_option autoImplicit false

/-!
# Paths

A path is a text whose names are separated by slashes. Normal form, joining and relative paths are
lexical: they never ask which files there are.
-/
namespace Outline.Path

/-- Cuts at every slash; there is always at least one piece. -/
def cut : List Char → List (List Char)
  | [] => [[]]
  | c :: rest =>
    if c = '/' then [] :: cut rest
    else match cut rest with
      | [] => [[c]]
      | piece :: pieces => (c :: piece) :: pieces

/-- The names of a path: what stands between slashes, empty pieces left out. -/
def steps (path : String) : List String :=
  ((cut path.toList).filter (!·.isEmpty)).map String.ofList

def ofSteps (names : List String) : String := "/".intercalate names

def isAbsolute (path : String) : Bool := path.toList.head? == some '/'

/-- The number of slashes that normal form keeps in front: two stay two, more are one. -/
def rootSlashes : List Char → Nat
  | '/' :: '/' :: '/' :: _ => 1
  | '/' :: '/' :: _ => 2
  | '/' :: _ => 1
  | _ => 0

/-- Adds a name to reversed names in normal form. A step up takes back the name before it; there is
nothing above the root, while a relative path may begin with steps up. -/
def push (rooted : Bool) (names : List String) (name : String) : List String :=
  if name == "." then names
  else if name == ".." then
    match names with
    | [] => if rooted then [] else [name]
    | last :: rest => if last == ".." then name :: names else rest
  else name :: names

def normalSteps (rooted : Bool) (names : List String) : List String :=
  (names.foldl (push rooted) []).reverse

/-- The normal form: no empty name, no `.`, and `..` only in front of a relative path. -/
def normalize (path : String) : String :=
  let slashes := rootSlashes path.toList
  let text :=
    String.ofList (List.replicate slashes '/') ++ ofSteps (normalSteps (slashes != 0) (steps path))
  if text.isEmpty then "." else text

/-- A path seen from a folder. -/
def join (folder path : String) : String :=
  if isAbsolute path then path
  else if folder.isEmpty || folder.toList.getLast? == some '/' then folder ++ path
  else folder ++ "/" ++ path

def absolute (here path : String) : String :=
  normalize (if isAbsolute path then path else join here path)

/-- What two lists begin with in common, and how each goes on. -/
def afterCommon : List String → List String → List String × List String
  | a :: as, b :: bs => if a == b then afterCommon as bs else (a :: as, b :: bs)
  | as, bs => (as, bs)

/-- The way from a folder to a path, both seen from a working folder. -/
def relative (here path folder : String) : String :=
  let (up, down) := afterCommon (steps (absolute here folder)) (steps (absolute here path))
  let names := up.map (fun _ => "..") ++ down
  if names.isEmpty then "." else ofSteps names

def baseName (path : String) : String := String.ofList ((cut path.toList).getLastD [])

/-- What stands before the last slash, without further slashes at its end unless there is nothing
but slashes. -/
def folderName (path : String) : String :=
  let head := path.toList.reverse.dropWhile (· != '/')
  let trimmed := head.dropWhile (· == '/')
  String.ofList (if trimmed.isEmpty then head else trimmed).reverse

/-- The part of a file name from its last dot on. Dots in front of the name begin no extension. -/
def extension (path : String) : String :=
  let name := ((cut path.toList).getLastD []).dropWhile (· == '.')
  let back := name.reverse.takeWhile (· != '.')
  if back.length = name.length then "" else String.ofList ('.' :: back.reverse)

def isSource (name : String) : Bool := Text.lower (extension name) == ".cs"

end Outline.Path
