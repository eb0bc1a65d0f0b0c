import Outline.FileSystem.Basic

set_option autoImplicit false

/-!
# Changes to a file system

Files are created, renamed and removed. A change that fails leaves no file system behind, so that
the one before it is still at hand.
-/
namespace Outline.FileSystem

/-- The folder of a path and the name in it; nothing for a path that ends with `.`, `..` or at the
root. -/
def parentAndName (path : String) : List String × Option String :=
  match (Path.steps path).reverse with
  | [] => ([], none)
  | last :: before =>
    (before.reverse, if last == "." || last == ".." then none else some last)

/-- The folder in which a path names an entry, and its name. Links in front of the name are
followed, a link of that name is not. -/
def locateName (fs : FileSystem) (here path : String) :
    Except FileCause (Location × Option String) := do
  match pathFault? path with
  | some cause => .error cause
  | none =>
    let (before, name) := parentAndName path
    let place ← fs.walk maxLinks (origin here path) (before ++ ["."])
    match name with
    | some name => if maxNameSize < name.utf8ByteSize then .error .nameTooLong
    | none => pure ()
    pure (place, name)

def insertAt (fs : FileSystem) (place : Location) (name : String) (e : Entry) : FileSystem :=
  fs.mapFolder (Entry.insert · name e) place

def eraseAt (fs : FileSystem) (place : Location) (name : String) : FileSystem :=
  fs.mapFolder (Entry.erase · name) place

/-- Creates a file with the given content where nothing has this name yet. -/
def createFile (fs : FileSystem) (here path : String) (bytes : List UInt8) (mode : Nat) :
    Except FileError FileSystem :=
  match fs.locateName here path with
  | .error cause => .error ⟨cause, path, none⟩
  | .ok (_, none) => .error ⟨.isFolder, path, none⟩
  | .ok (place, some name) => .ok (fs.insertAt place name (.file bytes mode))

def alterFile (fs : FileSystem) (here path : String)
    (change : List UInt8 → Nat → List UInt8 × Nat) : Except FileError FileSystem :=
  match fs.locateName here path with
  | .error cause => .error ⟨cause, path, none⟩
  | .ok (_, none) => .error ⟨.isFolder, path, none⟩
  | .ok (place, some name) =>
    match fs.at? (place ++ [name]) with
    | none => .error ⟨.missing, path, none⟩
    | some (.file bytes mode) =>
      let (bytes, mode) := change bytes mode
      .ok (fs.insertAt place name (.file bytes mode))
    | some _ => .error ⟨.isFolder, path, none⟩

/-- Removes the file or link that a path names; without one, nothing changes. -/
def removeFile (fs : FileSystem) (here path : String) : FileSystem :=
  match fs.locateName here path with
  | .ok (place, some name) => fs.eraseAt place name
  | _ => fs

/-- Gives a file another path. A file or link that has this path is replaced, a folder is not. -/
def renameFile (fs : FileSystem) (here source target : String) : Except FileError FileSystem :=
  let fail (cause : FileCause) : Except FileError FileSystem :=
    .error ⟨cause, source, some target⟩
  match fs.locateName here source, fs.locateName here target with
  | .error cause, _ => fail cause
  | _, .error cause => fail cause
  | .ok (_, none), _ => fail .busy
  | _, .ok (_, none) => fail .busy
  | .ok (sourcePlace, some sourceName), .ok (targetPlace, some targetName) =>
    match fs.at? (sourcePlace ++ [sourceName]), fs.at? (targetPlace ++ [targetName]) with
    | none, _ => fail .missing
    | some e, old =>
      if target.toList.getLast? == some '/' then fail .notFolder
      else if old.any Entry.isFolder then fail .isFolder
      else .ok ((fs.eraseAt sourcePlace sourceName).insertAt targetPlace targetName e)

/-- Makes the folders that a path leads through, where there are none. -/
def makeFolders (fs : FileSystem) : Location → List String → FileSystem
  | _, [] => fs
  | place, name :: rest =>
    match fs.walk maxLinks place [name] with
    | .ok next => makeFolders fs next rest
    | .error _ => makeFolders (fs.insertAt place name (.folder [])) (place ++ [name]) rest

/-- Puts an entry at the end of a path, making the folders on the way. A folder that is already
there is kept, and a file is written through a link. -/
def put (fs : FileSystem) (here path : String) (e : Entry) : Except FileError FileSystem :=
  let fs := fs.makeFolders (origin here path) (parentAndName path).1
  match fs.locateName here path with
  | .error cause => .error ⟨cause, path, none⟩
  | .ok (_, none) => .ok fs
  | .ok (place, some name) =>
    match e, fs.lookUp here path with
    | .folder _, .ok (_, .folder _) => .ok fs
    | .file .., .ok (_, .folder _) => .error ⟨.isFolder, path, none⟩
    | .file .., .ok (target, _) =>
      .ok (fs.insertAt target.dropLast (target.getLastD name) e)
    | _, _ => .ok (fs.insertAt place name e)

def remove (fs : FileSystem) (here path : String) : Except FileError FileSystem :=
  match fs.locateName here path with
  | .error cause => .error ⟨cause, path, none⟩
  | .ok (_, none) => .error ⟨.busy, path, none⟩
  | .ok (place, some name) =>
    if (fs.at? (place ++ [name])).isSome then .ok (fs.eraseAt place name)
    else .error ⟨.missing, path, none⟩

end Outline.FileSystem
