import Outline.CommandLine.Introspect

set_option autoImplicit false

/-!
# The program

The folders that a run looks at are read into a file system value. The run is computed on that
value, and the report that it leaves there is written to the disk.
-/
namespace Outline.Main

def maxDepth : Nat := 256

def place (fs : FileSystem) (path : String) (e : Entry) : FileSystem :=
  match fs.put "/" path e with
  | .ok after => after
  | .error _ => fs

/-- The target of a link that leads nowhere: no file has this name. -/
def nowhere : String := "\x00"

/-- The kind of what stands at an absolute path; links are not followed. -/
def kindAt? (path : String) : IO (Option IO.FS.FileType) := do
  let entry : IO.FS.DirEntry := ⟨"/", path⟩
  try return some (← entry.path.symlinkMetadata).type catch _ => return none

def resolved? (path : String) : IO (Option String) := do
  try return some (← IO.FS.realPath path).toString catch _ => return none

def namesIn (path : String) : IO (List String) := do
  let entry : IO.FS.DirEntry := ⟨"/", path⟩
  return (← entry.path.readDir).toList.map (·.fileName)

/-- Reads the file at an absolute path; only the bytes of sources matter. -/
def loadFile (fs : FileSystem) (path : String) : IO FileSystem := do
  let bytes ← if Path.isSource path then (·.toList) <$> IO.FS.readBinFile path else pure []
  return place fs path (.file bytes Report.outputMode)

/-- Reads the link at an absolute path and what it leads to; a folder is not looked into. -/
def loadLink (fs : FileSystem) (path : String) : IO FileSystem := do
  match ← resolved? path with
  | none => return place fs path (.link nowhere)
  | some target =>
    let linked := place fs path (.link target)
    match ← kindAt? target with
    | some .dir => return place linked target (.folder [])
    | some .file => loadFile linked target
    | _ => return linked

def load : Nat → FileSystem → String → IO FileSystem
  | 0, fs, _ => pure fs
  | depth + 1, fs, path => do
    match ← kindAt? path with
    | some .dir =>
      (← namesIn path).foldlM (fun fs name => load depth fs (Path.join path name))
        (place fs path (.folder []))
    | some .file => loadFile fs path
    | some .symlink => loadLink fs path
    | _ => return fs

/-- The absolute paths of the folders that a path leads through, and the path itself. -/
def wayTo (path : String) : List String :=
  let names := Path.steps path
  (List.range names.length).map fun n => "/" ++ Path.ofSteps (names.take (n + 1))

/-- Reads the folder at an absolute path, and the links on the way to it. -/
def loadFolder (fs : FileSystem) (path : String) : IO FileSystem := do
  let onTheWay ← (wayTo path).foldlM (fun fs step => do
    if (← kindAt? step) == some .symlink then loadLink fs step else pure fs) fs
  match ← resolved? path with
  | none => return onTheWay
  | some target => load maxDepth onTheWay target

/-- Writes bytes to a new file that then takes the place of what has the path. -/
def replaceFile (path token : String) (bytes : List UInt8) : IO Unit := do
  let temporary := Path.join (Path.folderName path) (Report.temporaryName token)
  IO.FS.writeBinFile temporary ⟨bytes.toArray⟩
  try IO.FS.rename temporary path
  catch e =>
    IO.FS.removeFile temporary
    throw e

/-- Writes the report that a run leaves behind; gives whether this was possible. -/
def commit (done : CommandLine.Finished) (here token : String) : IO Bool := do
  match done.written.map fun path => (path, done.files.fileBytes here path) with
  | some (path, .ok bytes) =>
    try
      replaceFile path token bytes
      return true
    catch e =>
      IO.eprintln e
      return false
  | _ => return true

def run (arguments : List String) : IO UInt32 := do
  let here := (← IO.currentDir).toString
  let token := toString (← IO.rand 10000000 99999999)
  let folders := (CommandLine.foldersOf arguments).map (Path.absolute here)
  let files ← folders.foldlM loadFolder ⟨[]⟩
  let done := CommandLine.run files here token arguments
  let committed ← commit done here token
  for note in done.notes do IO.eprintln note.line
  IO.eprint done.errors
  match done.exit with
  | .ok code =>
    if committed then IO.print done.output
    return if committed then UInt32.ofNat code.toNat else 1
  | .error crash =>
    IO.eprintln crash.message
    return 1

end Outline.Main

/-- Writes an outline of a project into its root folder. -/
def main (arguments : List String) : IO UInt32 := Outline.Main.run arguments
