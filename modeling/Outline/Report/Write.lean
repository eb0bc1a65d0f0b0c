import Outline.FileSystem.Change
import Outline.Report.Build

set_option autoImplicit false

/-!
# Writing a report

A report is written to a new file beside its destination, which then takes the place of whatever
has that path. If one of the steps on the way fails, the new file is removed again. The volume may
have room for a part of the text only.
-/
namespace Outline.Report

def outputMode : Nat := 0o644

def temporaryMode : Nat := 0o600

/-- The name of the new file; the token makes it unique. -/
def temporaryName (token : String) : String := "." ++ Settings.outputName ++ "." ++ token ++ ".tmp"

/-- Whether bytes fit into the room that is left; without a bound, all do. -/
def fits (room : Option Nat) (bytes : List UInt8) : Bool := room.all (bytes.length ≤ ·)

/-- Fills the new file, opens it to all readers and gives it the path of the report. The file system
is the one after the last step that was taken. -/
def replace (created : FileSystem) (here temporary path : String) (room : Option Nat)
    (bytes : List UInt8) : FileSystem × Except FileError Unit :=
  let written := bytes.take (room.getD bytes.length)
  match created.alterFile here temporary fun _ mode => (written, mode) with
  | .error e => (created, .error e)
  | .ok filled =>
    if fits room bytes then
      match filled.alterFile here temporary fun bytes _ => (bytes, outputMode) with
      | .error e => (filled, .error e)
      | .ok opened =>
        match opened.renameFile here temporary path with
        | .error e => (opened, .error e)
        | .ok renamed => (renamed, .ok ())
    else (filled, .error ⟨.noSpace, temporary, none⟩)

/-- Writes a report; also gives the file system afterwards. -/
def write (fs : FileSystem) (here token : String) (r : Report) (path : String)
    (room : Option Nat := none) : FileSystem × Except FileError Unit :=
  let folder := Path.folderName (Path.absolute here path)
  let temporary := Path.join folder (temporaryName token)
  match fs.createFile here temporary [] temporaryMode with
  | .error e => (fs, .error e)
  | .ok created =>
    match replace created here temporary path room (Text.Utf8.encode r.render.toList) with
    | (left, .error e) => (left.removeFile here temporary, .error e)
    | (renamed, .ok ()) => (renamed, .ok ())

/-- Builds the report of a run and writes it into the root folder; gives its path. -/
def generate [CharacterNames] (fs : FileSystem) (here token : String) (s : Settings)
    (parse : Parser) (room : Option Nat := none) : FileSystem × Outcome String :=
  let built := build fs here s parse
  match built.result with
  | .error e => (fs, ⟨built.notes, .error e⟩)
  | .ok report =>
    match write fs here token report s.outputPath room with
    | (after, .error e) => (after, ⟨built.notes, .error (.file e)⟩)
    | (after, .ok ()) =>
      (after, ⟨built.notes ++ [⟨.info, .report, "Report written to " ++ s.outputPath⟩],
        .ok s.outputPath⟩)

end Outline.Report
