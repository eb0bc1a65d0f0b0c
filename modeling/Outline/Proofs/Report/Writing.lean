import Outline.Proofs.FileSystem.Meets
import Outline.Proofs.Outcome
import Outline.Report.Write

set_option autoImplicit false

/-!
# Writing is all or nothing

A report that is written replaces the entry that its path names and leaves everything else alone. If
it cannot be written, the file system stays as it was. This rests on the name of the temporary file:
nothing may have it yet.
-/
namespace Outline.Report

def temporaryPath (here token path : String) : String :=
  Path.join (Path.folderName (Path.absolute here path)) (temporaryName token)

/-- Whether nothing stands where a path names an entry. -/
def isUnused (fs : FileSystem) (here path : String) : Bool :=
  match fs.locateName here path with
  | .ok (place, some name) => (fs.at? (place ++ [name])).isNone
  | _ => true

def outputFile (r : Report) : Entry := .file (Text.Utf8.encode r.render.toList) outputMode

variable {fs : FileSystem} {here token path : String} {r : Report} {room : Option ℕ}

theorem at?_of_isUnused {place : Location} {name : String} (h : isUnused fs here path)
    (hlocate : fs.locateName here path = .ok (place, some name)) :
    fs.at? (place ++ [name]) = none := by
  rw [isUnused, hlocate] at h
  simpa using h

theorem createFile_eq_ok {created : FileSystem} {bytes : List UInt8} {mode : ℕ}
    (h : fs.createFile here path bytes mode = .ok created) :
    ∃ place name, fs.locateName here path = .ok (place, some name) ∧
      created = fs.insertAt place name (.file bytes mode) := by
  unfold FileSystem.createFile at h
  split at h
  · cases h
  · cases h
  · rename_i place name hlocate
    rw [Except.ok.injEq] at h
    exact ⟨place, name, hlocate, h.symm⟩

section Temporary

variable {temporary name : String} {place : Location} {entries : List (String × Entry)}
  {bytes text : List UInt8} {mode : ℕ}

/-- A new file is made at a place of its own, from which it can be taken away again. -/
theorem removeFile_insertAt (hfs : fs.isProper) (hplace : fs.at? place = some (.folder entries))
    (hnone : fs.at? (place ++ [name]) = none)
    (hlocate : fs.locateName here temporary = .ok (place, some name)) :
    (fs.insertAt place name (.file bytes mode)).removeFile here temporary = fs := by
  rw [FileSystem.removeFile, (fs.locateName_insertAt_iff hplace hnone).2 hlocate]
  exact fs.eraseAt_insertAt hfs hplace hnone _

/-- Until it is renamed, the new file is all that differs: each step changes what it holds. -/
theorem replace_eq_error {left : FileSystem} {e : FileError}
    (hplace : fs.at? place = some (.folder entries)) (hnone : fs.at? (place ++ [name]) = none)
    (hlocate : fs.locateName here temporary = .ok (place, some name))
    (h : replace (fs.insertAt place name (.file bytes mode)) here temporary path room text =
      (left, .error e)) :
    ∃ bytes mode, left = fs.insertAt place name (.file bytes mode) := by
  simp only [replace, fs.alterFile_insertAt hplace hnone hlocate] at h
  split_ifs at h
  · split at h
    · exact ⟨_, _, (Prod.mk.inj h).1.symm⟩
    · cases (Prod.mk.inj h).2
  · exact ⟨_, _, (Prod.mk.inj h).1.symm⟩

theorem replace_eq_ok_iff {after : FileSystem} (hplace : fs.at? place = some (.folder entries))
    (hnone : fs.at? (place ++ [name]) = none)
    (hlocate : fs.locateName here temporary = .ok (place, some name)) :
    replace (fs.insertAt place name (.file bytes mode)) here temporary path room text =
        (after, .ok ()) ↔
      fits room text ∧
      (fs.insertAt place name (.file text outputMode)).renameFile here temporary path =
        .ok after := by
  simp only [replace, fs.alterFile_insertAt hplace hnone hlocate]
  by_cases hfits : fits room text
  · have hall : text.take (room.getD text.length) = text := by
      apply List.take_of_length_le
      cases room with
      | none => exact le_refl _
      | some n => simpa [fits] using hfits
    rw [if_pos hfits, hall]
    cases (fs.insertAt place name (.file text outputMode)).renameFile here temporary path <;>
      simp [hfits]
  · simp [hfits]

end Temporary

/-- A report that cannot be written changes nothing. -/
theorem write_eq_error {after : FileSystem} {e : FileError} (hfs : fs.isProper)
    (hhere : fs.IsWorkingFolder here) (hunused : isUnused fs here (temporaryPath here token path))
    (h : write fs here token r path room = (after, .error e)) : after = fs := by
  unfold write at h
  simp only at h
  split at h
  · exact (Prod.mk.inj h).1.symm
  · rename_i created hcreate
    obtain ⟨place, name, hlocate, rfl⟩ := createFile_eq_ok hcreate
    obtain ⟨entries, hplace⟩ := fs.exists_folder_of_locateName hhere hlocate
    have hnone := at?_of_isUnused hunused hlocate
    split at h
    · rename_i left cause hreplace
      obtain ⟨bytes, mode, rfl⟩ := replace_eq_error hplace hnone hlocate hreplace
      rw [← (Prod.mk.inj h).1]
      exact removeFile_insertAt hfs hplace hnone hlocate
    · cases (Prod.mk.inj h).2

/-- A report is written if there is room for its text in a temporary file, which can then be
renamed. -/
theorem write_eq_ok_iff_renamed {after : FileSystem} (hhere : fs.IsWorkingFolder here)
    (hunused : isUnused fs here (temporaryPath here token path)) :
    write fs here token r path room = (after, .ok ()) ↔
      fits room (Text.Utf8.encode r.render.toList) ∧ ∃ place name,
        fs.locateName here (temporaryPath here token path) = .ok (place, some name) ∧
        (fs.insertAt place name (outputFile r)).renameFile here (temporaryPath here token path)
          path = .ok after := by
  unfold write temporaryPath at *
  simp only
  generalize Path.join (Path.folderName (Path.absolute here path)) (temporaryName token) =
    temporary at *
  constructor
  · intro h
    split at h
    · cases (Prod.mk.inj h).2
    · rename_i created hcreate
      obtain ⟨place, name, hlocate, rfl⟩ := createFile_eq_ok hcreate
      obtain ⟨entries, hplace⟩ := fs.exists_folder_of_locateName hhere hlocate
      split at h
      · cases (Prod.mk.inj h).2
      · rename_i renamed hreplace
        rw [(Prod.mk.inj h).1] at hreplace
        obtain ⟨hfits, hrename⟩ :=
          (replace_eq_ok_iff hplace (at?_of_isUnused hunused hlocate) hlocate).1 hreplace
        exact ⟨hfits, place, name, hlocate, hrename⟩
  · rintro ⟨hfits, place, name, hlocate, hrename⟩
    obtain ⟨entries, hplace⟩ := fs.exists_folder_of_locateName hhere hlocate
    have hcreate : fs.createFile here temporary [] temporaryMode =
        .ok (fs.insertAt place name (.file [] temporaryMode)) := by
      rw [FileSystem.createFile, hlocate]
    rw [hcreate]
    simp only [(replace_eq_ok_iff hplace (at?_of_isUnused hunused hlocate) hlocate).2
      ⟨hfits, hrename⟩]

theorem write_eq_ok_iff {after : FileSystem} (hfs : fs.isProper) (hhere : fs.IsWorkingFolder here)
    (hunused : isUnused fs here (temporaryPath here token path)) :
    write fs here token r path room = (after, .ok ()) ↔
      fits room (Text.Utf8.encode r.render.toList) ∧
      (∃ place name, fs.locateName here (temporaryPath here token path) = .ok (place, some name)) ∧
      path.toList.getLast? ≠ some '/' ∧
      ∃ place name, fs.locateName here path = .ok (place, some name) ∧
        (fs.at? (place ++ [name])).all (!·.isFolder) ∧
        after = fs.insertAt place name (outputFile r) := by
  rw [write_eq_ok_iff_renamed hhere hunused]
  refine and_congr_right fun _ => ?_
  constructor
  · rintro ⟨place, name, hlocate, hrename⟩
    obtain ⟨entries, hplace⟩ := fs.exists_folder_of_locateName hhere hlocate
    have hnone := at?_of_isUnused hunused hlocate
    -- with the temporary file in place, both paths still name the entries that they named before
    obtain ⟨_, _, target, last, e, hsource, htarget, he, hslash, hold, rfl⟩ :=
      FileSystem.renameFile_eq_ok_iff.1 hrename
    rw [outputFile, fs.locateName_insertAt_iff hplace hnone] at hsource htarget
    rw [hlocate, Except.ok.injEq, Prod.mk.injEq, Option.some.injEq] at hsource
    obtain ⟨rfl, rfl⟩ := hsource
    rw [fs.at?_insertAt hplace, Entry.find?_nil, Option.some_inj] at he
    subst he
    rw [fs.all_not_isFolder_insertAt hplace hnone rfl] at hold
    refine ⟨⟨place, name, hlocate⟩, hslash, target, last, htarget, hold, ?_⟩
    rw [fs.eraseAt_insertAt hfs hplace hnone]
  · rintro ⟨⟨place, name, hlocate⟩, hslash, target, last, htarget, hold, rfl⟩
    obtain ⟨entries, hplace⟩ := fs.exists_folder_of_locateName hhere hlocate
    have hnone := at?_of_isUnused hunused hlocate
    refine ⟨place, name, hlocate, ?_⟩
    rw [FileSystem.renameFile_eq_ok_iff]
    refine ⟨place, name, target, last, outputFile r, ?_, ?_, ?_, hslash, ?_, ?_⟩
    · exact (fs.locateName_insertAt_iff hplace hnone).2 hlocate
    · exact (fs.locateName_insertAt_iff hplace hnone).2 htarget
    · rw [fs.at?_insertAt hplace, Entry.find?_nil]
    · rwa [fs.all_not_isFolder_insertAt hplace hnone rfl]
    · rw [fs.eraseAt_insertAt hfs hplace hnone]

/-- The file system after a report was written to a path: the entry that the path names is a file
with the text of the report, and elsewhere everything is as before. If a link was replaced, what it
led to is still there. -/
def IsWritten (fs : FileSystem) (here : String) (r : Report) (path : String)
    (after : FileSystem) : Prop :=
  ∃ place name, fs.locateName here path = .ok (place, some name) ∧
    after.at? (place ++ [name]) =
      some (.file (Text.Utf8.encode ("\n".intercalate r.sections).toList) outputMode) ∧
    (∀ loc, loc ≠ place ++ [name] → after.bareAt? loc = fs.bareAt? loc) ∧
    ∀ target goal e, fs.at? (place ++ [name]) = some (.link target) →
      fs.lookUp here path = .ok (goal, e) → after.bareAt? goal = some e.bare

theorem isWritten_of_write {after : FileSystem} (hfs : fs.isProper)
    (hhere : fs.IsWorkingFolder here) (hunused : isUnused fs here (temporaryPath here token path))
    (h : write fs here token r path room = (after, .ok ())) : IsWritten fs here r path after := by
  obtain ⟨-, -, -, place, name, hlocate, hold, rfl⟩ := (write_eq_ok_iff hfs hhere hunused).1 h
  obtain ⟨entries, hplace⟩ := fs.exists_folder_of_locateName hhere hlocate
  have helse : ∀ loc, loc ≠ place ++ [name] →
      (fs.insertAt place name (outputFile r)).bareAt? loc = fs.bareAt? loc :=
    fun loc hloc => fs.bareAt?_insertAt hplace rfl hold hloc
  refine ⟨place, name, hlocate, ?_, helse, ?_⟩
  · rw [fs.at?_insertAt hplace, Entry.find?_nil]
    rfl
  · intro target goal e hlink hlook
    obtain ⟨hwalk, he⟩ := fs.lookUp_eq_ok hlook
    obtain ⟨below, horigin⟩ := hhere.origin path
    -- where a path leads to there is no link, so this is not the entry that was replaced
    obtain ⟨found, hfound, hkind⟩ := (fs.leads_of_walk hwalk).not_link horigin
    have hgoal : goal ≠ place ++ [name] := by
      rintro rfl
      rw [hlink, Option.some_inj] at hfound
      simp [← hfound, Entry.isFolder, Entry.isFile] at hkind
    rw [helse goal hgoal, FileSystem.bareAt?, he]
    rfl

theorem generate_eq_error [CharacterNames] {after : FileSystem} {s : Settings} {parse : Parser}
    {notes : List Note} {e : Failure} (hfs : fs.isProper) (hhere : fs.IsWorkingFolder here)
    (hunused : isUnused fs here (temporaryPath here token s.outputPath))
    (h : generate fs here token s parse room = (after, ⟨notes, .error e⟩)) : after = fs := by
  unfold generate at h
  simp only at h
  split at h
  · exact (Prod.mk.inj h).1.symm
  · split at h
    · rename_i hwrite
      rw [← (Prod.mk.inj h).1]
      exact write_eq_error hfs hhere hunused hwrite
    · have hresult := (Prod.mk.inj h).2
      simp at hresult

/-- Writing a report succeeds and changes nothing but the entry that its path names, or it fails and
changes nothing at all, whatever room there is for the text. A run that fails, for whatever reason,
changes nothing. -/
theorem writing_is_all_or_nothing [CharacterNames] (hfs : fs.isProper)
    (hhere : fs.IsWorkingFolder here) (token : String) (room : Option ℕ) :
    (∀ r path, isUnused fs here (temporaryPath here token path) →
      (∃ after, write fs here token r path room = (after, .ok ()) ∧
        IsWritten fs here r path after) ∨
      ∃ e, write fs here token r path room = (fs, .error e)) ∧
    ∀ s parse, isUnused fs here (temporaryPath here token s.outputPath) →
      ∀ after notes e, generate fs here token s parse room = (after, ⟨notes, .error e⟩) →
        after = fs := by
  constructor
  · intro r path hunused
    rcases hw : write fs here token r path room with ⟨after, e | done⟩
    · obtain rfl := write_eq_error hfs hhere hunused hw
      exact .inr ⟨e, rfl⟩
    · exact .inl ⟨after, rfl, isWritten_of_write hfs hhere hunused hw⟩
  · intro s parse hunused after notes e h
    exact generate_eq_error hfs hhere hunused h

/-- A root whose output path is taken by a folder, and a link to a file. -/
def occupied : FileSystem :=
  ⟨[("r", .folder [("project_structure.md", .folder [])]),
    ("s", .folder [("A.cs", .file "class A { }".toUTF8.toList 0o644), ("out.md", .link "A.cs")])]⟩

theorem writing_is_all_or_nothing_occupied :
    (∃ after, write occupied "/" "token" ⟨["a", "b"]⟩ "/s/out.md" = (after, .ok ()) ∧
      IsWritten occupied "/" ⟨["a", "b"]⟩ "/s/out.md" after) ∧
    (∃ e, write occupied "/" "token" ⟨["a", "b"]⟩ "/s/out.md" (some 2) = (occupied, .error e)) ∧
    (∃ e, write occupied "/" "token" ⟨["a", "b"]⟩ "/r/project_structure.md" =
      (occupied, .error e)) ∧
    ∃ outcome, generate occupied "/" "token" ⟨"/r", none, "bin"⟩ csharp = (occupied, outcome) ∧
      outcome.result.isOk = false := by
  have hwriting := @writing_is_all_or_nothing occupied "/" _ (by decide +kernel)
    ⟨by decide +kernel, by decide +kernel⟩ "token"
  have hfails : ∀ path room, isUnused occupied "/" (temporaryPath "/" "token" path) →
      (write occupied "/" "token" ⟨["a", "b"]⟩ path room).2.isOk = false →
      ∃ e, write occupied "/" "token" ⟨["a", "b"]⟩ path room = (occupied, .error e) := by
    intro path room hunused hno
    refine ((hwriting room).1 ⟨["a", "b"]⟩ path hunused).resolve_left ?_
    rintro ⟨after, hafter, -⟩
    rw [hafter] at hno
    cases hno
  refine ⟨?_, hfails _ _ (by decide +kernel) (by decide +kernel),
    hfails _ _ (by decide +kernel) (by decide +kernel), ?_⟩
  · refine ((hwriting none).1 ⟨["a", "b"]⟩ "/s/out.md" (by decide +kernel)).resolve_right ?_
    rintro ⟨e, he⟩
    have hok : (write occupied "/" "token" ⟨["a", "b"]⟩ "/s/out.md").2.isOk := by decide +kernel
    rw [he] at hok
    cases hok
  · have hno : (generate occupied "/" "token" ⟨"/r", none, "bin"⟩ csharp).2.result.isOk =
        false := by
      decide +kernel
    rcases hg : generate occupied "/" "token" ⟨"/r", none, "bin"⟩ csharp with
      ⟨after, notes, e | path⟩
    · obtain rfl :=
        (hwriting none).2 ⟨"/r", none, "bin"⟩ csharp (by decide +kernel) after notes e hg
      exact ⟨_, rfl, rfl⟩
    · rw [hg] at hno
      cases hno

end Outline.Report
