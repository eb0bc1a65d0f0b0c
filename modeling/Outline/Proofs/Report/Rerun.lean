import Outline.Proofs.Report.Output

set_option autoImplicit false

/-!
# Running again

A second run writes the same report over the first one, so it leaves the file system as it is, and
so does any number of further runs. For this the report must not be in its own way: no path or link
that a run follows may lead through the output.
-/
namespace Outline

namespace Report

variable {fs : FileSystem} {here token token' : String} {s : Settings} {parse : Parser}

def isTokenChar (c : Char) : Bool := c.isLower || c.isDigit || c == '_'

/-- Whether a text can be the token of a temporary file: eight lower-case letters, digits and
underscores. -/
def isToken (token : String) : Bool := token.utf8ByteSize == 8 && token.toList.all isTokenChar

theorem utf8ByteSize_temporaryName (h : isToken token) :
    (temporaryName token).utf8ByteSize = 34 := by
  rw [isToken, Bool.and_eq_true, beq_iff_eq] at h
  simp only [temporaryName, String.utf8ByteSize_append, h.1]
  decide +kernel

theorem all_temporaryName (h : isToken token) :
    (temporaryName token).toList.all fun c => c == '.' || isTokenChar c := by
  have hfront : ("." ++ Settings.outputName ++ ".").toList.all
      (fun c => c == '.' || isTokenChar c) = true := by decide +kernel
  have hback : ".tmp".toList.all (fun c => c == '.' || isTokenChar c) = true := by decide +kernel
  rw [isToken, Bool.and_eq_true] at h
  have htoken : token.toList.all (fun c => c == '.' || isTokenChar c) = true := by
    rw [List.all_eq_true] at h ⊢
    intro c hc
    rw [h.2 c hc, Bool.or_true]
  rw [temporaryName, String.toList_append, String.toList_append, List.all_append, List.all_append,
    hfront, htoken, hback]
  rfl

theorem not_mem_temporaryName (h : isToken token) {c : Char}
    (hc : (c == '.' || isTokenChar c) = false) : c ∉ (temporaryName token).toList := by
  intro hm
  rw [List.all_eq_true.1 (all_temporaryName h) c hm] at hc
  cases hc

theorem isName_temporaryName (h : isToken token) : Path.IsName (temporaryName token) := by
  have hsize := utf8ByteSize_temporaryName h
  have hne : ∀ text : String, text.utf8ByteSize ≠ 34 → temporaryName token ≠ text := by
    rintro text htext rfl
    exact htext hsize
  exact ⟨⟨hne "" (by decide), not_mem_temporaryName h (by decide)⟩, hne "." (by decide),
    hne ".." (by decide)⟩

/-- With any token, the temporary file is made in the same folder. -/
theorem locateName_temporaryPath {path name : String} {place : Location} (ht : isToken token)
    (ht' : isToken token')
    (h : fs.locateName here (temporaryPath here token path) = .ok (place, some name)) :
    fs.locateName here (temporaryPath here token' path) =
      .ok (place, some (temporaryName token')) := by
  have hname := isName_temporaryName ht
  have hname' := isName_temporaryName ht'
  have hnull : ∀ t, isToken t → '\x00' ∉ (temporaryName t).toList := fun _ hisToken =>
    not_mem_temporaryName hisToken (by decide)
  have hsize : (temporaryName token').utf8ByteSize = (temporaryName token).utf8ByteSize := by
    rw [utf8ByteSize_temporaryName ht, utf8ByteSize_temporaryName ht']
  rw [FileSystem.locateName_eq_ok_iff, temporaryPath] at h ⊢
  generalize Path.folderName (Path.absolute here path) = folder at h ⊢
  obtain ⟨before, hbefore⟩ := Path.exists_join_eq_append folder
  -- only the length of a path and its null characters can make it faulty
  have hfault : FileSystem.pathFault? (Path.join folder (temporaryName token')) =
      FileSystem.pathFault? (Path.join folder (temporaryName token)) := by
    rw [hbefore _ (Path.isAbsolute_of_isPiece hname.1),
      hbefore _ (Path.isAbsolute_of_isPiece hname'.1)]
    exact FileSystem.pathFault?_append hsize ⟨hname.1.1, hnull token ht⟩
      ⟨hname'.1.1, hnull token' ht'⟩
  rw [FileSystem.parentAndName_join hname, FileSystem.origin_join hname.1] at h
  rw [FileSystem.parentAndName_join hname', FileSystem.origin_join hname'.1, hfault,
    utf8ByteSize_temporaryName ht']
  exact ⟨h.1, rfl, by decide, h.2.2.2⟩

/-- The temporary file is made in the folder that the absolute path of the root names. -/
theorem steps_outputFolder (hhere : Path.isAbsolute here) :
    Path.steps (Path.folderName (Path.absolute here s.outputPath)) =
      Path.steps (Path.absolute here s.root) := by
  have hname : ∀ name ∈ [Settings.outputName], Path.IsName name := by decide +kernel
  have hsteps := Path.fullSteps_foldl_join hhere s.root hname
  change Path.fullSteps here s.outputPath = _ at hsteps
  rw [Path.steps_folderName_absolute hhere (by simp [hsteps]), hsteps, List.dropLast_concat]
  rfl

theorem generate_eq_ok_iff [CharacterNames] {after : FileSystem} {notes : List Note}
    {path : String} :
    generate fs here token s parse = (after, ⟨notes, .ok path⟩) ↔
      ∃ r, (build fs here s parse).result = .ok r ∧
        write fs here token r s.outputPath = (after, .ok ()) ∧
        (build fs here s parse).notes ++
          [⟨.info, .report, "Report written to " ++ s.outputPath⟩] = notes ∧
        s.outputPath = path := by
  unfold generate
  simp only
  cases (build fs here s parse).result with
  | error e => simp
  | ok r =>
    rcases hw : write fs here token r s.outputPath with ⟨after', e | _⟩
    · simp [hw]
    · simp [hw]

/-- What a run that succeeds leaves behind: a file at the place of the output, and everything else
as it was. -/
structure Leaves (fs : FileSystem) (here : String) (s : Settings) (r : Report) (place : Location)
    (after : FileSystem) : Prop where
  located : fs.locateName here s.outputPath = .ok (place, some Settings.outputName)
  differ : fs.DifferAt (· = place ++ [Settings.outputName]) after
  proper : after.isProper
  folder : ∃ entries, after.at? place = some (.folder entries)
  file : after.at? (place ++ [Settings.outputName]) = some (outputFile r)

theorem exists_leaves_of_write {after : FileSystem} {r : Report} (hfs : fs.isProper)
    (hhere : fs.IsWorkingFolder here)
    (hunused : isUnused fs here (temporaryPath here token s.outputPath))
    (h : write fs here token r s.outputPath = (after, .ok ())) :
    ∃ place, Leaves fs here s r place after := by
  obtain ⟨-, -, -, place, name, hlocate, hold, rfl⟩ := (write_eq_ok_iff hfs hhere hunused).1 h
  obtain ⟨entries, hplace⟩ := fs.exists_folder_of_locateName hhere hlocate
  have hname := fs.isName_of_locateName hlocate
  obtain ⟨rfl, -⟩ := locateName_outputPath hlocate
  have hdiffer := differAt_output hplace hold r
  refine ⟨place, hlocate, hdiffer, fs.isProper_insertAt hfs place hname rfl,
    hdiffer.exists_folder hplace, ?_⟩
  rw [fs.at?_insertAt hplace, Entry.find?_nil]

theorem Leaves.write_eq {after : FileSystem} {r : Report} {place : Location}
    (h : Leaves fs here s r place after) (hfs : fs.isProper) (hhere : fs.IsWorkingFolder here)
    (ht : isToken token) (ht' : isToken token')
    (hunused : isUnused fs here (temporaryPath here token s.outputPath))
    (hunused' : isUnused after here (temporaryPath here token' s.outputPath))
    (hwrite : write fs here token r s.outputPath = (after, .ok ()))
    (hroot : ∀ path, path = s.root ∨ path = Path.absolute here s.root →
      fs.PathAvoids (· = place ++ [Settings.outputName]) here path) :
    write after here token' r s.outputPath = (after, .ok ()) := by
  obtain ⟨hfits, ⟨tmp, last, htmp⟩, hslash, -⟩ := (write_eq_ok_iff hfs hhere hunused).1 hwrite
  have hfolder : FileSystem.origin here (Path.folderName (Path.absolute here s.outputPath)) =
      FileSystem.origin here (Path.absolute here s.root) := by
    have ha := Path.isAbsolute_absolute hhere.isAbsolute
    rw [FileSystem.origin, FileSystem.origin, Path.isAbsolute_folderName (ha s.outputPath),
      ha s.root]
  -- the temporary file is made in the folder of the absolute path, the output in that of the path
  -- as it is given; the two need not be the same
  have hlocate : after.locateName here (temporaryPath here token' s.outputPath) =
      .ok (tmp, some (temporaryName token')) :=
    h.differ.locateName_join_eq (isName_temporaryName ht')
      ⟨hfolder, steps_outputFolder hhere.isAbsolute⟩ (hroot _ (.inr rfl))
      (locateName_temporaryPath ht ht' htmp)
  have hname : Path.IsName Settings.outputName := fs.isName_of_locateName h.located
  have houtput : after.locateName here s.outputPath = .ok (place, some Settings.outputName) :=
    h.differ.locateName_join_eq hname ⟨rfl, rfl⟩ (hroot _ (.inl rfl)) h.located
  obtain ⟨entries, hplace⟩ := h.folder
  rw [write_eq_ok_iff h.proper (h.differ.isWorkingFolder hhere) hunused']
  refine ⟨hfits, ⟨tmp, _, hlocate⟩, hslash, place, _, houtput, ?_, ?_⟩
  · rw [h.file]
    rfl
  · exact (after.insertAt_eq_self h.proper hplace h.file).symm

/-- Runs one after the other, each with a token of its own; gives the file system afterwards and the
outcome of each run. -/
def generateAll [CharacterNames] (fs : FileSystem) (here : String) (s : Settings) (parse : Parser) :
    List String → FileSystem × List (Outcome String)
  | [] => (fs, [])
  | token :: tokens =>
    let (after, outcome) := generate fs here token s parse
    let (last, outcomes) := generateAll after here s parse tokens
    (last, outcome :: outcomes)

theorem generateAll_eq [CharacterNames] {outcome : Outcome String} {tokens : List String}
    (h : ∀ token ∈ tokens, generate fs here token s parse = (fs, outcome)) :
    generateAll fs here s parse tokens = (fs, tokens.map fun _ => outcome) := by
  induction tokens with
  | nil => rfl
  | cons token tokens ih =>
    rw [List.forall_mem_cons] at h
    simp only [generateAll, h.1, ih h.2, List.map_cons]

/-- Generating a report is idempotent: after a run that succeeds, the same report is built again,
and any number of further runs succeed with the same outcome and change nothing. -/
def IsIdempotent [CharacterNames] (fs : FileSystem) (here : String) (s : Settings)
    (parse : Parser) : Prop :=
  ∀ token after notes path, isToken token →
    isUnused fs here (temporaryPath here token s.outputPath) →
    generate fs here token s parse = (after, ⟨notes, .ok path⟩) →
    build after here s parse = build fs here s parse ∧
    ∀ tokens, (∀ token' ∈ tokens, isToken token' ∧
        isUnused after here (temporaryPath here token' s.outputPath)) →
      generateAll after here s parse tokens = (after, tokens.map fun _ => ⟨notes, .ok path⟩)

/-! ## When the output is out of the way -/

/-- Generating a report is idempotent if nothing that a run follows leads through the output. -/
theorem generate_idempotent [CharacterNames] (hfs : fs.isProper) (hhere : fs.IsWorkingFolder here)
    (ha : ∀ f place name, Filter.read s.filter = .ok f →
      fs.locateName here s.outputPath = .ok (place, some name) →
      OutputAvoided fs (place ++ [name]) here s f) (parse : Parser) :
    IsIdempotent fs here s parse := by
  intro token after notes path ht hunused h
  obtain ⟨r, hbuild, hwrite, hnotes, hpath⟩ := generate_eq_ok_iff.1 h
  obtain ⟨place, hleaves⟩ := exists_leaves_of_write hfs hhere hunused hwrite
  have havoided := fun f hf => ha f place _ hf hleaves.located
  have hagain : build after here s parse = build fs here s parse :=
    build_after_output hfs hleaves.proper hhere hleaves.differ hleaves.file havoided hbuild
  refine ⟨hagain, fun tokens htokens => generateAll_eq fun token' htoken' => ?_⟩
  obtain ⟨ht', hunused'⟩ := htokens token' htoken'
  obtain ⟨l, hdescribes, -⟩ := build_eq_ok_iff.1 hbuild
  have hroot := (havoided l.filter hdescribes.filter_eq).root
  rw [generate_eq_ok_iff, hagain]
  exact ⟨r, hbuild, hleaves.write_eq hfs hhere ht ht' hunused hunused' hwrite hroot, hnotes, hpath⟩

/-- A root whose output is a link to the folder of entities. -/
def relinked : FileSystem :=
  ⟨[("r", .folder [("project_structure.md", .link "../e")]),
    ("e", .folder [("A.cs", .file "class A { }".toUTF8.toList 0o644)])]⟩

theorem outputAvoided_relinked (f : Filter) :
    OutputAvoided relinked ["r", "project_structure.md"] "/" ⟨"/r", some "/e", "bin"⟩ f := by
  have hroot : relinked.listFolder "/" "/r" =
      .ok (["r"], [("project_structure.md", .link "../e")]) :=
    FileSystem.listFolder_of_locate (by decide +kernel) rfl
  have hentities : relinked.listFolder "/" "/e" =
      .ok (["e"], [("A.cs", .file "class A { }".toUTF8.toList 0o644)]) :=
    FileSystem.listFolder_of_locate (by decide +kernel) rfl
  have houtput : ∀ loc below, relinked.at? loc = some (.folder below) →
      loc ≠ ["r", "project_structure.md"] := by
    rintro _ below hb rfl
    cases hb
  refine ⟨⟨?_, ?_⟩, ?_, ?_⟩
  · rintro path ⟨⟩
    exact FileSystem.pathAvoids_of_folder (by decide +kernel)
      (relinked.at?_of_listFolder hentities) houtput
  · rintro base (rfl | hbase) place name target hlink hsource
    · obtain ⟨-, rfl, -⟩ := hlink.eq_of_singleton hroot rfl
      exact absurd hsource (by decide +kernel)
    · cases hbase
      obtain ⟨-, -, he⟩ := hlink.eq_of_singleton hentities rfl
      cases he
  · have habsolute : Path.absolute "/" "/r" = "/r" := by decide +kernel
    intro path hpath
    rw [habsolute, or_self] at hpath
    subst hpath
    exact FileSystem.pathAvoids_of_folder (by decide +kernel) (relinked.at?_of_listFolder hroot)
      houtput
  · intro place name target hlink hother
    obtain ⟨rfl, rfl, -⟩ := hlink.eq_of_singleton hroot rfl
    exact absurd rfl hother

theorem generate_idempotent_relinked : ∃ after notes path,
    generate relinked "/" "token_00" ⟨"/r", some "/e", "bin"⟩ csharp = (after, ⟨notes, .ok path⟩) ∧
    build after "/" ⟨"/r", some "/e", "bin"⟩ csharp =
      build relinked "/" ⟨"/r", some "/e", "bin"⟩ csharp ∧
    generateAll after "/" ⟨"/r", some "/e", "bin"⟩ csharp ["token_01", "token_02"] =
      (after, [⟨notes, .ok path⟩, ⟨notes, .ok path⟩]) := by
  have hidempotent : IsIdempotent relinked "/" ⟨"/r", some "/e", "bin"⟩ csharp := by
    refine generate_idempotent (by decide +kernel) ⟨by decide +kernel, by decide +kernel⟩ ?_ csharp
    intro f place name _ hlocate
    have houtput : relinked.locateName "/" (Settings.outputPath ⟨"/r", some "/e", "bin"⟩) =
        .ok (["r"], some "project_structure.md") := by decide +kernel
    rw [houtput] at hlocate
    cases hlocate
    exact outputAvoided_relinked f
  have hok : (generate relinked "/" "token_00" ⟨"/r", some "/e", "bin"⟩ csharp).2.result.isOk := by
    decide +kernel
  have hfree : ∀ token' ∈ ["token_01", "token_02"], isToken token' ∧
      isUnused (generate relinked "/" "token_00" ⟨"/r", some "/e", "bin"⟩ csharp).1 "/"
        (temporaryPath "/" token' "/r/project_structure.md") := by
    decide +kernel
  rcases hrun : generate relinked "/" "token_00" ⟨"/r", some "/e", "bin"⟩ csharp with
    ⟨after, notes, e | path⟩
  · rw [hrun] at hok
    cases hok
  · rw [hrun] at hfree
    have h := hidempotent "token_00" after notes path (by decide +kernel) (by decide +kernel) hrun
    exact ⟨after, notes, path, rfl, h.1, h.2 ["token_01", "token_02"] hfree⟩

/-! ## When it is in the way -/

/-- A link that leads to something below the output. -/
def noted : FileSystem := ⟨[("r", .folder [("notes", .link "project_structure.md/old")])]⟩

/-- A root that is reached through its own output. -/
def looped : FileSystem :=
  ⟨[("d", .folder [("project_structure.md", .link "../e")]), ("e", .folder []),
    ("w", .link "d/project_structure.md/../d")]⟩

/-- A root whose absolute path names another folder, which is reached through the output. -/
def shifted : FileSystem :=
  ⟨[("k", .link "m/n"),
    ("m", .folder [("n", .folder []), ("w", .folder [("project_structure.md", .link "../../e")])]),
    ("e", .folder []), ("w", .link "m/w/project_structure.md/..")]⟩

theorem not_isIdempotent (ht : isToken token)
    (hunused : isUnused fs here (temporaryPath here token s.outputPath))
    (hok : (generate fs here token s parse).2.result.isOk) (ht' : isToken token')
    (hunused' : isUnused (generate fs here token s parse).1 here
      (temporaryPath here token' s.outputPath))
    (hfails : (generate (generate fs here token s parse).1 here token' s parse).2.result.isOk =
      false) : ¬ IsIdempotent fs here s parse := by
  intro h
  rcases hrun : generate fs here token s parse with ⟨after, notes, e | path⟩
  · rw [hrun] at hok
    cases hok
  · rw [hrun] at hunused' hfails
    have hall := (h token after notes path ht hunused hrun).2 [token']
      (List.forall_mem_singleton.2 ⟨ht', hunused'⟩)
    have hagain : (generate after here token' s parse).2 = ⟨notes, .ok path⟩ :=
      (List.cons.inj (congrArg Prod.snd hall)).1
    rw [hagain] at hfails
    cases hfails

/-- A run fails if there is no answer about a link in the root. -/
theorem generate_fails_of_not_isAnswered [CharacterNames] {top : Location} {name : String}
    (hfs : fs.isProper)
    (hname : (Filter.read s.filter).toOption.all fun f => !f.ignores (Folder.ownName here s.root))
    (hlocate : fs.locate here s.root = .ok top)
    (hlink : (fs.at? (top ++ [name])).any fun e =>
      !e.isFolder && !Folder.isAnswered fs here (fun _ => false) s.root name e) :
    (generate fs here token s parse).2.result.isOk = false := by
  rcases hrun : generate fs here token s parse with ⟨after, notes, e | path⟩
  · rfl
  obtain ⟨r, hbuild, -⟩ := generate_eq_ok_iff.1 hrun
  obtain ⟨l, hdescribes, -⟩ := build_eq_ok_iff.1 hbuild
  have hroot : l.filter.ignores (Folder.ownName here s.root) = false := by
    simpa [hdescribes.filter_eq, Except.toOption] using hname
  obtain ⟨e, he, hbroken⟩ := (Option.any_eq_true _ _).1 hlink
  obtain ⟨entries, htop⟩ := fs.exists_folder_of_at?_append he
  have hl := FileSystem.listFolder_of_locate hlocate htop
  rw [fs.at?_append_of_folder htop] at he
  have hanswered := Folder.isAnswered_of_assemble (fs.isProper_of_at? hfs htop)
    (Folder.assemble_of_snapshot hroot hl hdescribes.folder_eq) (List.forall_mem_nil _) he
  cases e with
  | file bytes mode => cases hbroken
  | folder below => cases hbroken
  | link target =>
    rw [Folder.isAnswered, List.foldl_nil] at hanswered
    simp [Folder.isAnswered, hanswered] at hbroken

/-- A run is not idempotent although its listings avoid the output. -/
def Interferes [CharacterNames] (fs : FileSystem) (here : String) (s : Settings) : Prop :=
  fs.isProper ∧ fs.IsWorkingFolder here ∧
  (∀ f place name, Filter.read s.filter = .ok f →
    fs.locateName here s.outputPath = .ok (place, some name) →
    ListingAvoids fs (place ++ [name]) here s f) ∧
  ¬ IsIdempotent fs here s csharp

theorem listingAvoids_of_singleton {top output : Location} {only : String} {e : Entry} {f : Filter}
    (hentities : s.entities = none) (hl : fs.listFolder here s.root = .ok (top, [(only, e)]))
    (he : e.isFolder = false) (honly : Path.isSource only = false) :
    ListingAvoids fs output here s f := by
  refine ⟨fun path hpath => ?_, ?_⟩
  · rw [hentities] at hpath
    cases hpath
  · rintro base (rfl | hbase) place name target hlink hsource
    · obtain ⟨-, rfl, -⟩ := hlink.eq_of_singleton hl he
      rw [honly] at hsource
      cases hsource
    · rw [hentities] at hbase
      cases hbase

theorem noted_interferes : Interferes noted "/" ⟨"/r", none, "bin"⟩ := by
  have hl : noted.listFolder "/" "/r" =
      .ok (["r"], [("notes", .link "project_structure.md/old")]) :=
    FileSystem.listFolder_of_locate (by decide +kernel) rfl
  refine ⟨by decide +kernel, ⟨by decide +kernel, by decide +kernel⟩, ?_, ?_⟩
  · exact fun _ _ _ _ _ => listingAvoids_of_singleton rfl hl rfl (by decide +kernel)
  · refine @not_isIdempotent noted "/" "first_00" "second_0" ⟨"/r", none, "bin"⟩ csharp
      (by decide +kernel) (by decide +kernel) (by decide +kernel) (by decide +kernel)
      (by decide +kernel) ?_
    -- after the first run, the link can no longer be followed, and the root has no snapshot
    exact @generate_fails_of_not_isAnswered _ "/" "second_0" ⟨"/r", none, "bin"⟩ csharp _ ["r"]
      "notes" (by decide +kernel) (by decide +kernel) (by decide +kernel) (by decide +kernel)

theorem looped_interferes : Interferes looped "/" ⟨"/w", none, "bin"⟩ := by
  have hl : looped.listFolder "/" "/w" = .ok (["d"], [("project_structure.md", .link "../e")]) :=
    FileSystem.listFolder_of_locate (by decide +kernel) rfl
  refine ⟨by decide +kernel, ⟨by decide +kernel, by decide +kernel⟩, ?_, ?_⟩
  · exact fun _ _ _ _ _ => listingAvoids_of_singleton rfl hl rfl (by decide +kernel)
  · -- after the first run, the root can no longer be reached
    refine @not_isIdempotent looped "/" "first_00" "second_0" ⟨"/w", none, "bin"⟩ csharp
      ?_ ?_ ?_ ?_ ?_ ?_ <;> decide +kernel

theorem shifted_interferes : Interferes shifted "/" ⟨"/k/../w", none, "bin"⟩ := by
  have hl : shifted.listFolder "/" "/k/../w" =
      .ok (["m", "w"], [("project_structure.md", .link "../../e")]) :=
    FileSystem.listFolder_of_locate (by decide +kernel) rfl
  refine ⟨by decide +kernel, ⟨by decide +kernel, by decide +kernel⟩, ?_, ?_⟩
  · exact fun _ _ _ _ _ => listingAvoids_of_singleton rfl hl rfl (by decide +kernel)
  · -- after the first run, there is no folder for the temporary file
    refine @not_isIdempotent shifted "/" "first_00" "second_0" ⟨"/k/../w", none, "bin"⟩ csharp
      ?_ ?_ ?_ ?_ ?_ ?_ <;> decide +kernel

/-- It is not enough that the listings avoid the output. -/
theorem generate_not_idempotent :
    Interferes noted "/" ⟨"/r", none, "bin"⟩ ∧ Interferes looped "/" ⟨"/w", none, "bin"⟩ ∧
      Interferes shifted "/" ⟨"/k/../w", none, "bin"⟩ :=
  ⟨noted_interferes, looped_interferes, shifted_interferes⟩

end Report

end Outline
