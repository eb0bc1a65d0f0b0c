import Outline.Proofs.FileSystem.Limits
import Outline.Proofs.Folder.Snapshot
import Outline.Proofs.Outcome

set_option autoImplicit false

/-!
# Drawing and enumeration agree

In a file system whose links are settled, a folder has a snapshot exactly if no limit is met at the
paths that the snapshot asks about. Its drawing shows the files that the enumeration of source files
lists, except for links that lead to nothing.
-/
namespace Outline.Folder

/-- The snapshot of the folder that a base leads to asks about a path: it is that of a link, or of a
folder that is not ignored, in a folder that the snapshot looks into. -/
def Asks (fs : FileSystem) (here : String) (ignored : String → Bool) (base path : String) : Prop :=
  ignored (ownName here base) = false ∧ ∃ top entries folders name e,
    fs.listFolder here base = .ok (top, entries) ∧ (∀ folder ∈ folders, ignored folder = false) ∧
    fs.at? (top ++ folders ++ [name]) = some e ∧ path = (folders ++ [name]).foldl Path.join base ∧
    e.isFile = false ∧ (e.isFolder → ignored name = false)

variable {fs : FileSystem} {here : String} {ignored : String → Bool}

theorem lines_of_ignored {path : String} {f : Folder}
    (hname : ignored (ownName here path)) (h : snapshot fs here ignored path = .ok f) :
    f.lines ignored = [] := by
  unfold snapshot at h
  rw [if_pos hname] at h
  cases h
  exact if_pos hname

theorem exists_listFolder_of_snapshot {path : String} {f : Folder}
    (hname : ignored (ownName here path) = false) (h : snapshot fs here ignored path = .ok f) :
    ∃ place entries, fs.listFolder here path = .ok (place, entries) ∧
      assemble (ownName here path) (showEntries fs here ignored path entries) = .ok f := by
  unfold snapshot at h
  rw [if_neg (by simp [hname])] at h
  cases hl : fs.listFolder here path with
  | error e => simp [hl, bind, Except.bind] at h
  | ok found =>
    rw [hl] at h
    exact ⟨found.1, found.2, rfl, h⟩

theorem assemble_of_snapshot {path : String} {f : Folder} {place : Location}
    {entries : List (String × Entry)} (hname : ignored (ownName here path) = false)
    (hl : fs.listFolder here path = .ok (place, entries))
    (h : snapshot fs here ignored path = .ok f) :
    assemble (ownName here path) (showEntries fs here ignored path entries) = .ok f := by
  obtain ⟨_, _, hl', ha⟩ := exists_listFolder_of_snapshot hname h
  rw [hl, Except.ok.injEq, Prod.mk.injEq] at hl'
  rw [hl'.2]
  exact ha

theorem exists_snapshot_of_showEntries {path : String} {place : Location}
    {entries : List (String × Entry)} (hl : fs.listFolder here path = .ok (place, entries))
    (h : (showEntries fs here ignored path entries).all (·.2.isOk)) :
    ∃ f, snapshot fs here ignored path = .ok f := by
  unfold snapshot
  by_cases hname : ignored (ownName here path)
  · exact ⟨_, if_pos hname⟩
  · rw [if_neg hname, hl]
    refine exists_assemble (ownName here path) fun part hp => ?_
    exact Except.exists_eq_ok (List.all_eq_true.1 h part hp)

/-- The drawing of a snapshot shows the ways to files and to links that lead to files. -/
theorem mem_shownWays_snapshot_iff {path : String} {f : Folder} {place : Location}
    {entries : List (String × Entry)} (hfs : fs.isProper)
    (hl : fs.listFolder here path = .ok (place, entries))
    (h : snapshot fs here ignored path = .ok f) (way : List String) :
    way ∈ shownWays (f.lines ignored) ↔ ignored (ownName here path) = false ∧
      (Entry.folder entries).Offers ignored (fs.isFolder here) (isShown fs here) path way := by
  have hproper := fs.isProper_of_at? hfs (fs.at?_of_listFolder hl)
  cases hname : ignored (ownName here path) with
  | true => simp [lines_of_ignored hname h, shownWays, readWays]
  | false =>
    replace h := assemble_of_snapshot hname hl h
    have hoffers : ∀ way, way ∈ f.ways ↔
        (Entry.folder entries).Offers ignored (fs.isFolder here) (isShown fs here) path way :=
      fun way => holdsOffers hproper entries path (ownName here path) f way rfl h
    have hends : ∀ way ∈ f.ways, EndsWithFile way := by
      intro way hway last hlast hslash
      have hn := ((hoffers way).1 hway).isName hproper last (List.mem_of_getLast? hlast)
      exact hn.1.2 (List.mem_of_getLast? hslash)
    obtain ⟨shown, rfl, -⟩ := assemble_eq_ok h
    rw [mem_shownWays_iff hends, hoffers]
    constructor
    · rintro ⟨-, hway, -⟩
      exact ⟨rfl, hway⟩
    · rintro ⟨-, hway⟩
      exact ⟨hname, hway, hway.unignored.2⟩

theorem unignored_of_mem_shownWays {path : String} {f : Folder} {way : List String}
    (hfs : fs.isProper) (h : snapshot fs here ignored path = .ok f)
    (hway : way ∈ shownWays (f.lines ignored)) :
    ignored (ownName here path) = false ∧ ∀ folder ∈ way.dropLast, ignored folder = false := by
  cases hname : ignored (ownName here path) with
  | true =>
    rw [lines_of_ignored hname h] at hway
    cases hway
  | false =>
    obtain ⟨place, entries, hl, -⟩ := exists_listFolder_of_snapshot hname h
    exact ⟨rfl, ((mem_shownWays_snapshot_iff hfs hl h way).1 hway).2.unignored.2⟩

/-! ## Which folders have a snapshot -/

section Below

variable {path name : String} {place : Location} {entries : List (String × Entry)}
  {folders : List String} {e : Entry}

theorem not_exceedsLimit_of_isAnswered (hkind : e.isFile = false)
    (hname : e.isFolder → ignored name = false) (h : isAnswered fs here ignored path name e) :
    fs.exceedsLimit here (Path.join path name) = false := by
  cases e with
  | file bytes mode => cases hkind
  | link target =>
    rw [isAnswered] at h
    rw [FileSystem.exceedsLimit]
    cases hl : fs.lookUp here (Path.join path name) with
    | ok found => rfl
    | error e =>
      rw [hl] at h
      simp [show e.cause = .missing by simpa using h, FileCause.isLimit]
  | folder below =>
    rw [isAnswered, hname rfl, Bool.false_or] at h
    obtain ⟨goal, opened, hl⟩ := fs.exists_listFolder_of_isFolder h
    rw [FileSystem.exceedsLimit, fs.listFolder_eq_ok hl]

theorem isAnswered_of_not_exceedsLimit (hfs : fs.isProper)
    (hl : fs.listFolder here path = .ok (place, entries))
    (he : fs.at? (place ++ folders ++ [name]) = some e)
    (hsettled : fs.settledAt (place ++ folders) name e)
    (hlimit : e.isFile = false → (e.isFolder → ignored name = false) →
      fs.exceedsLimit here ((folders ++ [name]).foldl Path.join path) = false) :
    isAnswered fs here ignored (folders.foldl Path.join path) name e := by
  have hjoin : (folders ++ [name]).foldl Path.join path =
      Path.join (folders.foldl Path.join path) name := by simp
  cases e with
  | file bytes mode => rfl
  | folder below =>
    rw [isAnswered, Bool.or_eq_true, or_iff_not_imp_left, Bool.not_eq_true, ← hjoin]
    intro hname
    exact fs.isFolder_below hfs hl he (hlimit rfl fun _ => hname)
  | link target =>
    have hnames := fs.isName_of_at?_append hfs (List.append_assoc place folders [name] ▸ he)
    have hsame := fs.lookUp_below hl hnames he (hlimit rfl (by simp [Entry.isFolder]))
    rw [isAnswered, ← hjoin]
    rw [FileSystem.settledAt] at hsettled
    cases hlook : fs.lookUp here ((folders ++ [name]).foldl Path.join path) with
    | ok found => rfl
    | error e =>
      cases hfollow : fs.follow (place ++ folders) name with
      | ok found =>
        rw [hlook, hfollow] at hsame
        cases hsame
      | error cause =>
        rw [hlook, hfollow] at hsame
        cases hsame
        rw [hfollow] at hsettled
        cases cause <;> first | rfl | cases hsettled

end Below

theorem exists_snapshot_iff {path : String} (hfs : fs.isProper) (hlinks : fs.linksSettled)
    (hfolder : fs.isFolder here path) : (∃ f, snapshot fs here ignored path = .ok f) ↔
      ∀ asked, Asks fs here ignored path asked → fs.exceedsLimit here asked = false := by
  obtain ⟨place, entries, hl⟩ := fs.exists_listFolder_of_isFolder hfolder
  have hplace := fs.at?_of_listFolder hl
  have hproper := fs.isProper_of_at? hfs hplace
  constructor
  · rintro ⟨f, h⟩ asked ⟨hname, top, found, folders, name, e, hl', hfolders, he, rfl, hkind, hign⟩
    rw [hl, Except.ok.injEq, Prod.mk.injEq] at hl'
    obtain ⟨rfl, rfl⟩ := hl'
    have ha := assemble_of_snapshot hname hl h
    rw [List.append_assoc, fs.at?_append_of_folder hplace] at he
    rw [List.foldl_append]
    exact not_exceedsLimit_of_isAnswered hkind hign (isAnswered_of_assemble hproper ha hfolders he)
  · intro hlimit
    unfold snapshot
    by_cases hname : ignored (ownName here path)
    · exact ⟨_, if_pos hname⟩
    · rw [if_neg hname, hl]
      rw [Bool.not_eq_true] at hname
      refine exists_assemble_showEntries rfl hproper path (ownName here path) ?_
      intro folders name e hfolders hfound
      have he : fs.at? (place ++ folders ++ [name]) = some e := by
        rw [List.append_assoc, fs.at?_append_of_folder hplace, hfound]
      have hsettled := fs.settledAt_of_find? hproper (fs.settledAmong_of_at? hfs hlinks hplace)
        hfound
      exact isAnswered_of_not_exceedsLimit hfs hl he hsettled fun hkind hign =>
        hlimit _ ⟨hname, place, entries, folders, name, e, hl, hfolders, he, rfl, hkind, hign⟩

/-! ## The files of a drawing -/

theorem isShown_eq {path name : String} {place : Location} {entries : List (String × Entry)}
    {folders : List String} {e : Entry} (hfs : fs.isProper)
    (hl : fs.listFolder here path = .ok (place, entries))
    (he : fs.at? (place ++ folders ++ [name]) = some e)
    (h : isAnswered fs here ignored (folders.foldl Path.join path) name e) :
    isShown fs here ((folders ++ [name]).foldl Path.join path) e =
      (Source.countsAsFile fs here ((folders ++ [name]).foldl Path.join path) e &&
        !fs.isDangling (place ++ folders ++ [name])) := by
  cases e with
  | file bytes mode =>
    have hdangling : fs.isDangling (place ++ folders ++ [name]) = false := by
      rw [FileSystem.isDangling, he]
    rw [hdangling]
    rfl
  | folder below => rfl
  | link target =>
    have hlimit := not_exceedsLimit_of_isAnswered rfl (by simp [Entry.isFolder]) h
    have hjoin : (folders ++ [name]).foldl Path.join path =
        Path.join (folders.foldl Path.join path) name := by simp
    rw [isAnswered, ← hjoin] at h
    rw [← hjoin] at hlimit
    have hnames := fs.isName_of_at?_append hfs (List.append_assoc place folders [name] ▸ he)
    have hsame := fs.lookUp_below hl hnames he hlimit
    have hdangling := fs.isDangling_link he
    obtain ⟨above, habove⟩ := fs.exists_folder_of_at?_append he
    rw [isShown, Source.countsAsFile, FileSystem.isFolder]
    rcases hlook : fs.lookUp here ((folders ++ [name]).foldl Path.join path) with e | ⟨goal, e⟩ <;>
      rcases hfollow : fs.follow (place ++ folders) name with cause | found <;>
      rw [hlook, hfollow] at hsame <;> cases hsame
    · rw [hlook] at h
      rw [hdangling.2 (by rw [hfollow, show cause = .missing by simpa using h])]
      rfl
    · have hsound : fs.isDangling (place ++ folders ++ [name]) = false := by
        rw [Bool.eq_false_iff, ne_eq, hdangling, hfollow]
        exact fun hfail => by cases hfail
      rw [hsound]
      have hkind := fs.follow_eq_ok habove hfollow
      cases e with
      | file bytes mode => rfl
      | folder below => rfl
      | link target => simp [Entry.isFolder, Entry.isFile] at hkind

theorem offers_shown_iff {path name : String} {place : Location} {entries : List (String × Entry)}
    {f : Folder} (hfs : fs.isProper) (hl : fs.listFolder here path = .ok (place, entries))
    (ha : assemble name (showEntries fs here ignored path entries) = .ok f) (way : List String) :
    (Entry.folder entries).Offers ignored (fs.isFolder here) (isShown fs here) path way ↔
      (Entry.folder entries).Offers ignored (fs.isFolder here) (Source.countsAsFile fs here) path
          way ∧
        fs.isDangling (place ++ way) = false := by
  have hplace := fs.at?_of_listFolder hl
  have hproper := fs.isProper_of_at? hfs hplace
  have heq : ∀ {folders name found}, (∀ folder ∈ folders, ignored folder = false) →
      (Entry.folder entries).find? (folders ++ [name]) = some found →
      isShown fs here ((folders ++ [name]).foldl Path.join path) found =
        (Source.countsAsFile fs here ((folders ++ [name]).foldl Path.join path) found &&
          !fs.isDangling (place ++ (folders ++ [name]))) := by
    intro folders name found hfolders hf
    have hat : fs.at? (place ++ folders ++ [name]) = some found := by
      rw [List.append_assoc, fs.at?_append_of_folder hplace, hf]
    rw [← List.append_assoc]
    exact isShown_eq hfs hl hat (isAnswered_of_assemble hproper ha hfolders hf)
  constructor
  · rintro ⟨folders, name, found, rfl, hpass, hf, hsource, hshown⟩
    rw [heq hpass.unignored hf, Bool.and_eq_true, Bool.not_eq_true'] at hshown
    exact ⟨⟨folders, name, found, rfl, hpass, hf, hsource, hshown.1⟩, hshown.2⟩
  · rintro ⟨⟨folders, name, found, rfl, hpass, hf, hsource, hcounts⟩, hdangling⟩
    refine ⟨folders, name, found, rfl, hpass, hf, hsource, ?_⟩
    rw [heq hpass.unignored hf, hcounts, hdangling]
    rfl

/-- A folder whose links are settled has a snapshot unless a limit is met at a path that it asks
about. The paths of the files that the drawing shows are those of the enumerated files, except for
links that lead to nothing; below an ignored root there are none. -/
theorem drawing_agrees_with_enumeration {path : String} (hfs : fs.isProper)
    (hhere : Path.isAbsolute here) (hlinks : fs.linksSettled) (hfolder : fs.isFolder here path)
    (f : Filter) : ∃ place entries paths,
      fs.listFolder here path = .ok (place, entries) ∧
      (Source.files fs here f path).result = .ok paths ∧
      ((∃ folder, snapshot fs here f.ignores path = .ok folder) ↔
        ∀ asked, Asks fs here f.ignores path asked → fs.exceedsLimit here asked = false) ∧
      ∀ folder, snapshot fs here f.ignores path = .ok folder →
        folder.render f.ignores = "\n".intercalate (folder.lines f.ignores) ∧
        (∀ relative, relative ∈ (shownWays (folder.lines f.ignores)).map Path.ofSteps ↔
          (∃ file ∈ paths, Path.relative here file path = relative) ∧
            fs.isDangling (place ++ Path.steps relative) = false) ∧
        (f.ignores (ownName here path) → folder.lines f.ignores = [] ∧ paths = []) := by
  obtain ⟨place, entries, hl⟩ := fs.exists_listFolder_of_isFolder hfolder
  have hproper := fs.isProper_of_at? hfs (fs.at?_of_listFolder hl)
  obtain ⟨paths, hpaths⟩ := Source.exists_files hfs f hl
  refine ⟨place, entries, paths, hl, hpaths, exists_snapshot_iff hfs hlinks hfolder, ?_⟩
  intro folder hsnap
  refine ⟨render_eq_intercalate _ _, ?_, ?_⟩
  · intro relative
    simp only [List.mem_map, mem_shownWays_snapshot_iff hfs hl hsnap,
      Source.mem_files_iff hfs hpaths]
    have hoffers := fun (hname : f.ignores (ownName here path) = false) =>
      offers_shown_iff hfs hl (assemble_of_snapshot hname hl hsnap)
    constructor
    · rintro ⟨way, ⟨hname, hway⟩, rfl⟩
      obtain ⟨hway, hdangling⟩ := (hoffers hname way).1 hway
      have hnames := hway.isName hproper
      refine ⟨⟨_, ⟨hname, place, entries, way, hl, hway, rfl⟩, ?_⟩, ?_⟩
      · exact Path.relative_foldl_join hhere path hnames hway.unignored.1
      · rwa [Path.steps_ofSteps fun n hn => (hnames n hn).1]
    · rintro ⟨⟨_, ⟨hname, place', entries', way, hl', hway, rfl⟩, rfl⟩, hdangling⟩
      rw [hl, Except.ok.injEq, Prod.mk.injEq] at hl'
      obtain ⟨rfl, rfl⟩ := hl'
      have hnames := hway.isName hproper
      rw [Path.relative_foldl_join hhere path hnames hway.unignored.1] at hdangling ⊢
      rw [Path.steps_ofSteps fun n hn => (hnames n hn).1] at hdangling
      exact ⟨way, ⟨hname, (hoffers hname way).2 ⟨hway, hdangling⟩⟩, rfl⟩
  · intro hname
    rw [Source.files_of_ignored hname] at hpaths
    cases hpaths
    exact ⟨lines_of_ignored hname hsnap, rfl⟩

/-- A folder with links to a file, to a folder and to nothing, and with an ignored folder. -/
def linked : FileSystem :=
  ⟨[("r", .folder [("A.cs", .file [] 0o644), ("Gone.cs", .link "none"), ("Same.cs", .link "s/C.cs"),
    ("obj", .folder [("B.cs", .file [] 0o644)]), ("s", .folder [("C.cs", .file [] 0o644)]),
    ("t.cs", .link "s")])]⟩

theorem drawing_agrees_with_enumeration_linked :
    ∃ f folder paths, Filter.read "obj" = .ok f ∧
      snapshot linked "/" f.ignores "/r" = .ok folder ∧
      (Source.files linked "/" f "/r").result = .ok paths ∧
      ∀ relative, relative ∈ (shownWays (folder.lines f.ignores)).map Path.ofSteps ↔
        (∃ file ∈ paths, Path.relative "/" file "/r" = relative) ∧
          linked.isDangling ("r" :: Path.steps relative) = false := by
  obtain ⟨f, hf⟩ : ∃ f, Filter.read "obj" = .ok f := Except.exists_eq_ok (by decide +kernel)
  obtain ⟨place, entries, paths, hl, hpaths, -, hall⟩ :=
    @drawing_agrees_with_enumeration linked "/" "/r" (by decide +kernel) (by decide +kernel)
      (by decide +kernel) (by decide +kernel) f
  have hplace : (linked.listFolder "/" "/r").toOption.map Prod.fst = some ["r"] := by
    decide +kernel
  have hshown : (Filter.read "obj").toOption.all fun f =>
      (linked.listFolder "/" "/r").toOption.all fun found =>
        (showEntries linked "/" f.ignores "/r" found.2).all (·.2.isOk) := by
    decide +kernel
  simp only [hf, hl, Except.toOption, Option.all_some] at hshown
  obtain ⟨folder, hsnap⟩ := exists_snapshot_of_showEntries hl hshown
  rw [hl, Except.toOption, Option.map_some, Option.some.injEq] at hplace
  subst hplace
  exact ⟨f, folder, paths, hf, hsnap, hpaths, (hall folder hsnap).2.1⟩

/-- A folder that is reached through many links, with a link in it that goes through as many. -/
def detour : FileSystem :=
  let rounds := String.join (List.replicate 25 "s/")
  ⟨[("F", .file "class A { }".toUTF8.toList 0o644),
    ("d", .folder [("A.cs", .link ("../" ++ rounds ++ "F"))]), ("r", .link (rounds ++ "d")),
    ("s", .link ".")]⟩

theorem snapshot_detour : ∃ f, Filter.read "bin" = .ok f ∧
    (Source.files detour "/" f "/r").result = .ok ["/r/A.cs"] ∧
    snapshot detour "/" f.ignores "/r" = .error ⟨.tooManyLinks, "/r/A.cs", none⟩ := by
  obtain ⟨f, hf⟩ : ∃ f, Filter.read "bin" = .ok f := Except.exists_eq_ok (by decide +kernel)
  have hboth : (Filter.read "bin").toOption.all fun f =>
      (Source.files detour "/" f "/r").result.toOption == some ["/r/A.cs"] &&
      (match snapshot detour "/" f.ignores "/r" with
        | .error e => decide (e = ⟨.tooManyLinks, "/r/A.cs", none⟩)
        | .ok _ => false) := by
    decide +kernel
  rw [show (Filter.read "bin").toOption = some f by rw [hf, Except.toOption], Option.all_some,
    Bool.and_eq_true, beq_iff_eq] at hboth
  refine ⟨f, hf, Except.eq_ok_of_toOption hboth.1, ?_⟩
  have hsnap := hboth.2
  split at hsnap
  · rename_i e he
    rw [he, of_decide_eq_true hsnap]
  · cases hsnap

/-- All links lead somewhere, and still there is no drawing of a folder whose files are listed. -/
theorem no_drawing_of_detour : detour.isProper ∧ detour.linksSettled ∧
    detour.isFolder "/" "/r" ∧ ∃ f, Filter.read "bin" = .ok f ∧
      (Source.files detour "/" f "/r").result = .ok ["/r/A.cs"] ∧
      snapshot detour "/" f.ignores "/r" = .error ⟨.tooManyLinks, "/r/A.cs", none⟩ :=
  ⟨by decide +kernel, by decide +kernel, by decide +kernel, snapshot_detour⟩

end Outline.Folder
