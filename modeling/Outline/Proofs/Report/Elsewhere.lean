import Outline.Proofs.Folder.Snapshot
import Outline.Proofs.Outcome
import Outline.Proofs.Path.Return
import Outline.Proofs.Report.Files

set_option autoImplicit false

/-!
# Runs from elsewhere

The paths in settings are absolute and in normal form. So settings that are made again from their
own values stay the same, and a run gives the same report, whatever the working folder is: an
absolute path leads to the same place from everywhere, and every path that a run makes up is joined
to one.
-/
namespace Outline

/-! ## Paths that do not depend on the working folder -/

namespace Path

/-- An absolute path without empty names, `.` and `..`, but maybe with two slashes in front. -/
def IsNormal (path : String) : Prop :=
  ∃ slashes names, (slashes = "/" ∨ slashes = "//") ∧ (∀ name ∈ names, IsName name) ∧
    path = slashes ++ ofSteps names

theorem isNormal_absolute {here : String} (hhere : isAbsolute here) (path : String) :
    IsNormal (absolute here path) := by
  obtain ⟨k, hk, heq⟩ := exists_normalize_eq (isAbsolute_start hhere path)
  refine ⟨_, _, ?_, isName_of_mem_normalSteps fun _ hm => isPiece_of_mem_steps hm, heq⟩
  obtain rfl | rfl : k = 0 ∨ k = 1 := by omega
  · exact .inl rfl
  · exact .inr rfl

theorem IsNormal.isAbsolute {path : String} (h : IsNormal path) : isAbsolute path := by
  obtain ⟨slashes, names, rfl | rfl, -, rfl⟩ := h
  · simp [Path.isAbsolute]
  · simp [Path.isAbsolute]

theorem rootSlashes_twice {rest : String} (h : isAbsolute rest = false) :
    rootSlashes ("//" ++ rest).toList = 2 := by
  unfold isAbsolute at h
  rw [String.toList_append]
  cases hrest : rest.toList with
  | nil => rfl
  | cons c cs =>
    rw [hrest, List.head?_cons, beq_eq_false_iff_ne, ne_eq, Option.some_inj] at h
    simp [rootSlashes, h]

theorem IsNormal.absolute_eq {path : String} (h : IsNormal path) (here : String) :
    absolute here path = path := by
  have habs := h.isAbsolute
  obtain ⟨slashes, names, rfl | rfl, hnames, rfl⟩ := h
  · exact IsRooted.absolute_eq ⟨names, hnames, rfl⟩ here
  · have hpieces := isPiece_of_isName hnames
    have hsteps : steps ("//" ++ ofSteps names) = names :=
      (steps_slashes_append 2 (ofSteps names)).trans (steps_ofSteps hpieces)
    rw [absolute, if_pos habs, normalize_eq habs, rootSlashes_twice (isAbsolute_ofSteps hpieces),
      hsteps, normalSteps_eq_self true hnames]
    rfl

theorem absolute_elsewhere {path : String} (h : isAbsolute path) (here elsewhere : String) :
    absolute elsewhere path = absolute here path := by
  rw [absolute, absolute, if_pos h, if_pos h]

theorem relative_elsewhere {path folder : String} (hpath : isAbsolute path)
    (hfolder : isAbsolute folder) (here elsewhere : String) :
    relative elsewhere path folder = relative here path folder := by
  rw [relative, relative, absolute_elsewhere hpath here elsewhere,
    absolute_elsewhere hfolder here elsewhere]

theorem isAbsolute_join_base {base : String} (h : isAbsolute base) (path : String) :
    isAbsolute (join base path) := by
  by_cases hpath : isAbsolute path
  · rw [join, if_pos hpath]
    exact hpath
  · have hstart := isAbsolute_start h path
    rwa [if_neg hpath] at hstart

theorem isAbsolute_foldl_join_base {base : String} (h : isAbsolute base) (way : List String) :
    isAbsolute (way.foldl join base) := by
  induction way generalizing base with
  | nil => exact h
  | cons name way ih => exact ih (isAbsolute_join_base h name)

end Path

namespace FileSystem

variable (fs : FileSystem) {path : String} (h : Path.isAbsolute path) (here elsewhere : String)

include h

theorem lookUp_elsewhere : fs.lookUp elsewhere path = fs.lookUp here path := by
  have horigin : origin elsewhere path = origin here path := by
    rw [origin, origin, if_pos h, if_pos h]
  simp only [lookUp, locate, horigin]

theorem isFolder_elsewhere : fs.isFolder elsewhere path = fs.isFolder here path := by
  rw [isFolder, isFolder, fs.lookUp_elsewhere h here elsewhere]

theorem listFolder_elsewhere : fs.listFolder elsewhere path = fs.listFolder here path := by
  rw [listFolder, listFolder, fs.lookUp_elsewhere h here elsewhere]

theorem fileBytes_elsewhere : fs.fileBytes elsewhere path = fs.fileBytes here path := by
  rw [fileBytes, fileBytes, fs.lookUp_elsewhere h here elsewhere]

end FileSystem

/-! ## Settings -/

namespace Settings

variable {fs : FileSystem} {here : String} {root entities filter : Option String} {s : Settings}

theorem isNormal_of_make (hhere : Path.isAbsolute here)
    (h : make fs here root entities filter = .ok s) :
    Path.IsNormal s.root ∧ ∀ folder, s.entities = some folder → Path.IsNormal folder := by
  obtain ⟨-, ⟨path, hpath⟩, hfolders⟩ := make_eq_ok h
  constructor
  · rw [hpath]
    exact Path.isNormal_absolute hhere path
  · intro folder hfolder
    obtain ⟨path, rfl⟩ := hfolders folder hfolder
    exact Path.isNormal_absolute hhere path

theorem given?_of_isNormal {path : String} (h : Path.IsNormal path) :
    given? (some path) = some path := by
  have hne : path ≠ "" := by
    rintro rfl
    cases h.isAbsolute
  simp [given?, hne]

theorem make_self (hroot : Path.IsNormal s.root)
    (hentities : ∀ folder, s.entities = some folder → Path.IsNormal folder)
    (hfolder : fs.isFolder here s.root) (elsewhere : String) :
    make fs elsewhere (some s.root) s.entities (some s.filter) = .ok s := by
  have hmade : rootFolder fs elsewhere (some s.root) = .ok s.root := by
    rw [rootFolder, given?_of_isNormal hroot]
    simp only [hroot.absolute_eq, fs.isFolder_elsewhere hroot.isAbsolute here elsewhere, hfolder,
      if_true]
  have hsame : (given? s.entities).map (Path.absolute elsewhere) = s.entities := by
    cases hs : s.entities with
    | none => rfl
    | some folder =>
      have hnormal := hentities folder hs
      rw [given?_of_isNormal hnormal, Option.map_some, hnormal.absolute_eq]
  rw [make, hmade, Except.map, withRoot, hsame]
  rfl

theorem entitiesFolder?_elsewhere
    (hentities : ∀ folder, s.entities = some folder → Path.IsNormal folder)
    (here elsewhere : String) :
    s.entitiesFolder? fs elsewhere = s.entitiesFolder? fs here := by
  rw [entitiesFolder?, entitiesFolder?]
  cases hs : s.entities with
  | none => rfl
  | some folder =>
    rw [Option.filter_some, Option.filter_some,
      fs.isFolder_elsewhere (hentities folder hs).isAbsolute here elsewhere]

end Settings

/-! ## Reports -/

section Reports

variable {fs : FileSystem} {base root : String} {f : Filter}

theorem Source.exists_foldl_join_of_mem_files {here : String} {paths : List String}
    (h : (files fs here f base).result = .ok paths) :
    ∀ path ∈ paths, ∃ way : List String, path = way.foldl Path.join base := by
  rw [files] at h
  split at h
  · cases h
    exact List.forall_mem_nil _
  · split at h
    · cases h
    · simp only [Outcome.result_bind, Outcome.result_note, Outcome.result_pure, Except.bind,
        Except.ok.injEq] at h
      subst h
      intro path hpath
      obtain ⟨file, hfile, rfl⟩ := List.mem_map.1 hpath
      rw [sortFiles, List.mem_mergeSort] at hfile
      obtain ⟨way, -, rfl⟩ := List.mem_map.1 hfile
      exact ⟨way, rfl⟩

variable (here elsewhere : String)

theorem Folder.ownName_elsewhere (h : Path.isAbsolute base) :
    ownName elsewhere base = ownName here base := by
  rw [ownName, ownName, Path.absolute_elsewhere h here elsewhere]

theorem Folder.showEntry_elsewhere (ignored : String → Bool) (e : Entry) {path : String}
    (h : Path.isAbsolute path) (name : String) :
    showEntry fs elsewhere ignored path name e = showEntry fs here ignored path name e := by
  induction e generalizing path name with
  | file bytes mode => rfl
  | link target =>
    rw [showEntry, showEntry,
      fs.lookUp_elsewhere (Path.isAbsolute_join_base h name) here elsewhere]
  | folder entries ih =>
    have hjoin := Path.isAbsolute_join_base h name
    have hsame : showEntries fs elsewhere ignored (Path.join path name) entries =
        showEntries fs here ignored (Path.join path name) entries := by
      rw [showEntries_eq_map, showEntries_eq_map]
      exact List.map_congr_left fun x hx => congrArg (Prod.mk x.1) (ih x hx hjoin x.1)
    rw [showEntry, showEntry, hsame, fs.listFolder_elsewhere hjoin here elsewhere]

theorem Folder.snapshot_elsewhere (h : Path.isAbsolute base) (ignored : String → Bool) :
    snapshot fs elsewhere ignored base = snapshot fs here ignored base := by
  simp only [snapshot, ownName_elsewhere here elsewhere h,
    fs.listFolder_elsewhere h here elsewhere, showEntries_eq_map,
    showEntry_elsewhere here elsewhere ignored _ h]

theorem Source.waysTo_elsewhere (ignored : String → Bool) (e : Entry) {path : String}
    (h : Path.isAbsolute path) (name : String) :
    waysTo fs elsewhere ignored path name e = waysTo fs here ignored path name e := by
  induction e generalizing path name with
  | file bytes mode => rfl
  | link target =>
    rw [waysTo, waysTo,
      fs.isFolder_elsewhere (Path.isAbsolute_join_base h name) here elsewhere]
  | folder entries ih =>
    have hjoin := Path.isAbsolute_join_base h name
    have hsame : waysAmong fs elsewhere ignored (Path.join path name) entries =
        waysAmong fs here ignored (Path.join path name) entries := by
      rw [waysAmong_eq_flatMap, waysAmong_eq_flatMap]
      exact List.flatMap_congr fun x hx => ih x hx hjoin x.1
    rw [waysTo, waysTo, hsame, fs.isFolder_elsewhere hjoin here elsewhere]

theorem Source.files_elsewhere (h : Path.isAbsolute base) :
    files fs elsewhere f base = files fs here f base := by
  simp only [files, Folder.ownName_elsewhere here elsewhere h,
    fs.listFolder_elsewhere h here elsewhere, waysAmong_eq_flatMap,
    waysTo_elsewhere here elsewhere f.ignores _ h]

namespace Report

variable {s : Settings} {parse : Parser} {detail : Listing.Detail}

theorem blocks_elsewhere (hroot : Path.isAbsolute root) (hbase : Path.isAbsolute base) :
    blocks fs elsewhere root f parse detail base = blocks fs here root f parse detail base := by
  unfold blocks
  rw [Source.files_elsewhere here elsewhere hbase]
  refine Outcome.bind_congr fun paths hpaths => ?_
  have habsolute : ∀ path ∈ paths, Path.isAbsolute path := by
    intro path hpath
    obtain ⟨way, rfl⟩ := Source.exists_foldl_join_of_mem_files hpaths path hpath
    exact Path.isAbsolute_foldl_join_base hbase way
  have hrelative : ∀ path ∈ paths,
      Path.relative elsewhere path root = Path.relative here path root :=
    fun path hpath => Path.relative_elsewhere (habsolute path hpath) hroot here elsewhere
  have hkept : (paths.filter fun path => !isHidden f (Path.relative elsewhere path root)) =
      paths.filter fun path => !isHidden f (Path.relative here path root) :=
    List.filter_congr fun path hpath => by rw [hrelative path hpath]
  rw [hkept]
  refine Outcome.forEach_congr fun path hpath => ?_
  have hmem := List.mem_of_mem_filter hpath
  rw [blockOf, blockOf, fs.fileBytes_elsewhere (habsolute path hmem) here elsewhere,
    hrelative path hmem]

theorem entitySections_elsewhere (hroot : Path.isAbsolute s.root)
    (hentities : ∀ folder, s.entities = some folder → Path.IsNormal folder) :
    entitySections fs elsewhere s f parse = entitySections fs here s f parse := by
  unfold entitySections
  rw [Settings.entitiesFolder?_elsewhere hentities here elsewhere]
  cases hfolder : s.entitiesFolder? fs here with
  | none => cases s.entities <;> rfl
  | some folder =>
    have hgiven : s.entities = some folder := (Option.filter_eq_some_iff.1 hfolder).1
    simp only [blocks_elsewhere here elsewhere hroot (hentities folder hgiven).isAbsolute]

theorem build_elsewhere [CharacterNames] (hroot : Path.isAbsolute s.root)
    (hentities : ∀ folder, s.entities = some folder → Path.IsNormal folder) :
    build fs elsewhere s parse = build fs here s parse := by
  unfold build
  refine Outcome.bind_congr fun f _ => ?_
  rw [Folder.snapshot_elsewhere here elsewhere hroot, blocks_elsewhere here elsewhere hroot hroot,
    entitySections_elsewhere here elsewhere hroot hentities]

end Report

end Reports

/-- Settings have absolute paths in normal form. Made again from their own values, in any working
folder, they are the same, and the report built from them is the same in any working folder. -/
theorem Settings.settled_anywhere [CharacterNames] {fs : FileSystem} {here : String}
    {root entities filter : Option String} {s : Settings} (hhere : Path.isAbsolute here)
    (h : make fs here root entities filter = .ok s) :
    Path.IsNormal s.root ∧ (∀ folder, s.entities = some folder → Path.IsNormal folder) ∧
    ∀ elsewhere, make fs elsewhere (some s.root) s.entities (some s.filter) = .ok s ∧
      ∀ parse, Report.build fs elsewhere s parse = Report.build fs here s parse := by
  obtain ⟨hroot, hentities⟩ := isNormal_of_make hhere h
  refine ⟨hroot, hentities, fun elsewhere => ⟨?_, fun parse => ?_⟩⟩
  · exact make_self hroot hentities (make_eq_ok h).1 elsewhere
  · exact Report.build_elsewhere here elsewhere hroot.isAbsolute hentities

/-- A root that is given from inside one of its folders. -/
def climbed : FileSystem :=
  ⟨[("r", .folder [("s", .folder
    [("A.cs", .file "class A \x7b int a; \x7d".toUTF8.toList 0o644)])])]⟩

theorem Settings.settled_anywhere_climbed :
    make climbed "/r/s" (some "./..") (some "//r/./t/../s//") (some "bin") =
      .ok ⟨"/r", some "//r/s", "bin"⟩ ∧
    Path.IsNormal "/r" ∧ Path.IsNormal "//r/s" ∧
    make climbed "/" (some "/r") (some "//r/s") (some "bin") = .ok ⟨"/r", some "//r/s", "bin"⟩ ∧
    (Report.build climbed "/r/s" ⟨"/r", some "//r/s", "bin"⟩ csharp).result.toOption = some
      ⟨["# Project structure (filtered)\n\n└──r/\n    └──s/\n        └──A.cs\n",
        "## Types and members\n", "#### File: s/A.cs\n```csharp\nclass A\n```\n",
        "### Entity fields and properties\n",
        "#### File: s/A.cs\n```csharp\nclass A\n    int a;\n```\n"]⟩ ∧
    Report.build climbed "/" ⟨"/r", some "//r/s", "bin"⟩ csharp =
      Report.build climbed "/r/s" ⟨"/r", some "//r/s", "bin"⟩ csharp := by
  have hmake : make climbed "/r/s" (some "./..") (some "//r/./t/../s//") (some "bin") =
      .ok ⟨"/r", some "//r/s", "bin"⟩ := Except.eq_ok_of_toOption (by decide +kernel)
  obtain ⟨hroot, hentities, hanywhere⟩ := settled_anywhere (by decide +kernel) hmake
  exact ⟨hmake, hroot, hentities _ rfl, (hanywhere "/").1, by decide +kernel,
    (hanywhere "/").2 csharp⟩

end Outline
