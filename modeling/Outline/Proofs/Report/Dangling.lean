import Outline.Proofs.FileSystem.Limits
import Outline.Proofs.Folder.Agreement
import Outline.Proofs.Report.Files

set_option autoImplicit false

/-!
# Runs that fail on files

A drawing passes over links to nothing, but the lists name them, and reading them fails. In a file
system whose links are settled nothing else about the files can stop a run, as long as no path
meets a limit: the run fails at the first listed path that names a link to nothing.
-/
namespace Outline

variable {fs : FileSystem} {here : String}

/-- Reading at a path fails for a cause if the path has a property, and succeeds otherwise. -/
def FileSystem.FailsIf (fs : FileSystem) (here : String) (bad : String → Bool) (cause : FileCause)
    (path : String) : Prop :=
  if bad path then fs.fileBytes here path = .error ⟨cause, path, none⟩
  else ∃ bytes, fs.fileBytes here path = .ok bytes

theorem FileSystem.failsIf_namesDangling {base path : String} {f : Filter} {paths : List String}
    (hfs : fs.isProper) (hlinks : fs.linksSettled)
    (hpaths : (Source.files fs here f base).result = .ok paths) (hp : path ∈ paths)
    (hlimit : fs.exceedsLimit here path = false) :
    fs.FailsIf here (fs.namesDangling here) .missing path := by
  obtain ⟨-, place, entries, way, hl, hoffers, rfl⟩ := (Source.mem_files_iff hfs hpaths path).1 hp
  have htop := fs.at?_of_listFolder hl
  have hproper := fs.isProper_of_at? hfs htop
  have hnames := hoffers.isName hproper
  obtain ⟨folders, name, e, rfl, -, hf, -, hcounts⟩ := hoffers
  have he : fs.at? (place ++ folders ++ [name]) = some e := by
    rw [List.append_assoc, fs.at?_append_of_folder htop, hf]
  have hsettled := fs.settledAt_of_find? hproper (fs.settledAmong_of_at? hfs hlinks htop) hf
  have hnamed : fs.namesDangling here ((folders ++ [name]).foldl Path.join base) =
      fs.isDangling (place ++ folders ++ [name]) := by
    rw [namesDangling, locateName_below hl hnames he hlimit]
  rw [FailsIf, hnamed]
  cases e with
  | folder below => cases hcounts
  | file bytes mode =>
    have hlook := lookUp_below_of_not_link hl hnames he hlimit (.inr rfl)
    rw [isDangling, he, if_neg Bool.false_ne_true, fileBytes, hlook]
    exact ⟨bytes, rfl⟩
  | link target =>
    obtain ⟨above, habove⟩ := fs.exists_folder_of_at?_append he
    have hdangling := isDangling_link he
    have hsame := lookUp_below hl hnames he hlimit
    rw [settledAt] at hsettled
    rw [Source.countsAsFile, isFolder] at hcounts
    rw [fileBytes]
    rcases hlook : fs.lookUp here ((folders ++ [name]).foldl Path.join base) with e | ⟨goal, e⟩ <;>
      rcases hfollow : fs.follow (place ++ folders) name with cause | found <;>
      rw [hlook, hfollow] at hsame <;> cases hsame
    · rw [hfollow] at hsettled
      obtain rfl : cause = .missing := by cases cause <;> first | rfl | cases hsettled
      rw [if_pos (hdangling.2 hfollow)]
    · rw [if_neg fun hbad => by simp [hdangling.1 hbad] at hfollow]
      have hkind := follow_eq_ok habove hfollow
      rw [hlook] at hcounts
      cases e with
      | file bytes mode => exact ⟨bytes, rfl⟩
      | link target => simp [Entry.isFolder, Entry.isFile] at hkind
      | folder below => cases hcounts

namespace Report

/-- The paths of the files that a run reads: those of all source files below the root, and those in
the folder of entities that are not hidden. -/
structure ReadsFiles (fs : FileSystem) (here : String) (s : Settings) (f : Filter)
    (structural entities : List String) : Prop where
  structural_eq : (Source.files fs here f s.root).result = .ok structural
  entities_eq : match s.entitiesFolder? fs here with
    | some folder => ∃ paths, (Source.files fs here f folder).result = .ok paths ∧
        entities = paths.filter fun path => !isHidden f (Path.relative here path s.root)
    | none => entities = []

def unread (cause : FileCause) (path : String) : Failure := .file ⟨cause, path, none⟩

variable {s : Settings} {f : Filter} {structural entities : List String} {bad : String → Bool}
  {cause : FileCause} {parse : Parser}

theorem exists_readsFiles (hfs : fs.isProper) (hroot : fs.isFolder here s.root) (f : Filter) :
    ∃ structural entities, ReadsFiles fs here s f structural entities := by
  obtain ⟨place, below, hl⟩ := fs.exists_listFolder_of_isFolder hroot
  obtain ⟨structural, hstructural⟩ := Source.exists_files hfs f hl
  cases hgiven : s.entitiesFolder? fs here with
  | none => exact ⟨structural, [], hstructural, by rw [hgiven]⟩
  | some folder =>
    obtain ⟨-, hfolder⟩ := Option.filter_eq_some_iff.1 hgiven
    obtain ⟨place', below', hl'⟩ := fs.exists_listFolder_of_isFolder hfolder
    obtain ⟨paths, hpaths⟩ := Source.exists_files hfs f hl'
    exact ⟨structural, _, hstructural, by rw [hgiven]; exact ⟨paths, hpaths, rfl⟩⟩

theorem ReadsFiles.exists_files (h : ReadsFiles fs here s f structural entities) {path : String}
    (hp : path ∈ structural ++ entities) :
    ∃ base paths, (Source.files fs here f base).result = .ok paths ∧ path ∈ paths := by
  rcases List.mem_append.1 hp with hp | hp
  · exact ⟨s.root, structural, h.structural_eq, hp⟩
  · have hentities := h.entities_eq
    split at hentities
    · rename_i folder _
      obtain ⟨paths, hpaths, rfl⟩ := hentities
      exact ⟨folder, paths, hpaths, List.mem_of_mem_filter hp⟩
    · rw [hentities] at hp
      cases hp

section Parser

variable (hparse : ∀ text, ∃ o, (parse text).result = .ok o)

include hparse

theorem failsAtFirst_blockOf {root path : String} {detail : Listing.Detail}
    (h : fs.FailsIf here bad cause path) :
    (blockOf fs here root parse detail path).FailsAtFirst bad (unread cause) [path] := by
  unfold FileSystem.FailsIf at h
  unfold Outcome.FailsAtFirst blockOf
  cases hbad : bad path with
  | true =>
    rw [hbad, if_pos rfl] at h
    simp only [List.find?_cons, hbad, Outcome.result_bind, Outcome.result_ofResult, h]
    rfl
  | false =>
    rw [hbad, if_neg (by simp)] at h
    obtain ⟨bytes, hbytes⟩ := h
    obtain ⟨outline, houtline⟩ := hparse (Text.sourceText bytes)
    simp only [List.find?_cons, List.find?_nil, hbad, Outcome.result_bind,
      Outcome.result_ofResult, hbytes, Except.mapError, Except.bind, houtline]
    exact ⟨_, rfl⟩

theorem failsAtFirst_blocks {base root : String} {detail : Listing.Detail} {paths : List String}
    (hpaths : (Source.files fs here f base).result = .ok paths)
    (h : ∀ path ∈ paths.filter fun path => !isHidden f (Path.relative here path root),
      fs.FailsIf here bad cause path) :
    (blocks fs here root f parse detail base).FailsAtFirst bad (unread cause)
      (paths.filter fun path => !isHidden f (Path.relative here path root)) :=
  Outcome.failsAtFirst_ok_bind hpaths
    (Outcome.failsAtFirst_forEach fun path hp => failsAtFirst_blockOf hparse (h path hp))

theorem failsAtFirst_entitySections (hreads : ReadsFiles fs here s f structural entities)
    (h : ∀ path ∈ entities, fs.FailsIf here bad cause path) :
    (entitySections fs here s f parse).FailsAtFirst bad (unread cause) entities := by
  have hentities := hreads.entities_eq
  unfold entitySections
  split
  · rename_i folder _ hfolder
    rw [hfolder] at hentities
    obtain ⟨paths, hpaths, rfl⟩ := hentities
    exact (failsAtFirst_blocks hparse hpaths h).bind_ok fun texts => ⟨_, rfl⟩
  · rename_i hfolder _
    rw [hfolder] at hentities
    subst hentities
    exact ⟨[], rfl⟩
  · rename_i hfolder _
    rw [hfolder] at hentities
    subst hentities
    exact ⟨[], rfl⟩

/-- Once there is a drawing of the root, only reading a file can make a run fail. -/
theorem failsAtFirst_build [CharacterNames] {folder : Folder} (hfs : fs.isProper)
    (hhere : Path.isAbsolute here) (hf : Filter.read s.filter = .ok f)
    (hfolder : Folder.snapshot fs here f.ignores s.root = .ok folder)
    (hreads : ReadsFiles fs here s f structural entities)
    (h : ∀ path ∈ structural ++ entities, fs.FailsIf here bad cause path) :
    (build fs here s parse).FailsAtFirst bad (unread cause) (structural ++ entities) := by
  rw [List.forall_mem_append] at h
  have hall := (@filter_not_isHidden fs here s.root s.root f structural hfs hhere
    hreads.structural_eq).2 (not_liesInIgnored_self here f s.root)
  have hblocks := @failsAtFirst_blocks fs here f bad cause parse hparse s.root s.root .structural
    structural hreads.structural_eq
  rw [hall] at hblocks
  have hfilter : (Filter.read s.filter).mapError Failure.filter = .ok f := by
    rw [hf]
    rfl
  have hdrawn : (Folder.snapshot fs here f.ignores s.root).mapError Failure.file = .ok folder := by
    rw [hfolder]
    rfl
  refine Outcome.failsAtFirst_ok_bind hfilter ?_
  refine Outcome.failsAtFirst_ok_bind hdrawn ?_
  refine Outcome.failsAtFirst_ok_bind rfl ?_
  refine (hblocks h.1).bind fun texts _ => ?_
  refine Outcome.failsAtFirst_ok_bind rfl ?_
  exact (failsAtFirst_entitySections hparse hreads h.2).bind_ok fun sections => ⟨_, rfl⟩

end Parser

/-- A run with a parser that never fails, at whose paths no limit is met, fails at the first file it
reads whose path names a link to nothing; if there is none, it gives a report, whatever the files
hold. -/
theorem build_fails_at_first_dangling [CharacterNames] {root given filter : Option String}
    (hfs : fs.isProper) (hhere : Path.isAbsolute here) (hlinks : fs.linksSettled)
    (hparse : ∀ text, ∃ o, (parse text).result = .ok o)
    (hs : Settings.make fs here root given filter = .ok s) (hf : Filter.read s.filter = .ok f) :
    ∃ structural entities, ReadsFiles fs here s f structural entities ∧
      ((∀ path, Folder.Asks fs here f.ignores s.root path ∨ path ∈ structural ++ entities →
          fs.exceedsLimit here path = false) →
        (build fs here s parse).FailsAtFirst (fs.namesDangling here) (unread .missing)
          (structural ++ entities)) := by
  have hroot := (Settings.make_eq_ok hs).1
  obtain ⟨structural, entities, hreads⟩ := exists_readsFiles hfs hroot f
  refine ⟨structural, entities, hreads, fun hlimit => ?_⟩
  obtain ⟨folder, hfolder⟩ := (Folder.exists_snapshot_iff hfs hlinks hroot).2 fun asked hasked =>
    hlimit asked (.inl hasked)
  refine failsAtFirst_build hparse hfs hhere hf hfolder hreads fun path hp => ?_
  obtain ⟨base, paths, hpaths, hmem⟩ := hreads.exists_files hp
  exact fs.failsIf_namesDangling hfs hlinks hpaths hmem (hlimit path (.inr hp))

/-- A file that is no valid text, and a link to nothing in a folder of entities. -/
def brokenEntities : FileSystem :=
  ⟨[("e", .folder [("Gone.cs", .link "none")]), ("r", .folder [("A.cs", .file [0xff] 0o644)])]⟩

theorem not_asks_brokenEntities (ignored : String → Bool) (path : String) :
    ¬ Folder.Asks brokenEntities "/" ignored "/r" path := by
  have hl : brokenEntities.listFolder "/" "/r" = .ok (["r"], [("A.cs", .file [0xff] 0o644)]) :=
    FileSystem.listFolder_of_locate (by decide +kernel) rfl
  rintro ⟨-, top, entries, folders, name, e, hl', -, he, -, hkind, -⟩
  rw [hl] at hl'
  cases hl'
  rw [List.append_assoc,
    brokenEntities.at?_append_of_folder (brokenEntities.at?_of_listFolder hl)] at he
  obtain ⟨-, -, rfl⟩ := Entry.find?_concat_singleton rfl he
  cases hkind

theorem build_fails_at_first_dangling_entity :
    ∃ s, Settings.make brokenEntities "/" (some "/r") (some "/e") (some "bin") = .ok s ∧
      (build brokenEntities "/" s csharp).result = .error (unread .missing "/e/Gone.cs") := by
  obtain ⟨f, hf⟩ : ∃ f, Filter.read "bin" = .ok f := Except.exists_eq_ok (by decide +kernel)
  have hs : Settings.make brokenEntities "/" (some "/r") (some "/e") (some "bin") =
      .ok ⟨"/r", some "/e", "bin"⟩ := Except.eq_ok_of_toOption (by decide +kernel)
  have hparse : ∀ text, ∃ o, (csharp text).result = .ok o := fun text => ⟨_, result_csharp text⟩
  obtain ⟨structural, entities, hreads, hfails⟩ := build_fails_at_first_dangling
    (by decide +kernel) (by decide +kernel) (by decide +kernel) hparse hs hf
  have hlists : (Filter.read "bin").toOption.all fun f =>
      (Source.files brokenEntities "/" f "/r").result.toOption == some ["/r/A.cs"] &&
      ((Source.files brokenEntities "/" f "/e").result.toOption.map fun paths =>
        paths.filter fun path => !isHidden f (Path.relative "/" path "/r")) ==
        some ["/e/Gone.cs"] := by
    decide +kernel
  have hgiven : Settings.entitiesFolder? brokenEntities "/" ⟨"/r", some "/e", "bin"⟩ =
      some "/e" := by
    decide +kernel
  obtain ⟨hstructural, hentities⟩ := hreads
  rw [hgiven] at hentities
  obtain ⟨paths, hpaths, hkept⟩ := hentities
  simp only [hf, Except.toOption, Option.all_some, hstructural, hpaths, Option.map_some, ← hkept,
    Bool.and_eq_true, beq_iff_eq, Option.some_inj] at hlists
  obtain ⟨hfirst, hsecond⟩ := hlists
  have hlimit : ∀ path ∈ ["/r/A.cs"] ++ ["/e/Gone.cs"],
      brokenEntities.exceedsLimit "/" path = false := by
    decide +kernel
  refine ⟨_, hs, (hfails ?_).result_eq ?_⟩
  · rintro path (hasked | hpath)
    · exact absurd hasked (not_asks_brokenEntities f.ignores path)
    · rw [hfirst, hsecond] at hpath
      exact hlimit path hpath
  · rw [hfirst, hsecond]
    decide +kernel

/-- A run fails although no path that it reads names a link to nothing. -/
theorem build_fails_without_dangling :
    Folder.detour.isProper ∧ Folder.detour.linksSettled ∧ ∃ s f,
      Settings.make Folder.detour "/" (some "/r") none (some "bin") = .ok s ∧
      Filter.read s.filter = .ok f ∧ ReadsFiles Folder.detour "/" s f ["/r/A.cs"] [] ∧
      Folder.detour.namesDangling "/" "/r/A.cs" = false ∧
      (build Folder.detour "/" s csharp).result = .error (unread .tooManyLinks "/r/A.cs") := by
  have hs : Settings.make Folder.detour "/" (some "/r") none (some "bin") =
      .ok ⟨"/r", none, "bin"⟩ := Except.eq_ok_of_toOption (by decide +kernel)
  obtain ⟨f, hf, hfiles, hsnapshot⟩ := Folder.snapshot_detour
  refine ⟨by decide +kernel, by decide +kernel, _, f, hs, hf, ⟨hfiles, rfl⟩, by decide +kernel, ?_⟩
  simp only [build, Outcome.result_bind, Outcome.result_ofResult, hf, hsnapshot, Except.mapError,
    Except.bind, unread]

end Report

end Outline
