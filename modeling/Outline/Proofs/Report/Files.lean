import Outline.Proofs.Report.Layout
import Outline.Proofs.Source.Ways

set_option autoImplicit false

/-!
# Which files a report lists

Whether a file is hidden depends on where the folder lies in which it was found, never on the way
from there: the enumeration has already left out the ways through ignored folders. So the blocks
below a folder are those of all its source files, or there are none.
-/
namespace Outline

namespace Settings

theorem rootFolder_eq_ok {fs : FileSystem} {here root : String} {given : Option String}
    (h : rootFolder fs here given = .ok root) :
    fs.isFolder here root ∧ ∃ path, root = Path.absolute here path := by
  unfold rootFolder at h
  split at h
  · cases h
  · rename_i path _
    simp only at h
    generalize habs : Path.absolute here path = absolute at h
    split at h
    · rename_i hfolder
      rw [Except.ok.injEq] at h
      subst h
      exact ⟨hfolder, path, habs.symm⟩
    · cases h

theorem make_eq_ok {fs : FileSystem} {here : String} {root entities filter : Option String}
    {s : Settings} (h : make fs here root entities filter = .ok s) :
    fs.isFolder here s.root ∧ (∃ path, s.root = Path.absolute here path) ∧
      ∀ folder, s.entities = some folder → ∃ path, folder = Path.absolute here path := by
  unfold make at h
  cases hroot : rootFolder fs here root with
  | error e => simp [hroot, Except.map] at h
  | ok absolute =>
    rw [hroot, Except.map, Except.ok.injEq] at h
    subst h
    obtain ⟨hfolder, hpath⟩ := rootFolder_eq_ok hroot
    refine ⟨hfolder, hpath, ?_⟩
    intro folder he
    obtain ⟨given, -, hgiven⟩ := Option.map_eq_some_iff.1 he
    exact ⟨given, hgiven.symm⟩

end Settings

theorem Folder.ownName_eq {here : String} (hhere : Path.isAbsolute here) (path : String) :
    ownName here path = (Path.fullSteps here path).getLastD "" :=
  Path.baseName_absolute hhere path

theorem Folder.ownName_unignored {here root folder : String} {ignored : String → Bool}
    {down : List String} (hhere : Path.isAbsolute here)
    (hname : ignored (ownName here root) = false)
    (hdown : Path.fullSteps here folder = Path.fullSteps here root ++ down)
    (hclear : ∀ name ∈ down, ignored name = false) : ignored (ownName here folder) = false := by
  rw [ownName_eq hhere] at hname
  rw [ownName_eq hhere, hdown]
  rcases List.eq_nil_or_concat' down with hd | ⟨above, own, hd⟩
  · rw [hd, List.append_nil, hname]
  · rw [hd, ← List.append_assoc, List.getLastD_concat]
    exact hclear own (by simp [hd])

namespace Report

variable {fs : FileSystem} {here : String}

theorem isHidden_dot (f : Filter) : isHidden f "." = false := by
  have h : Path.folderName "." = "" := by decide
  simp [isHidden, h, Filter.ignoresPath]

theorem isHidden_ofSteps (f : Filter) {way : List String} (h : ∀ name ∈ way, Path.IsName name) :
    isHidden f (Path.ofSteps way) = way.dropLast.any f.ignores := by
  have hpieces : ∀ name ∈ way, Path.IsPiece name := fun n hn => (h n hn).1
  have hfolders : ∀ name ∈ way.dropLast, Path.IsPiece name := fun n hn =>
    hpieces n (List.dropLast_subset _ hn)
  have hdot : Path.ofSteps way.dropLast ≠ "." := by
    intro he
    have hsteps := Path.steps_ofSteps hfolders
    rw [he, Path.steps_of_isPiece (by decide)] at hsteps
    exact (h "." (List.dropLast_subset _ (hsteps ▸ List.mem_singleton_self "."))).2.1 rfl
  have hhead : (Path.cut (Path.ofSteps way).toList).head? ≠ some "..".toList := by
    cases way with
    | nil => decide
    | cons first rest =>
      rw [Path.cut_ofSteps (by simp) hpieces]
      intro he
      have hfirst := String.toList_injective (Option.some_inj.1 he)
      exact (h first (by simp)).2.2 hfirst
  rw [isHidden, Filter.ignoresPath, Path.folderName_ofSteps hpieces,
    Path.steps_ofSteps hfolders, bne_iff_ne.2 hhead, bne_iff_ne.2 hdot, Bool.true_and,
    Bool.true_and]

/-- A file is hidden if it lies below the root in an ignored folder. -/
theorem isHidden_relative_iff {path root : String} (hhere : Path.isAbsolute here) (f : Filter) :
    isHidden f (Path.relative here path root) ↔
      ∃ way, Path.fullSteps here path = Path.fullSteps here root ++ way ∧
        ∃ folder ∈ way.dropLast, f.ignores folder := by
  by_cases hbelow : Path.fullSteps here root <+: Path.fullSteps here path
  · obtain ⟨way, hway⟩ := hbelow
    have hnames : ∀ name ∈ way, Path.IsName name := fun name hn =>
      Path.isName_of_mem_fullSteps hhere (hway ▸ List.mem_append_right _ hn)
    have hiff : (∃ way', Path.fullSteps here path = Path.fullSteps here root ++ way' ∧
        ∃ folder ∈ way'.dropLast, f.ignores folder) ↔
        ∃ folder ∈ way.dropLast, f.ignores folder := by
      rw [← hway]
      simp
    rw [hiff, Path.relative_of_append hway.symm]
    by_cases hne : way = []
    · simp [hne, isHidden_dot]
    · rw [if_neg (by simpa using hne), isHidden_ofSteps f hnames]
      simp
  · have hhead := Path.head_relative_of_not_prefix hhere hbelow
    have hno : isHidden f (Path.relative here path root) = false := by
      simp [isHidden, hhead]
    rw [hno]
    simp only [Bool.false_eq_true, false_iff]
    rintro ⟨way, hway, -⟩
    exact hbelow ⟨way, hway.symm⟩

/-- A folder lies at or below the root, and a name on the way down to it is ignored. -/
def LiesInIgnored (here : String) (f : Filter) (root folder : String) : Prop :=
  ∃ way, Path.fullSteps here folder = Path.fullSteps here root ++ way ∧ ∃ name ∈ way, f.ignores name

/-- The files below a folder are hidden together. -/
theorem isHidden_of_offers_iff {root base : String} {f : Filter} {e : Entry}
    {way : List String} (hhere : Path.isAbsolute here) (he : e.isProper)
    (hway : e.Offers f.ignores (fs.isFolder here) (Source.countsAsFile fs here) base way) :
    isHidden f (Path.relative here (way.foldl Path.join base) root) ↔
      LiesInIgnored here f root base := by
  obtain ⟨hne, hign⟩ := hway.unignored
  rw [isHidden_relative_iff hhere, Path.fullSteps_foldl_join hhere base (hway.isName he)]
  constructor
  · rintro ⟨below, heq, folder, hfolder, hi⟩
    rcases List.append_eq_append_iff.1 heq with ⟨rest, hroot, hrest⟩ | ⟨rest, hbase, hrest⟩
    · -- the root lies below the base, so the folder is on the way
      have hb : below ≠ [] := by
        rintro rfl
        simp at hfolder
      have hon : folder ∈ way.dropLast := by
        rw [hrest, List.dropLast_append_of_ne_nil hb]
        exact List.mem_append_right _ hfolder
      rw [hign folder hon] at hi
      cases hi
    · refine ⟨rest, hbase, folder, ?_, hi⟩
      rw [hrest, List.dropLast_append_of_ne_nil hne, List.mem_append] at hfolder
      exact hfolder.resolve_right fun hm => by simp [hign folder hm] at hi
  · rintro ⟨rest, hbase, name, hname, hi⟩
    refine ⟨rest ++ way, by rw [hbase, List.append_assoc], name, ?_, hi⟩
    rw [List.dropLast_append_of_ne_nil hne]
    exact List.mem_append_left _ hname

theorem filter_not_isHidden {root base : String} {f : Filter} {paths : List String}
    (hfs : fs.isProper) (hhere : Path.isAbsolute here)
    (h : (Source.files fs here f base).result = .ok paths) :
    (LiesInIgnored here f root base →
      (paths.filter fun path => !isHidden f (Path.relative here path root)) = []) ∧
    (¬ LiesInIgnored here f root base →
      (paths.filter fun path => !isHidden f (Path.relative here path root)) = paths) := by
  have hiff : ∀ path ∈ paths, (isHidden f (Path.relative here path root) ↔
      LiesInIgnored here f root base) := by
    intro path hp
    obtain ⟨-, place, entries, way, hl, hway, rfl⟩ := (Source.mem_files_iff hfs h path).1 hp
    exact isHidden_of_offers_iff hhere (fs.isProper_of_at? hfs (fs.at?_of_listFolder hl)) hway
  constructor
  · intro hlies
    rw [List.filter_eq_nil_iff]
    intro path hp
    simp [(hiff path hp).2 hlies]
  · intro hlies
    rw [List.filter_eq_self]
    intro path hp
    have hno := fun hh => hlies ((hiff path hp).1 hh)
    simpa using hno

theorem AreBlocks.map_path {root base : String} {f : Filter} {parse : Parser}
    {detail : Listing.Detail} {blocks : List FileBlock} {paths : List String}
    (h : AreBlocks fs here root parse f detail base blocks)
    (hpaths : (Source.files fs here f base).result = .ok paths) :
    blocks.map (·.path) =
      paths.filter fun path => !isHidden f (Path.relative here path root) := by
  obtain ⟨paths', hpaths', hblocks⟩ := h
  rw [hpaths, Except.ok.injEq] at hpaths'
  subst hpaths'
  generalize (paths.filter fun path => !isHidden f (Path.relative here path root)) = kept at hblocks
  induction hblocks with
  | nil => rfl
  | cons first _ ih => rw [List.map_cons, ih, first.path_eq]

theorem AreBlocks.files_eq {root base : String} {f : Filter} {parse : Parser}
    {detail : Listing.Detail} {blocks : List FileBlock} (hfs : fs.isProper)
    (hhere : Path.isAbsolute here) (h : AreBlocks fs here root parse f detail base blocks) :
    (LiesInIgnored here f root base → blocks = []) ∧
    (¬ LiesInIgnored here f root base →
      (Source.files fs here f base).result = .ok (blocks.map (·.path))) := by
  have hfound := h
  obtain ⟨paths, hpaths, -⟩ := hfound
  obtain ⟨hnone, hall⟩ := @filter_not_isHidden fs here root base f paths hfs hhere hpaths
  have hmap := h.map_path hpaths
  constructor
  · intro hlies
    rw [hnone hlies] at hmap
    exact List.map_eq_nil_iff.1 hmap
  · intro hlies
    rw [hmap, hall hlies, hpaths]

theorem not_liesInIgnored {f : Filter} {root folder : String} {down : List String}
    (hdown : Path.fullSteps here folder = Path.fullSteps here root ++ down)
    (hclear : ∀ name ∈ down, f.ignores name = false) : ¬ LiesInIgnored here f root folder := by
  rintro ⟨way, hway, name, hname, hi⟩
  rw [hdown, List.append_cancel_left_eq] at hway
  rw [hclear name (hway ▸ hname)] at hi
  cases hi

theorem not_liesInIgnored_self (here : String) (f : Filter) (root : String) :
    ¬ LiesInIgnored here f root root :=
  not_liesInIgnored (List.append_nil _).symm (by simp)

theorem Layout.Describes.entities_of_isFolder [CharacterNames] {parse : Parser} {s : Settings}
    {l : Layout} {folder : String} (h : l.Describes fs here parse s) (hs : s.entities = some folder)
    (hfolder : fs.isFolder here folder) :
    ∃ blocks, l.entities = some blocks ∧
      AreBlocks fs here s.root parse l.filter .detailed folder blocks := by
  have he := h.entities_eq
  rwa [Settings.entitiesFolder?, hs, Option.filter_some_pos hfolder] at he

theorem Layout.Describes.areBlocks_of_entities [CharacterNames] {parse : Parser} {s : Settings}
    {l : Layout} {blocks : List FileBlock} (h : l.Describes fs here parse s)
    (hblocks : l.entities = some blocks) :
    ∃ folder, s.entities = some folder ∧ fs.isFolder here folder ∧
      AreBlocks fs here s.root parse l.filter .detailed folder blocks := by
  have he := h.entities_eq
  split at he
  · rename_i folder hfolder
    obtain ⟨hs, hfolder⟩ := Option.filter_eq_some_iff.1 hfolder
    obtain ⟨found, hfound, hare⟩ := he
    rw [hblocks, Option.some.injEq] at hfound
    exact ⟨folder, hs, hfolder, hfound ▸ hare⟩
  · rw [he] at hblocks
    cases hblocks

theorem Layout.Describes.exists_entities_iff [CharacterNames] {parse : Parser} {s : Settings}
    {l : Layout} (h : l.Describes fs here parse s) :
    (∃ blocks, l.entities = some blocks) ↔
      ∃ folder, s.entities = some folder ∧ fs.isFolder here folder := by
  constructor
  · rintro ⟨blocks, hblocks⟩
    obtain ⟨folder, hs, hfolder, -⟩ := h.areBlocks_of_entities hblocks
    exact ⟨folder, hs, hfolder⟩
  · rintro ⟨folder, hs, hfolder⟩
    obtain ⟨blocks, hblocks, -⟩ := h.entities_of_isFolder hs hfolder
    exact ⟨blocks, hblocks⟩

/-- A report lists every source file below the root. It has a part for entities if there is a folder
of them, and that part lists every source file below that folder, unless the folder lies in an
ignored one below the root or is one: then it lists none. -/
theorem build_lists_source_files [CharacterNames] {parse : Parser} {s : Settings} {r : Report}
    (hfs : fs.isProper) (hhere : Path.isAbsolute here)
    (h : (build fs here s parse).result = .ok r) :
    ∃ l : Layout, l.Describes fs here parse s ∧ r = l.report ∧
      (Source.files fs here l.filter s.root).result = .ok (l.structural.map (·.path)) ∧
      (entitiesHeading ++ "\n" ∈ r.sections ↔
        ∃ folder, s.entities = some folder ∧ fs.isFolder here folder) ∧
      ∀ folder, s.entities = some folder → fs.isFolder here folder →
        ∃ blocks, l.entities = some blocks ∧
          (LiesInIgnored here l.filter s.root folder → blocks = []) ∧
          (¬ LiesInIgnored here l.filter s.root folder →
            (Source.files fs here l.filter folder).result = .ok (blocks.map (·.path))) := by
  obtain ⟨l, hl, rfl⟩ := build_eq_ok_iff.1 h
  refine ⟨l, hl, rfl, ?_, ?_, ?_⟩
  · have hroot := not_liesInIgnored_self here l.filter s.root
    exact (hl.structural_eq.files_eq hfs hhere).2 hroot
  · rw [entitiesHeading_mem_sections_iff, hl.exists_entities_iff]
  · intro folder hs hfolder
    obtain ⟨blocks, hblocks, hare⟩ := hl.entities_of_isFolder hs hfolder
    exact ⟨blocks, hblocks, hare.files_eq hfs hhere⟩

/-- One source file, two folders down. -/
def nested : FileSystem :=
  ⟨[("r", .folder [("s", .folder [("C.cs", .file "class C { int c; }".toUTF8.toList 0o644)])])]⟩

theorem build_lists_source_files_outside :
    ∃ (r : Report) (l : Layout) (blocks : List FileBlock),
      (build nested "/" ⟨"/r/s", some "/r", "bin"⟩ csharp).result = .ok r ∧ r = l.report ∧
      entitiesHeading ++ "\n" ∈ r.sections ∧ l.structural.map (·.path) = ["/r/s/C.cs"] ∧
      l.entities = some blocks ∧ blocks.map (·.path) = ["/r/s/C.cs"] := by
  obtain ⟨r, h⟩ : ∃ r, (build nested "/" ⟨"/r/s", some "/r", "bin"⟩ csharp).result = .ok r :=
    Except.exists_eq_ok (by decide +kernel)
  obtain ⟨l, hl, hr, hstructural, hheading, hentities⟩ :=
    build_lists_source_files (by decide +kernel) (by decide +kernel) h
  have hfolder : nested.isFolder "/" "/r" := by decide +kernel
  have hfiles : (Filter.read "bin").toOption.all fun f =>
      (Source.files nested "/" f "/r/s").result.toOption == some ["/r/s/C.cs"] &&
      (Source.files nested "/" f "/r").result.toOption == some ["/r/s/C.cs"] := by
    decide +kernel
  have hout : ¬ LiesInIgnored "/" l.filter "/r/s" "/r" := by
    rintro ⟨way, hway, -⟩
    have hlength := congrArg List.length hway
    have hroot : (Path.fullSteps "/" "/r/s").length = 2 := by decide +kernel
    have hbase : (Path.fullSteps "/" "/r").length = 1 := by decide +kernel
    rw [List.length_append, hroot, hbase] at hlength
    omega
  obtain ⟨blocks, hblocks, -, hlisted⟩ := hentities "/r" rfl hfolder
  simp only [hl.filter_eq, Except.toOption, Option.all_some, hstructural, hlisted hout,
    Bool.and_eq_true, beq_iff_eq, Option.some.injEq] at hfiles
  exact ⟨r, l, blocks, h, hr, hheading.2 ⟨"/r", rfl, hfolder⟩, hfiles.1, hblocks, hfiles.2⟩

end Report

end Outline
