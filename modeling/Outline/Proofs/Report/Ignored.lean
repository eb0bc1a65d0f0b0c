import Outline.Proofs.Folder.Agreement
import Outline.Proofs.Report.Files

set_option autoImplicit false

/-!
# What ignored folders contribute

A file in an ignored folder is neither drawn nor listed among the files below the root. The list of
entities keeps to the names between the root and a file, but not to the name of the root itself: if
that one is ignored, a folder of entities below it is still listed.
-/
namespace Outline

namespace Source

theorem exists_way_of_mem_files {fs : FileSystem} {here base path : String} {f : Filter}
    {paths : List String} (hfs : fs.isProper) (hhere : Path.isAbsolute here)
    (h : (files fs here f base).result = .ok paths) (hp : path ∈ paths) :
    f.ignores (Folder.ownName here base) = false ∧ ∃ way, way ≠ [] ∧
      Path.fullSteps here path = Path.fullSteps here base ++ way ∧
      ∀ folder ∈ way.dropLast, f.ignores folder = false := by
  obtain ⟨hname, place, entries, way, hl, hway, rfl⟩ := (mem_files_iff hfs h path).1 hp
  have hproper := fs.isProper_of_at? hfs (fs.at?_of_listFolder hl)
  obtain ⟨hne, hfolders⟩ := hway.unignored
  exact ⟨hname, way, hne, Path.fullSteps_foldl_join hhere base (hway.isName hproper), hfolders⟩

end Source

namespace Report

variable {fs : FileSystem} {here : String}

/-- The block shows the file at the end of a way down from the root. -/
def FileBlock.IsAt (here root : String) (way : List String) (b : FileBlock) : Prop :=
  Path.fullSteps here b.path = Path.fullSteps here root ++ way

/-- At the end of the way down from the root there is something in an ignored folder, which is the
root or stands on the way. -/
def InIgnored (here : String) (f : Filter) (root : String) (way : List String) : Prop :=
  way ≠ [] ∧ (f.ignores (Folder.ownName here root) ∨ ∃ folder ∈ way.dropLast, f.ignores folder)

/-- The root is ignored, and there are source files in the folder of entities, which lies below the
root but in no other ignored folder. -/
def EntitiesInIgnoredRoot (fs : FileSystem) (here : String) (f : Filter) (s : Settings) : Prop :=
  f.ignores (Folder.ownName here s.root) ∧ ∃ folder down paths,
    s.entities = some folder ∧ fs.isFolder here folder ∧
    Path.fullSteps here folder = Path.fullSteps here s.root ++ down ∧ down ≠ [] ∧
    (∀ name ∈ down, f.ignores name = false) ∧
    (Source.files fs here f folder).result = .ok paths ∧ paths ≠ []

/-- A file that is found from a folder and is not hidden is in an ignored folder only if the folder
it is found from lies below an ignored root. -/
theorem below_ignored_root_of_mem_files {root base path : String} {f : Filter}
    {paths way : List String} (hfs : fs.isProper) (hhere : Path.isAbsolute here)
    (h : (Source.files fs here f base).result = .ok paths) (hp : path ∈ paths)
    (hlies : ¬ LiesInIgnored here f root base)
    (hpath : Path.fullSteps here path = Path.fullSteps here root ++ way)
    (hin : InIgnored here f root way) :
    f.ignores (Folder.ownName here root) ∧ ∃ down,
      Path.fullSteps here base = Path.fullSteps here root ++ down ∧ down ≠ [] ∧
      ∀ name ∈ down, f.ignores name = false := by
  obtain ⟨hname, rest, hrest, hpath', hfolders⟩ := Source.exists_way_of_mem_files hfs hhere h hp
  obtain ⟨hway, hin⟩ := hin
  rw [hpath] at hpath'
  rcases List.append_eq_append_iff.1 hpath' with ⟨down, hbase, hdown⟩ | ⟨up, hroot, hup⟩
  · -- the base lies below the root
    have hclear : ∀ name ∈ down, f.ignores name = false := by
      intro name hn
      cases hi : f.ignores name with
      | false => rfl
      | true => exact absurd ⟨down, hbase, name, hn, hi⟩ hlies
    have hignored : f.ignores (Folder.ownName here root) := by
      refine hin.resolve_right ?_
      rintro ⟨folder, hfolder, hi⟩
      rw [hdown, List.dropLast_append_of_ne_nil hrest, List.mem_append] at hfolder
      rcases hfolder with hd | hr
      · simp [hclear folder hd] at hi
      · simp [hfolders folder hr] at hi
    refine ⟨hignored, down, hbase, ?_, hclear⟩
    rintro rfl
    have hroot : Path.fullSteps here root = Path.fullSteps here base ++ [] := by simp [hbase]
    rw [Folder.ownName_unignored hhere hname hroot (by simp)] at hignored
    cases hignored
  · -- the root lies on the way from the base
    rw [hup, List.dropLast_append_of_ne_nil hway, List.forall_mem_append] at hfolders
    have hclear := Folder.ownName_unignored hhere hname hroot hfolders.1
    rcases hin with hi | ⟨folder, hfolder, hi⟩
    · simp [hclear] at hi
    · simp [hfolders.2 folder hfolder] at hi

theorem not_inIgnored_of_mem_files {root path : String} {f : Filter} {paths way : List String}
    (hfs : fs.isProper) (hhere : Path.isAbsolute here)
    (h : (Source.files fs here f root).result = .ok paths) (hp : path ∈ paths)
    (hpath : Path.fullSteps here path = Path.fullSteps here root ++ way) :
    ¬ InIgnored here f root way := by
  intro hin
  obtain ⟨-, down, hdown, hne, -⟩ := below_ignored_root_of_mem_files hfs hhere h hp
    (not_liesInIgnored_self here f root) hpath hin
  exact hne (List.self_eq_append_right.1 hdown)

theorem AreBlocks.listed_of_mem {parse : Parser} {root base : String} {f : Filter}
    {detail : Listing.Detail} {blocks : List FileBlock} {b : FileBlock} (hfs : fs.isProper)
    (hhere : Path.isAbsolute here) (h : AreBlocks fs here root parse f detail base blocks)
    (hb : b ∈ blocks) :
    ¬ LiesInIgnored here f root base ∧ ∃ paths,
      (Source.files fs here f base).result = .ok paths ∧ b.path ∈ paths := by
  obtain ⟨hnone, hall⟩ := h.files_eq hfs hhere
  have hlies : ¬ LiesInIgnored here f root base := by
    intro hlies
    rw [hnone hlies] at hb
    cases hb
  exact ⟨hlies, _, hall hlies, List.mem_map_of_mem hb⟩

theorem not_drawn_of_inIgnored {root : String} {f : Filter} {folder : Folder} {way : List String}
    (hfs : fs.isProper) (h : Folder.snapshot fs here f.ignores root = .ok folder)
    (hin : InIgnored here f root way) : way ∉ Folder.shownWays (folder.lines f.ignores) := by
  intro hway
  obtain ⟨hroot, hfolders⟩ := Folder.unignored_of_mem_shownWays hfs h hway
  rcases hin.2 with hi | ⟨name, hname, hi⟩
  · simp [hroot] at hi
  · simp [hfolders name hname] at hi

theorem Layout.Describes.entitiesInIgnoredRoot [CharacterNames] {parse : Parser} {s : Settings}
    {l : Layout} {way : List String} {blocks : List FileBlock} {b : FileBlock} (hfs : fs.isProper)
    (hhere : Path.isAbsolute here) (h : l.Describes fs here parse s)
    (hblocks : l.entities = some blocks) (hb : b ∈ blocks) (hat : b.IsAt here s.root way)
    (hin : InIgnored here l.filter s.root way) : EntitiesInIgnoredRoot fs here l.filter s := by
  obtain ⟨folder, hs, hfolder, hare⟩ := h.areBlocks_of_entities hblocks
  obtain ⟨hlies, paths, hpaths, hp⟩ := hare.listed_of_mem hfs hhere hb
  obtain ⟨hroot, down, hdown, hne, hclear⟩ :=
    below_ignored_root_of_mem_files hfs hhere hpaths hp hlies hat hin
  exact ⟨hroot, folder, down, paths, hs, hfolder, hdown, hne, hclear, hpaths, List.ne_nil_of_mem hp⟩

theorem Layout.Describes.exists_listed [CharacterNames] {parse : Parser} {s : Settings} {l : Layout}
    (hfs : fs.isProper) (hhere : Path.isAbsolute here) (h : l.Describes fs here parse s)
    (hin : EntitiesInIgnoredRoot fs here l.filter s) :
    ∃ way blocks b, InIgnored here l.filter s.root way ∧ l.entities = some blocks ∧ b ∈ blocks ∧
      b.IsAt here s.root way := by
  obtain ⟨hroot, folder, down, paths, hs, hfolder, hdown, -, hclear, hpaths, hne⟩ := hin
  obtain ⟨blocks, hblocks, hare⟩ := h.entities_of_isFolder hs hfolder
  have hlisted := (hare.files_eq hfs hhere).2 (not_liesInIgnored hdown hclear)
  rw [hpaths, Except.ok.injEq] at hlisted
  obtain ⟨path, hp⟩ := List.exists_mem_of_ne_nil paths hne
  obtain ⟨b, hb, rfl⟩ := List.mem_map.1 (hlisted ▸ hp)
  obtain ⟨-, way, hway, hpath, -⟩ := Source.exists_way_of_mem_files hfs hhere hpaths hp
  refine ⟨down ++ way, blocks, b, ⟨by simp [hway], .inl hroot⟩, hblocks, hb, ?_⟩
  rw [FileBlock.IsAt, hpath, hdown, List.append_assoc]

/-- Nothing in an ignored folder is drawn or listed below the root. Nothing in an ignored folder is
listed among the entities, either, if and only if these are not inside an ignored root. -/
theorem ignored_contributes_nothing_iff [CharacterNames] {parse : Parser} {s : Settings}
    {r : Report} (hfs : fs.isProper) (hhere : Path.isAbsolute here)
    (h : (build fs here s parse).result = .ok r) :
    ∃ l : Layout, l.Describes fs here parse s ∧ r = l.report ∧
      (∀ way, InIgnored here l.filter s.root way →
        way ∉ Folder.shownWays (l.folder.lines l.filter.ignores) ∧
        ∀ b ∈ l.structural, ¬ b.IsAt here s.root way) ∧
      ((∀ way, InIgnored here l.filter s.root way →
          ∀ blocks, l.entities = some blocks → ∀ b ∈ blocks, ¬ b.IsAt here s.root way) ↔
        ¬ EntitiesInIgnoredRoot fs here l.filter s) := by
  obtain ⟨l, hl, rfl⟩ := build_eq_ok_iff.1 h
  refine ⟨l, hl, rfl, ?_, ?_, ?_⟩
  · intro way hin
    refine ⟨not_drawn_of_inIgnored hfs hl.folder_eq hin, ?_⟩
    intro b hb hat
    obtain ⟨-, paths, hpaths, hp⟩ := hl.structural_eq.listed_of_mem hfs hhere hb
    exact not_inIgnored_of_mem_files hfs hhere hpaths hp hat hin
  · intro hnone hentities
    obtain ⟨way, blocks, b, hin, hblocks, hb, hat⟩ := hl.exists_listed hfs hhere hentities
    exact hnone way hin blocks hblocks b hb hat
  · intro hnot way hin blocks hblocks b hb hat
    exact hnot (hl.entitiesInIgnoredRoot hfs hhere hblocks hb hat hin)

/-- A source file below a folder with build results. -/
def buried : FileSystem :=
  ⟨[("obj", .folder [("s", .folder [("B.cs", .file "class B { }".toUTF8.toList 0o644)])])]⟩

theorem ignored_contributes_nothing_buried :
    ∃ (r : Report) (l : Layout),
      (build buried "/" ⟨"/obj", some "/obj/s", "s|t"⟩ csharp).result = .ok r ∧ r = l.report ∧
      InIgnored "/" l.filter "/obj" ["s", "B.cs"] ∧
      ["s", "B.cs"] ∉ Folder.shownWays (l.folder.lines l.filter.ignores) ∧
      ∀ blocks, l.entities = some blocks → ∀ b ∈ blocks, ¬ b.IsAt "/" "/obj" ["s", "B.cs"] := by
  obtain ⟨r, h⟩ : ∃ r, (build buried "/" ⟨"/obj", some "/obj/s", "s|t"⟩ csharp).result = .ok r :=
    Except.exists_eq_ok (by decide +kernel)
  obtain ⟨l, hl, hr, hshown, hiff⟩ :=
    ignored_contributes_nothing_iff (by decide +kernel) (by decide +kernel) h
  have hfilter : (Filter.read "s|t").toOption.all fun f =>
      f.ignores "s" && !f.ignores (Folder.ownName "/" "/obj") := by decide +kernel
  rw [hl.filter_eq] at hfilter
  simp only [Except.toOption, Option.all_some, Bool.and_eq_true, Bool.not_eq_true'] at hfilter
  have hin : InIgnored "/" l.filter "/obj" ["s", "B.cs"] :=
    ⟨by decide, .inr ⟨"s", by decide, hfilter.1⟩⟩
  have hnot : ¬ EntitiesInIgnoredRoot buried "/" l.filter ⟨"/obj", some "/obj/s", "s|t"⟩ := by
    rintro ⟨hroot, -⟩
    rw [hfilter.2] at hroot
    cases hroot
  exact ⟨r, l, h, hr, hin, (hshown _ hin).1, hiff.2 hnot _ hin⟩

theorem entities_in_ignored_root_listed :
    ∃ f, Filter.read "obj" = .ok f ∧ InIgnored "/" f "/obj" ["s", "B.cs"] ∧
      (build buried "/" ⟨"/obj", some "/obj/s", "obj"⟩ csharp).result.toOption =
        some ⟨["# Project structure (filtered)\n\n", "## Types and members\n",
          "### Entity fields and properties\n",
          "#### File: s/B.cs\n```csharp\nclass B\n```\n"]⟩ := by
  obtain ⟨f, hf⟩ : ∃ f, Filter.read "obj" = .ok f := Except.exists_eq_ok (by decide +kernel)
  have hroot : (Filter.read "obj").toOption.all (·.ignores (Folder.ownName "/" "/obj")) := by
    decide +kernel
  rw [hf] at hroot
  exact ⟨f, hf, ⟨by decide, .inl hroot⟩, by decide +kernel⟩

end Report

end Outline
