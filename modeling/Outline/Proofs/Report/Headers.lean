import Outline.Proofs.Path.Return
import Outline.Proofs.Report.Files

set_option autoImplicit false

/-!
# Headers of blocks

A block is headed by the relative path of its file, seen from the root. Joined to the root, the
header is the path that was read for the block, wherever the file lies; so no two blocks of one part
have the same header. Headers of structural blocks never step up.
-/
namespace Outline

namespace Source

theorem nodup_files {fs : FileSystem} {here base : String} {f : Filter} {paths : List String}
    (hfs : fs.isProper) (h : (files fs here f base).result = .ok paths) : paths.Nodup := by
  cases hname : f.ignores (Folder.ownName here base) with
  | true =>
    rw [files_of_ignored hname, Except.ok.injEq] at h
    simp [← h]
  | false =>
    cases hl : fs.listFolder here base with
    | error e =>
      have hempty : ∀ path, path ∉ paths := by
        intro path hp
        obtain ⟨-, place, entries, way, hfound, -⟩ := (mem_files_iff hfs h path).1 hp
        rw [hl] at hfound
        cases hfound
      rw [List.eq_nil_iff_forall_not_mem.2 hempty]
      exact List.nodup_nil
    | ok found =>
      obtain ⟨place, entries⟩ := found
      have hproper := fs.isProper_of_at? hfs (fs.at?_of_listFolder hl)
      rw [files_of_listFolder hfs hname hl, Except.ok.injEq] at h
      subst h
      have hways : (sortWays (waysAmong fs here f.ignores base entries)).Nodup :=
        (sortWays_perm _).nodup_iff.2 (nodup_waysAmong hproper base)
      refine hways.map_on fun way hway way' hway' heq => ?_
      have hpieces : ∀ way ∈ sortWays (waysAmong fs here f.ignores base entries),
          ∀ name ∈ way, Path.IsPiece name := by
        intro way hway
        rw [(sortWays_perm _).mem_iff, mem_waysAmong_iff hproper] at hway
        exact Path.isPiece_of_isName (hway.isName hproper)
      have hsteps := congrArg Path.steps heq
      rw [Path.steps_foldl_join base (hpieces way hway),
        Path.steps_foldl_join base (hpieces way' hway'), List.append_cancel_left_eq] at hsteps
      exact hsteps

end Source

namespace Report

variable {fs : FileSystem} {here root base : String} {parse : Parser} {f : Filter}
  {detail : Listing.Detail} {blocks : List FileBlock}

/-- Seen from the root, the header leads to the file whose content is outlined in the block. -/
def FileBlock.LeadsBack (fs : FileSystem) (here root : String) (parse : Parser) (b : FileBlock) :
    Prop :=
  Path.normalize (Path.join root b.relative) = b.path ∧ Path.isAbsolute b.path ∧
    ∃ bytes, fs.fileBytes here b.path = .ok bytes ∧
      (parse (Text.sourceText bytes)).result = .ok b.outline

theorem AreBlocks.isBlockOf (h : AreBlocks fs here root parse f detail base blocks) :
    ∀ b ∈ blocks, IsBlockOf fs here root parse detail b.path b := by
  obtain ⟨paths, -, hblocks⟩ := h
  generalize (paths.filter fun path => !isHidden f (Path.relative here path root)) = kept at hblocks
  induction hblocks with
  | nil => simp
  | cons first _ ih => exact List.forall_mem_cons.2 ⟨first.path_eq ▸ first, ih⟩

theorem AreBlocks.exists_way (hfs : fs.isProper)
    (h : AreBlocks fs here root parse f detail base blocks) {b : FileBlock} (hb : b ∈ blocks) :
    ∃ way, way ≠ [] ∧ (∀ name ∈ way, Path.IsName name) ∧ b.path = way.foldl Path.join base := by
  obtain ⟨paths, hpaths, -⟩ := id h
  have hmem : b.path ∈ blocks.map (·.path) := List.mem_map_of_mem hb
  rw [h.map_path hpaths] at hmem
  obtain ⟨-, place, entries, way, hl, hway, hpath⟩ :=
    (Source.mem_files_iff hfs hpaths b.path).1 (List.mem_of_mem_filter hmem)
  have hproper := fs.isProper_of_at? hfs (fs.at?_of_listFolder hl)
  exact ⟨way, hway.unignored.1, hway.isName hproper, hpath⟩

theorem AreBlocks.leadsBack (hfs : fs.isProper) (hroot : Path.IsRooted root)
    (hbase : Path.IsRooted base) (h : AreBlocks fs here root parse f detail base blocks) :
    ∀ b ∈ blocks, b.LeadsBack fs here root parse := by
  intro b hb
  obtain ⟨way, -, hnames, hpath⟩ := h.exists_way hfs hb
  have hrooted : Path.IsRooted b.path := hpath ▸ hbase.foldl_join hnames
  have hblock := h.isBlockOf b hb
  refine ⟨?_, hrooted.isAbsolute, hblock.parsed⟩
  rw [hblock.relative_eq]
  exact hroot.normalize_join_relative here hrooted

/-- The header gives the path back, and no file is listed twice. -/
theorem AreBlocks.nodup_relative (hfs : fs.isProper) (hroot : Path.IsRooted root)
    (hbase : Path.IsRooted base) (h : AreBlocks fs here root parse f detail base blocks) :
    (blocks.map (·.relative)).Nodup := by
  obtain ⟨paths, hpaths, -⟩ := id h
  have hnodup : (blocks.map (·.path)).Nodup := by
    rw [h.map_path hpaths]
    exact (Source.nodup_files hfs hpaths).filter _
  have hback : blocks.map (·.path) =
      (blocks.map (·.relative)).map fun relative => Path.normalize (Path.join root relative) := by
    rw [List.map_map]
    refine List.map_congr_left fun b hb => ?_
    rw [Function.comp_apply, (h.leadsBack hfs hroot hbase b hb).1]
  rw [hback] at hnodup
  exact hnodup.of_map _

theorem AreBlocks.not_mem_segments (hfs : fs.isProper) (hhere : Path.isAbsolute here)
    (h : AreBlocks fs here root parse f detail root blocks) :
    ∀ b ∈ blocks, ".." ∉ Path.segments b.relative := by
  intro b hb hup
  obtain ⟨way, hne, hnames, hpath⟩ := h.exists_way hfs hb
  rw [(h.isBlockOf b hb).relative_eq, hpath,
    Path.segments_relative_foldl_join hhere root hnames hne] at hup
  exact (hnames ".." hup).2.2 rfl

/-- Joined to the root, the header of a block is the path of the file that was parsed for it; the
headers of each part are distinct, and those of the structural part have no step up. -/
theorem headers_lead_back [CharacterNames] {given entities filter : Option String} {s : Settings}
    {r : Report} (hfs : fs.isProper) (hhere : Path.isAbsolute here)
    (hs : Settings.make fs here given entities filter = .ok s)
    (hroot : ¬ ['/', '/'] <+: s.root.toList)
    (hentities : ∀ folder, s.entities = some folder → ¬ ['/', '/'] <+: folder.toList)
    (h : (build fs here s parse).result = .ok r) :
    ∃ l : Layout, l.Describes fs here parse s ∧ r = l.report ∧
      (∀ b ∈ l.structural, b.LeadsBack fs here s.root parse) ∧
      (l.structural.map (·.relative)).Nodup ∧
      (∀ b ∈ l.structural, ".." ∉ Path.segments b.relative) ∧
      ∀ blocks, l.entities = some blocks →
        (∀ b ∈ blocks, b.LeadsBack fs here s.root parse) ∧ (blocks.map (·.relative)).Nodup := by
  obtain ⟨l, hl, rfl⟩ := build_eq_ok_iff.1 h
  obtain ⟨-, ⟨path, hpath⟩, hfolders⟩ := Settings.make_eq_ok hs
  have hrooted : Path.IsRooted s.root := by
    rw [hpath] at hroot ⊢
    exact Path.isRooted_absolute hhere hroot
  refine ⟨l, hl, rfl, hl.structural_eq.leadsBack hfs hrooted hrooted,
    hl.structural_eq.nodup_relative hfs hrooted hrooted,
    hl.structural_eq.not_mem_segments hfs hhere, ?_⟩
  intro blocks hblocks
  obtain ⟨folder, hfolder, -, hare⟩ := hl.areBlocks_of_entities hblocks
  obtain ⟨path', hpath'⟩ := hfolders folder hfolder
  have hbase : Path.IsRooted folder := by
    have hslash := hentities folder hfolder
    rw [hpath'] at hslash ⊢
    exact Path.isRooted_absolute hhere hslash
  exact ⟨hare.leadsBack hfs hrooted hbase, hare.nodup_relative hfs hrooted hbase⟩

/-- Two folders side by side, each with a source file. -/
def sideBySide : FileSystem :=
  ⟨[("r", .folder [("s", .folder [("A.cs", .file "class A { }".toUTF8.toList 0o644)]),
    ("t", .folder [("B.cs", .file "class B { int b; }".toUTF8.toList 0o644)])])]⟩

theorem headers_lead_back_beside :
    (build sideBySide "/" ⟨"/r/s", some "/r/t", "bin"⟩ csharp).result.toOption = some
      ⟨["# Project structure (filtered)\n\n└──s/\n    └──A.cs\n",
        "## Types and members\n", "#### File: A.cs\n```csharp\nclass A\n```\n",
        "### Entity fields and properties\n",
        "#### File: ../t/B.cs\n```csharp\nclass B\n    int b;\n```\n"]⟩ ∧
    ∃ (l : Layout) (blocks : List FileBlock),
      (build sideBySide "/" ⟨"/r/s", some "/r/t", "bin"⟩ csharp).result = .ok l.report ∧
      l.entities = some blocks ∧
      (∀ b ∈ l.structural ++ blocks, b.LeadsBack sideBySide "/" "/r/s" csharp) ∧
      (blocks.map (·.relative)).Nodup := by
  refine ⟨by decide +kernel, ?_⟩
  obtain ⟨r, hbuild⟩ :
      ∃ r, (build sideBySide "/" ⟨"/r/s", some "/r/t", "bin"⟩ csharp).result = .ok r :=
    Except.exists_eq_ok (by decide +kernel)
  have hmake : Settings.make sideBySide "/" (some "/r/s") (some "/r/t") (some "bin") =
      .ok ⟨"/r/s", some "/r/t", "bin"⟩ := Except.eq_ok_of_toOption (by decide +kernel)
  have hslash : ∀ folder, some "/r/t" = some folder → ¬ ['/', '/'] <+: folder.toList := by
    rintro folder ⟨⟩
    decide
  obtain ⟨l, hl, rfl, hstructural, -, -, hentities⟩ :=
    headers_lead_back (by decide +kernel) (by decide +kernel) hmake (by decide) hslash hbuild
  obtain ⟨blocks, hblocks, -⟩ := hl.entities_of_isFolder rfl (by decide +kernel)
  obtain ⟨hback, hnodup⟩ := hentities blocks hblocks
  exact ⟨l, blocks, hbuild, hblocks, List.forall_mem_append.2 ⟨hstructural, hback⟩, hnodup⟩

end Report

end Outline
