import Outline.Proofs.Folder.Agreement
import Outline.Proofs.Report.Files
import Outline.Proofs.Source.Subfolder

set_option autoImplicit false

/-!
# Entities below the root

If the folder of entities is reached from the root through real folders, its files are listed twice:
the blocks of entities repeat those structural blocks whose files lie in it, in the same order and
with the same outlines, in detail.
-/
namespace Outline

/-- From a root, a way down through real folders leads to a folder. -/
def FileSystem.IsSubfolder (fs : FileSystem) (here root folder : String) (down : List String) :
    Prop :=
  ∃ place entries below, fs.listFolder here root = .ok (place, entries) ∧
    fs.at? (place ++ down) = some (.folder below) ∧
    Path.fullSteps here folder = Path.fullSteps here root ++ down

namespace Report

variable {fs : FileSystem} {here root : String} {parse : Parser} {f : Filter}

/-- The file of the block lies in a folder. -/
def FileBlock.isIn (here folder : String) (b : FileBlock) : Bool :=
  (Path.fullSteps here folder).isPrefixOf (Path.fullSteps here b.path)

theorem map_eq_map_of_forall₂ {α β γ δ : Type} {R : α → β → Prop} {S : α → γ → Prop} {as : List α}
    {bs : List β} {cs : List γ} {g : β → δ} {g' : γ → δ} (h : List.Forall₂ R as bs)
    (h' : List.Forall₂ S as cs) (heq : ∀ a b c, R a b → S a c → g b = g' c) :
    bs.map g = cs.map g' := by
  induction h generalizing cs with
  | nil =>
    cases h'
    rfl
  | cons first _ ih =>
    cases h' with
    | cons first' rest' => rw [List.map_cons, List.map_cons, heq _ _ _ first first', ih rest']

theorem IsBlockOf.isIn_iff {folder : String} {detail : Listing.Detail} {down way : List String}
    {b : FileBlock} (hhere : Path.isAbsolute here) (hnames : ∀ name ∈ way, Path.IsName name)
    (hdown : Path.fullSteps here folder = Path.fullSteps here root ++ down)
    (h : IsBlockOf fs here root parse detail (way.foldl Path.join root) b) :
    b.isIn here folder = down.isPrefixOf way := by
  rw [FileBlock.isIn, h.path_eq, Path.fullSteps_foldl_join hhere root hnames, hdown,
    Bool.eq_iff_iff, List.isPrefixOf_iff_prefix, List.isPrefixOf_iff_prefix,
    List.prefix_append_right_inj]

/-- Blocks of one file, found from the root and from a folder below it, differ in detail only. -/
theorem IsBlockOf.agree {folder : String} {detail detail' : Listing.Detail}
    {down way : List String} {b c : FileBlock} (hhere : Path.isAbsolute here)
    (hroot : Path.isAbsolute root) (hfolder : Path.isAbsolute folder)
    (hsteps : Path.steps folder = Path.steps root ++ down)
    (hdown : Path.fullSteps here folder = Path.fullSteps here root ++ down)
    (hnames : ∀ name ∈ down ++ way, Path.IsName name) (hway : way ≠ [])
    (hb : IsBlockOf fs here root parse detail ((down ++ way).foldl Path.join root) b)
    (hc : IsBlockOf fs here root parse detail' (way.foldl Path.join folder) c) :
    b.relative = c.relative ∧ b.outline = c.outline := by
  have hpieces : ∀ name ∈ down ++ way, Path.IsPiece name := fun n hn => (hnames n hn).1
  have hpieces' : ∀ name ∈ way, Path.IsPiece name := fun n hn =>
    hpieces n (List.mem_append_right _ hn)
  have hnames' : ∀ name ∈ way, Path.IsName name := fun n hn =>
    hnames n (List.mem_append_right _ hn)
  have hne : down ++ way ≠ [] := by simp [hway]
  constructor
  · have hfull : Path.fullSteps here (way.foldl Path.join folder) =
        Path.fullSteps here root ++ (down ++ way) := by
      rw [Path.fullSteps_foldl_join hhere folder hnames', hdown, List.append_assoc]
    rw [hb.relative_eq, hc.relative_eq, Path.relative_foldl_join hhere root hnames hne,
      Path.relative_of_append hfull, if_neg (by simpa using hne)]
  · obtain ⟨bytes, hbytes, hparse⟩ := hb.parsed
    obtain ⟨bytes', hbytes', hparse'⟩ := hc.parsed
    have hwaypoints : FileSystem.waypoints ((down ++ way).foldl Path.join root) =
        FileSystem.waypoints (way.foldl Path.join folder) := by
      rw [FileSystem.waypoints_foldl_join root hne hpieces,
        FileSystem.waypoints_foldl_join folder hway hpieces', hsteps, List.append_assoc]
    have heq := FileSystem.fileBytes_inj
      ((Path.isAbsolute_foldl_join root hpieces).trans hroot)
      ((Path.isAbsolute_foldl_join folder hpieces').trans hfolder) hwaypoints hbytes hbytes'
    rw [heq, hparse', Except.ok.injEq] at hparse
    exact hparse.symm

theorem AreBlocks.forall₂_ways {base : String} {detail : Listing.Detail}
    {blocks : List FileBlock} {place : Location} {entries : List (String × Entry)}
    (hfs : fs.isProper) (hhere : Path.isAbsolute here)
    (hname : f.ignores (Folder.ownName here base) = false)
    (hlies : ¬ LiesInIgnored here f root base)
    (hl : fs.listFolder here base = .ok (place, entries))
    (h : AreBlocks fs here root parse f detail base blocks) :
    List.Forall₂ (fun way b => ((∀ name ∈ way, Path.IsName name) ∧ way ≠ []) ∧
        IsBlockOf fs here root parse detail (way.foldl Path.join base) b)
      (Source.sortWays (Source.waysAmong fs here f.ignores base entries)) blocks := by
  obtain ⟨paths, hpaths, hblocks⟩ := h
  rw [(filter_not_isHidden hfs hhere hpaths).2 hlies] at hblocks
  rw [Source.files_of_listFolder hfs hname hl, Except.ok.injEq] at hpaths
  subst hpaths
  rw [List.forall₂_map_left_iff] at hblocks
  refine (List.forall₂_and_left _ _).2 ⟨?_, hblocks⟩
  intro way hway
  have hproper := fs.isProper_of_at? hfs (fs.at?_of_listFolder hl)
  have hoffers := (Source.mem_waysAmong_iff hproper base way).1
    ((Source.sortWays_perm _).mem_iff.1 hway)
  exact ⟨hoffers.isName hproper, hoffers.unignored.1⟩

/-- Every file that has a block can be read. -/
theorem AreBlocks.readable {base : String} {detail : Listing.Detail}
    {blocks : List FileBlock} {place : Location} {entries : List (String × Entry)}
    (hfs : fs.isProper) (hhere : Path.isAbsolute here)
    (hname : f.ignores (Folder.ownName here base) = false)
    (hlies : ¬ LiesInIgnored here f root base)
    (hl : fs.listFolder here base = .ok (place, entries))
    (h : AreBlocks fs here root parse f detail base blocks) :
    ∀ way ∈ Source.waysAmong fs here f.ignores base entries,
      ∃ bytes, fs.fileBytes here (way.foldl Path.join base) = .ok bytes := by
  have hways := h.forall₂_ways hfs hhere hname hlies hl
  have hsorted : ∀ way ∈ Source.sortWays (Source.waysAmong fs here f.ignores base entries),
      ∃ bytes, fs.fileBytes here (way.foldl Path.join base) = .ok bytes := by
    generalize Source.sortWays (Source.waysAmong fs here f.ignores base entries) = ways at hways
    clear h
    induction hways with
    | nil => simp
    | cons first _ ih =>
      obtain ⟨bytes, hbytes, -⟩ := first.2.parsed
      exact List.forall_mem_cons.2 ⟨⟨bytes, hbytes⟩, ih⟩
  exact fun way hway => hsorted way ((Source.sortWays_perm _).mem_iff.2 hway)

theorem AreBlocks.detail_eq {base : String} {detail : Listing.Detail} {blocks : List FileBlock}
    (h : AreBlocks fs here root parse f detail base blocks) : ∀ b ∈ blocks, b.detail = detail := by
  obtain ⟨paths, -, hblocks⟩ := h
  generalize (paths.filter fun path => !isHidden f (Path.relative here path root)) = kept at hblocks
  induction hblocks with
  | nil => simp
  | cons first _ ih => exact List.forall_mem_cons.2 ⟨first.detail_eq, ih⟩

section Subfolder

variable {folder : String} {down : List String} {place : Location}
  {entries below : List (String × Entry)} {structural blocks : List FileBlock}

theorem AreBlocks.forall₂_filter_isIn (hfs : fs.isProper) (hhere : Path.isAbsolute here)
    (hname : f.ignores (Folder.ownName here root) = false)
    (hplace : fs.listFolder here root = .ok (place, entries))
    (hdown : Path.fullSteps here folder = Path.fullSteps here root ++ down)
    (h : AreBlocks fs here root parse f .structural root structural) :
    List.Forall₂ (fun way b => ((∀ name ∈ way, Path.IsName name) ∧ way ≠ []) ∧
        IsBlockOf fs here root parse .structural (way.foldl Path.join root) b)
      ((Source.sortWays (Source.waysAmong fs here f.ignores root entries)).filter
        (down.isPrefixOf ·))
      (structural.filter (·.isIn here folder)) := by
  have hways := h.forall₂_ways hfs hhere hname (not_liesInIgnored_self here f root) hplace
  refine List.rel_filter ?_ hways
  intro way b hb
  change down.isPrefixOf way = true ↔ b.isIn here folder = true
  rw [hb.2.isIn_iff hhere hb.1.1 hdown]

theorem AreBlocks.nothing_of_ignored (hfs : fs.isProper) (hhere : Path.isAbsolute here)
    (hname : f.ignores (Folder.ownName here root) = false)
    (hplace : fs.listFolder here root = .ok (place, entries))
    (hbelow : fs.at? (place ++ down) = some (.folder below))
    (hdown : Path.fullSteps here folder = Path.fullSteps here root ++ down)
    (hign : ∃ name ∈ down, f.ignores name)
    (hs : AreBlocks fs here root parse f .structural root structural)
    (he : AreBlocks fs here root parse f .detailed folder blocks) :
    blocks = [] ∧ structural.filter (·.isIn here folder) = [] := by
  have hproper := fs.isProper_of_at? hfs (fs.at?_of_listFolder hplace)
  rw [fs.at?_append_of_folder (fs.at?_of_listFolder hplace)] at hbelow
  have hways := hs.forall₂_filter_isIn hfs hhere hname hplace hdown
  rw [Source.filter_sortWays_of_ignored hproper hbelow hign,
    List.forall₂_nil_left_iff] at hways
  exact ⟨(he.files_eq hfs hhere).1 ⟨down, hdown, hign⟩, hways⟩

theorem AreBlocks.repeat_of_clear {drawn : Folder} (hfs : fs.isProper)
    (hhere : Path.isAbsolute here) (hname : f.ignores (Folder.ownName here root) = false)
    (hroot : ∃ given, root = Path.absolute here given)
    (hfolder : ∃ given, folder = Path.absolute here given)
    (hplace : fs.listFolder here root = .ok (place, entries))
    (hbelow : fs.listFolder here folder = .ok (place ++ down, below))
    (hdown : Path.fullSteps here folder = Path.fullSteps here root ++ down)
    (hclear : ∀ name ∈ down, f.ignores name = false)
    (hdrawn : Folder.snapshot fs here f.ignores root = .ok drawn)
    (hs : AreBlocks fs here root parse f .structural root structural)
    (he : AreBlocks fs here root parse f .detailed folder blocks) :
    blocks.map (fun b => (b.relative, b.outline)) =
      (structural.filter (·.isIn here folder)).map (fun b => (b.relative, b.outline)) := by
  have hproper := fs.isProper_of_at? hfs (fs.at?_of_listFolder hplace)
  have hproper' := fs.isProper_of_at? hfs (fs.at?_of_listFolder hbelow)
  have hfind := fs.at?_of_listFolder hbelow
  rw [fs.at?_append_of_folder (fs.at?_of_listFolder hplace)] at hfind
  obtain ⟨habs, hrootSteps⟩ := Path.steps_eq_fullSteps hhere hroot
  obtain ⟨habs', hfolderSteps⟩ := Path.steps_eq_fullSteps hhere hfolder
  have hsteps : Path.steps folder = Path.steps root ++ down := by
    rw [hfolderSteps, hdown, hrootSteps]
  have hlies := not_liesInIgnored hdown hclear
  have hown := Folder.ownName_unignored hhere hname hdown hclear
  have hopens := Folder.passes_of_assemble hproper
    (Folder.assemble_of_snapshot hname hplace hdrawn) hclear hfind
  have hmem := Source.mem_waysAmong_below_iff hhere hroot hfolder hsteps hproper hfind hopens
    (hs.readable hfs hhere hname (not_liesInIgnored_self here f root) hplace)
    (he.readable hfs hhere hown hlies hbelow)
  have hne : ∀ way ∈ Source.waysAmong fs here f.ignores folder below, way ≠ [] := fun way hway =>
    ((Source.mem_waysAmong_iff hproper' folder way).1 hway).unignored.1
  have hways := hs.forall₂_filter_isIn hfs hhere hname hplace hdown
  rw [Source.filter_sortWays hproper (Source.nodup_waysAmong hproper' folder) hne hmem,
    List.forall₂_map_left_iff] at hways
  refine map_eq_map_of_forall₂ (he.forall₂_ways hfs hhere hown hlies hbelow) hways ?_
  rintro way c b ⟨⟨-, hne⟩, hc⟩ ⟨⟨hnames, -⟩, hb⟩
  obtain ⟨hrelative, houtline⟩ := hb.agree hhere habs habs' hsteps hdown hnames hne hc
  rw [hrelative, houtline]

end Subfolder

/-- The blocks of entities repeat the structural blocks of the same files. -/
theorem entities_repeat_structural [CharacterNames] {given entities filter : Option String}
    {s : Settings} {r : Report} {folder : String} {down : List String} (hfs : fs.isProper)
    (hhere : Path.isAbsolute here) (hs : Settings.make fs here given entities filter = .ok s)
    (h : (build fs here s parse).result = .ok r) (hf : Filter.read s.filter = .ok f)
    (hname : f.ignores (Folder.ownName here s.root) = false) (he : s.entities = some folder)
    (hfolder : fs.isFolder here folder) (hsub : fs.IsSubfolder here s.root folder down) :
    ∃ (l : Layout) (blocks : List FileBlock), l.Describes fs here parse s ∧ r = l.report ∧
      l.entities = some blocks ∧
      blocks.map (fun b => (b.relative, b.outline)) =
        (l.structural.filter (·.isIn here folder)).map (fun b => (b.relative, b.outline)) ∧
      (∀ b ∈ l.structural, b.detail = .structural) ∧ (∀ b ∈ blocks, b.detail = .detailed) ∧
      ((∃ name ∈ down, f.ignores name) →
        blocks = [] ∧ l.structural.filter (·.isIn here folder) = []) := by
  obtain ⟨l, hl, rfl⟩ := build_eq_ok_iff.1 h
  obtain ⟨blocks, hblocks, hare⟩ := hl.entities_of_isFolder he hfolder
  have hstructural := hl.structural_eq
  have hfilter := hl.filter_eq
  rw [hf, Except.ok.injEq] at hfilter
  rw [← hfilter] at hare hstructural
  obtain ⟨place, found, below, hplace, hbelow, hdown⟩ := hsub
  have hempty := fun hign =>
    hstructural.nothing_of_ignored hfs hhere hname hplace hbelow hdown hign hare
  refine ⟨l, blocks, hl, rfl, hblocks, ?_, hstructural.detail_eq, hare.detail_eq, hempty⟩
  by_cases hign : ∃ name ∈ down, f.ignores name
  · rw [(hempty hign).1, (hempty hign).2]
  obtain ⟨-, hroot, hentities⟩ := Settings.make_eq_ok hs
  obtain ⟨habs, hsteps⟩ := Path.steps_eq_fullSteps hhere hroot
  obtain ⟨habs', hsteps'⟩ := Path.steps_eq_fullSteps hhere (hentities folder he)
  have hnames : ∀ name ∈ down, Path.IsName name := fun name hn =>
    Path.isName_of_mem_fullSteps hhere (hdown ▸ List.mem_append_right _ hn)
  have hpath : Path.steps folder = Path.steps s.root ++ down := by rw [hsteps', hdown, hsteps]
  have hlist := fs.listFolder_of_steps_append habs habs' hpath hnames hplace hbelow hfolder
  have hclear : ∀ name ∈ down, f.ignores name = false := by simpa using hign
  have hdrawn := hl.folder_eq
  rw [← hfilter] at hdrawn
  exact hstructural.repeat_of_clear hfs hhere hname hroot (hentities folder he) hplace hlist hdown
    hclear hdrawn hare

theorem entities_repeat_structural_nested :
    (build nested "/" ⟨"/r", some "/r/s", "bin"⟩ csharp).result.toOption = some
      ⟨["# Project structure (filtered)\n\n└──r/\n    └──s/\n        └──C.cs\n",
        "## Types and members\n", "#### File: s/C.cs\n```csharp\nclass C\n```\n",
        "### Entity fields and properties\n",
        "#### File: s/C.cs\n```csharp\nclass C\n    int c;\n```\n"]⟩ ∧
    ∃ (l : Layout) (blocks : List FileBlock),
      (build nested "/" ⟨"/r", some "/r/s", "bin"⟩ csharp).result = .ok l.report ∧
      l.entities = some blocks ∧
      blocks.map (fun b => (b.relative, b.outline)) =
        (l.structural.filter (·.isIn "/" "/r/s")).map (fun b => (b.relative, b.outline)) := by
  refine ⟨by decide +kernel, ?_⟩
  obtain ⟨r, hbuild⟩ : ∃ r, (build nested "/" ⟨"/r", some "/r/s", "bin"⟩ csharp).result = .ok r :=
    Except.exists_eq_ok (by decide +kernel)
  obtain ⟨f, hf⟩ : ∃ f, Filter.read "bin" = .ok f := Except.exists_eq_ok (by decide +kernel)
  have hname : (Filter.read "bin").toOption.all (!·.ignores (Folder.ownName "/" "/r")) := by
    decide +kernel
  simp only [hf, Except.toOption, Option.all_some, Bool.not_eq_true'] at hname
  have hmake : Settings.make nested "/" (some "/r") (some "/r/s") (some "bin") =
      .ok ⟨"/r", some "/r/s", "bin"⟩ := Except.eq_ok_of_toOption (by decide +kernel)
  obtain ⟨place, entries, hplace⟩ :=
    nested.exists_listFolder_of_isFolder (by decide +kernel : nested.isFolder "/" "/r")
  have hr : (nested.listFolder "/" "/r").toOption.map Prod.fst = some ["r"] := by decide +kernel
  rw [hplace, Except.toOption, Option.map_some, Option.some_inj] at hr
  subst hr
  have hdown : Path.fullSteps "/" "/r/s" = Path.fullSteps "/" "/r" ++ ["s"] := by decide +kernel
  obtain ⟨l, blocks, -, rfl, hblocks, hmap, -⟩ :=
    entities_repeat_structural (by decide +kernel) (by decide +kernel) hmake hbuild hf hname rfl
      (by decide +kernel) ⟨["r"], entries, _, hplace, rfl, hdown⟩
  exact ⟨l, blocks, hbuild, hblocks, hmap⟩

end Report

end Outline
