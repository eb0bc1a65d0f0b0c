import Outline.Proofs.Outcome
import Outline.Report.Build

set_option autoImplicit false

/-!
# The layout of a report

A report is made from its layout: the snapshot that is drawn and the blocks of both lists, each with
the file it shows. `build_eq_ok_iff` says which reports a run can give: those whose layout describes
what the files hold.
-/
namespace Outline

namespace Report

/-- A block together with the file it shows. -/
structure FileBlock where
  path : String
  relative : String
  outline : SourceOutline
  detail : Listing.Detail

/-- The text of a block. -/
def FileBlock.text (b : FileBlock) : String := fileBlock b.relative (b.outline.listing b.detail)

/-- What a report is made from; there are blocks of entities only if there is a folder of them. -/
structure Layout where
  filter : Filter
  folder : Folder
  structural : List FileBlock
  entities : Option (List FileBlock)

/-- The sections of the blocks of entities. -/
def entityTexts : Option (List FileBlock) → List String
  | none => []
  | some blocks => (entitiesHeading ++ "\n") :: blocks.map FileBlock.text

/-- The report with a given layout. -/
def Layout.report (l : Layout) : Report :=
  ⟨treeSection (l.folder.render l.filter.ignores) :: (structureHeading ++ "\n") ::
    (l.structural.map FileBlock.text ++ entityTexts l.entities)⟩

theorem take_toList_treeSection (drawing : String) :
    (treeSection drawing).toList.take 4 = "# Pr".toList := by
  rw [treeSection, String.intercalate_cons_cons]
  simp [treeHeading]

theorem take_toList_fileBlock (path body : String) :
    (fileBlock path body).toList.take 4 = "####".toList := by
  rw [fileBlock, List.append_assoc, List.cons_append, List.cons_append,
    String.intercalate_cons_cons]
  simp

/-- The heading of the entities tells whether there is a folder of them. -/
theorem entitiesHeading_mem_sections_iff (l : Layout) :
    entitiesHeading ++ "\n" ∈ l.report.sections ↔ ∃ blocks, l.entities = some blocks := by
  have htree : entitiesHeading ++ "\n" ≠ treeSection (l.folder.render l.filter.ignores) := by
    intro h
    have htake := take_toList_treeSection (l.folder.render l.filter.ignores)
    rw [← h] at htake
    exact absurd htake (by decide)
  have hstructure : entitiesHeading ++ "\n" ≠ structureHeading ++ "\n" := by decide
  have hblocks : entitiesHeading ++ "\n" ∉ l.structural.map FileBlock.text := by
    rw [List.mem_map]
    rintro ⟨b, -, h⟩
    have htake := take_toList_fileBlock b.relative (b.outline.listing b.detail)
    rw [← FileBlock.text, h] at htake
    exact absurd htake (by decide)
  rw [Layout.report]
  simp only [List.mem_cons, List.mem_append, htree, hstructure, hblocks, false_or]
  cases l.entities with
  | none => simp [entityTexts]
  | some blocks => simp [entityTexts]

variable (fs : FileSystem) (here root : String) (parse : Parser)

/-- The block shows the file that a path leads to. -/
structure IsBlockOf (detail : Listing.Detail) (path : String) (b : FileBlock) : Prop where
  path_eq : b.path = path
  relative_eq : b.relative = Path.relative here path root
  detail_eq : b.detail = detail
  parsed : ∃ bytes, fs.fileBytes here path = .ok bytes ∧
    (parse (Text.sourceText bytes)).result = .ok b.outline

/-- The blocks show the source files below a folder, one for each file that is not hidden. -/
def AreBlocks (f : Filter) (detail : Listing.Detail) (base : String) (blocks : List FileBlock) :
    Prop :=
  ∃ paths, (Source.files fs here f base).result = .ok paths ∧
    List.Forall₂ (IsBlockOf fs here root parse detail)
      (paths.filter fun path => !isHidden f (Path.relative here path root)) blocks

/-- The layout shows what a run of given settings finds. -/
structure Layout.Describes [CharacterNames] (s : Settings) (l : Layout) : Prop where
  filter_eq : Filter.read s.filter = .ok l.filter
  folder_eq : Folder.snapshot fs here l.filter.ignores s.root = .ok l.folder
  structural_eq : AreBlocks fs here s.root parse l.filter .structural s.root l.structural
  entities_eq : match s.entitiesFolder? fs here with
    | some folder => ∃ blocks, l.entities = some blocks ∧
        AreBlocks fs here s.root parse l.filter .detailed folder blocks
    | none => l.entities = none

variable {fs here root parse}

theorem blockOf_eq_ok_iff {detail : Listing.Detail} {path text : String} :
    (blockOf fs here root parse detail path).result = .ok text ↔
      ∃ b, IsBlockOf fs here root parse detail path b ∧ text = b.text := by
  simp only [blockOf, Outcome.result_bind_eq_ok_iff, Outcome.result_ofResult,
    Except.mapError_eq_ok_iff, Outcome.result_pure, Except.ok.injEq]
  constructor
  · rintro ⟨bytes, hbytes, outline, hparse, htext⟩
    generalize hrelative : Path.relative here path root = relative at htext
    exact ⟨⟨path, relative, outline, detail⟩,
      ⟨rfl, hrelative.symm, rfl, bytes, hbytes, hparse⟩, htext.symm⟩
  · rintro ⟨b, ⟨-, hrelative, hdetail, bytes, hbytes, hparse⟩, htext⟩
    refine ⟨bytes, hbytes, b.outline, hparse, ?_⟩
    rw [htext, FileBlock.text, hrelative, hdetail]

theorem forall₂_exists_iff {α β γ : Type} {R : α → β → Prop} {g : β → γ} {as : List α}
    {cs : List γ} : List.Forall₂ (fun a c => ∃ b, R a b ∧ c = g b) as cs ↔
      ∃ bs, List.Forall₂ R as bs ∧ cs = bs.map g := by
  constructor
  · intro h
    induction h with
    | nil => exact ⟨[], .nil, rfl⟩
    | cons first _ ih =>
      obtain ⟨b, hb, rfl⟩ := first
      obtain ⟨bs, hbs, rfl⟩ := ih
      exact ⟨b :: bs, .cons hb hbs, rfl⟩
  · rintro ⟨bs, h, rfl⟩
    induction h with
    | nil => exact .nil
    | cons first _ ih => exact .cons ⟨_, first, rfl⟩ ih

theorem blocks_eq_ok_iff {f : Filter} {detail : Listing.Detail} {base : String}
    {texts : List String} : (blocks fs here root f parse detail base).result = .ok texts ↔
      ∃ bs, AreBlocks fs here root parse f detail base bs ∧ texts = bs.map FileBlock.text := by
  simp only [blocks, Outcome.result_bind_eq_ok_iff, Outcome.result_forEach_eq_ok_iff,
    blockOf_eq_ok_iff, forall₂_exists_iff, AreBlocks]
  constructor
  · rintro ⟨paths, hpaths, bs, hbs, htexts⟩
    exact ⟨bs, ⟨paths, hpaths, hbs⟩, htexts⟩
  · rintro ⟨bs, ⟨paths, hpaths, hbs⟩, htexts⟩
    exact ⟨paths, hpaths, bs, hbs, htexts⟩

theorem entitySections_eq_ok_iff {s : Settings} {f : Filter} {sections : List String} :
    (entitySections fs here s f parse).result = .ok sections ↔
      ∃ entities, sections = entityTexts entities ∧
        match s.entitiesFolder? fs here with
        | some folder => ∃ bs, entities = some bs ∧
            AreBlocks fs here s.root parse f .detailed folder bs
        | none => entities = none := by
  unfold entitySections
  split
  · rename_i folder _ hfolder
    simp only [hfolder, Outcome.result_bind_eq_ok_iff, Outcome.result_note, Outcome.result_pure,
      Except.ok.injEq, blocks_eq_ok_iff]
    constructor
    · rintro ⟨_, ⟨bs, hbs, rfl⟩, _, -, rfl⟩
      exact ⟨some bs, rfl, bs, rfl, hbs⟩
    · rintro ⟨_, rfl, bs, rfl, hbs⟩
      exact ⟨_, ⟨bs, hbs, rfl⟩, (), trivial, rfl⟩
  · rename_i hfolder _
    simp only [hfolder, Outcome.result_bind_eq_ok_iff, Outcome.result_note, Outcome.result_pure,
      Except.ok.injEq, exists_const, true_and, exists_eq_right]
    exact eq_comm
  · rename_i hfolder _
    simp only [hfolder, Outcome.result_pure, Except.ok.injEq, exists_eq_right]
    exact eq_comm

/-- A run gives the reports whose layout describes what it finds. -/
theorem build_eq_ok_iff [CharacterNames] {s : Settings} {r : Report} :
    (build fs here s parse).result = .ok r ↔
      ∃ l : Layout, l.Describes fs here parse s ∧ r = l.report := by
  simp only [build, Outcome.result_bind_eq_ok_iff, Outcome.result_ofResult,
    Except.mapError_eq_ok_iff, Outcome.result_note, Outcome.result_pure, Except.ok.injEq,
    blocks_eq_ok_iff, entitySections_eq_ok_iff]
  constructor
  · rintro ⟨f, hf, folder, hfolder, _, -, _, ⟨bs, hbs, rfl⟩, _, -, _, ⟨entities, rfl, he⟩, rfl⟩
    exact ⟨⟨f, folder, bs, entities⟩, ⟨hf, hfolder, hbs, he⟩, rfl⟩
  · rintro ⟨l, ⟨hf, hfolder, hbs, he⟩, rfl⟩
    exact ⟨l.filter, hf, l.folder, hfolder, (), trivial, _, ⟨l.structural, hbs, rfl⟩, (), trivial,
      _, ⟨l.entities, rfl, he⟩, rfl⟩

end Report

end Outline
