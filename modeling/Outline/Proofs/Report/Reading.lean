import Outline.Proofs.Folder.Lines
import Outline.Proofs.Report.Layout

set_option autoImplicit false

/-!
# Reading a report

The text of a report is read back, line by line, into the drawing and the blocks that it was made
from. An empty line ends the drawing, since no line of a drawing is empty, and a fence ends a block,
as long as no line of its body is a fence. Two reports with the same text therefore have the same
contents.
-/
namespace Outline.Report

/-- A block: the path of a file and what is listed for it. -/
structure Block where
  path : String
  body : String
deriving DecidableEq

/-- What the text of a report shows. -/
structure Contents where
  drawing : String
  structural : List Block
  entities : Option (List Block)
deriving DecidableEq

def Block.text (b : Block) : String := fileBlock b.path b.body

/-- The report that shows given contents. -/
def Contents.report (c : Contents) : Report :=
  ⟨treeSection c.drawing :: (structureHeading ++ "\n") :: (c.structural.map Block.text ++
    match c.entities with
    | none => []
    | some blocks => (entitiesHeading ++ "\n") :: blocks.map Block.text)⟩

def FileBlock.block (b : FileBlock) : Block := ⟨b.relative, b.outline.listing b.detail⟩

def Layout.contents (l : Layout) : Contents where
  drawing := l.folder.render l.filter.ignores
  structural := l.structural.map FileBlock.block
  entities := l.entities.map (List.map FileBlock.block)

theorem Layout.report_contents (l : Layout) : l.contents.report = l.report := by
  have htexts : ∀ blocks : List FileBlock,
      (blocks.map FileBlock.block).map Block.text = blocks.map FileBlock.text := fun blocks =>
    List.map_map
  unfold Contents.report Layout.report Layout.contents
  rw [htexts]
  cases l.entities with
  | none => rfl
  | some blocks => simp only [Option.map_some, htexts, entityTexts]

/-- Every report that a run gives shows contents. -/
theorem exists_contents_of_build [CharacterNames] {fs : FileSystem} {here : String} {s : Settings}
    {parse : Parser} {r : Report} (h : (build fs here s parse).result = .ok r) :
    ∃ c : Contents, r = c.report := by
  obtain ⟨l, -, rfl⟩ := build_eq_ok_iff.1 h
  exact ⟨l.contents, l.report_contents.symm⟩

/-! ## The lines of a report -/

/-- The line that opens and closes the body of a block. -/
def fence : String := "```"

def pathMark : String := "#### File: "

def Block.lines (b : Block) : List String :=
  (pathMark ++ b.path) :: "```csharp" :: (Text.givenLines b.body ++ [fence, ""])

def entityLines : Option (List Block) → List String
  | none => []
  | some blocks => entitiesHeading :: "" :: blocks.flatMap Block.lines

/-- A block can be read back: its path is one line, and no line of its body is a fence. -/
structure Block.IsReadable (b : Block) : Prop where
  path : '\n' ∉ b.path.toList
  body : fence ∉ Text.lines b.body

theorem Block.lines_text {b : Block} (h : b.IsReadable) : Text.lines b.text = b.lines := by
  have hpath : Text.lines ("#### File: " ++ b.path) = [pathMark ++ b.path] :=
    Text.lines_of_not_mem (by simp [h.path])
  have hopen : Text.lines "```csharp" = ["```csharp"] := Text.lines_of_not_mem (by decide)
  have hclose : Text.lines "```" = [fence] := Text.lines_of_not_mem (by decide)
  have hend : Text.lines "" = [""] := Text.lines_of_not_mem (by decide)
  unfold Block.text fileBlock Block.lines
  rw [Text.lines_intercalate (by simp), List.flatMap_append, List.flatMap_append,
    Text.flatMap_lines_given]
  simp [hpath, hopen, hclose, hend]

theorem lines_treeSection (drawing : String) :
    Text.lines (treeSection drawing) = treeHeading :: "" :: (Text.givenLines drawing ++ [""]) := by
  have hheading : Text.lines treeHeading = [treeHeading] := Text.lines_of_not_mem (by decide)
  have hempty : Text.lines "" = [""] := Text.lines_of_not_mem (by decide)
  rw [treeSection, Text.lines_concat_newline, Text.lines_intercalate (by simp), List.flatMap_cons,
    List.flatMap_cons, Text.flatMap_lines_given]
  simp [hheading, hempty]

theorem flatMap_lines_blocks {blocks : List Block} (h : ∀ b ∈ blocks, b.IsReadable) :
    (blocks.map Block.text).flatMap Text.lines = blocks.flatMap Block.lines := by
  rw [List.flatMap_map]
  exact List.flatMap_congr fun b hb => b.lines_text (h b hb)

/-- Contents can be read back: no name in the drawing has a line feed, and all blocks can be read
back. -/
structure Contents.IsReadable (c : Contents) : Prop where
  drawing : ∃ (f : Folder) (ignored : String → Bool),
    (∀ name ∈ f.names, '\n' ∉ name.toList) ∧ c.drawing = f.render ignored
  structural : ∀ b ∈ c.structural, b.IsReadable
  entities : ∀ blocks, c.entities = some blocks → ∀ b ∈ blocks, b.IsReadable

theorem lines_render {c : Contents} (h : c.IsReadable) : Text.lines c.report.render =
    treeHeading :: "" :: (Text.givenLines c.drawing ++ "" :: structureHeading :: "" ::
      (c.structural.flatMap Block.lines ++ entityLines c.entities)) := by
  have hstructure : Text.lines (structureHeading ++ "\n") = [structureHeading, ""] := by
    rw [Text.lines_concat_newline, Text.lines_of_not_mem (by decide)]
    rfl
  have hheading : Text.lines (entitiesHeading ++ "\n") = [entitiesHeading, ""] := by
    rw [Text.lines_concat_newline, Text.lines_of_not_mem (by decide)]
    rfl
  rw [render, Contents.report, Text.lines_intercalate (by simp), List.flatMap_cons,
    List.flatMap_cons, List.flatMap_append, lines_treeSection, hstructure,
    flatMap_lines_blocks h.structural]
  cases he : c.entities with
  | none => simp [entityLines]
  | some blocks => simp [entityLines, hheading, flatMap_lines_blocks (h.entities blocks he)]

/-! ## Reading lines -/

/-- The path in the first line of a block; nothing in any other line. -/
def readPath? (line : String) : Option String :=
  if pathMark.toList.isPrefixOf line.toList then
    some (String.ofList (line.toList.drop pathMark.toList.length))
  else none

/-- The blocks that lines begin with, and the lines behind them. -/
def readBlocks : List String → List Block × List String
  | [] => ([], [])
  | line :: rest =>
    match readPath? line with
    | none => ([], line :: rest)
    | some path =>
      let body := rest.tail.takeWhile (· != fence)
      let (blocks, more) := readBlocks ((rest.tail.dropWhile (· != fence)).drop 2)
      (⟨path, "\n".intercalate body⟩ :: blocks, more)
termination_by lines => lines.length
decreasing_by
  have hle := (List.dropWhile_suffix (· != fence) (l := rest.tail)).length_le
  simp only [List.length_drop, List.length_tail, List.length_cons] at hle ⊢
  omega

/-- The contents that the text of a report shows. -/
def read (text : String) : Contents :=
  let below := (Text.lines text).drop 2
  let (structural, more) := readBlocks ((below.dropWhile (· != "")).drop 3)
  { drawing := "\n".intercalate (below.takeWhile (· != ""))
    structural
    entities := if more.isEmpty then none else some (readBlocks (more.drop 2)).1 }

theorem readPath?_mark (path : String) : readPath? (pathMark ++ path) = some path := by
  unfold readPath?
  rw [String.toList_append, if_pos (by simp), List.drop_left, String.ofList_toList]

theorem takeWhile_bne_append {mark : String} {before : List String} (h : mark ∉ before)
    (more : List String) :
    (before ++ mark :: more).takeWhile (· != mark) = before ∧
      (before ++ mark :: more).dropWhile (· != mark) = mark :: more := by
  have hall : ∀ line ∈ before, (line != mark) = true := by
    intro line hline
    rw [bne_iff_ne]
    rintro rfl
    exact h hline
  rw [List.takeWhile_append_of_pos hall, List.dropWhile_append_of_pos hall]
  simp

theorem fence_not_mem_givenLines {text : String} (h : fence ∉ Text.lines text) :
    fence ∉ Text.givenLines text := by
  unfold Text.givenLines
  split_ifs
  · exact List.not_mem_nil
  · exact h

/-- The blocks that lines were made from are read back, up to lines that begin with no block. -/
theorem readBlocks_append {blocks : List Block} (h : ∀ b ∈ blocks, b.IsReadable)
    {more : List String} (hmore : readBlocks more = ([], more)) :
    readBlocks (blocks.flatMap Block.lines ++ more) = (blocks, more) := by
  induction blocks with
  | nil => exact hmore
  | cons b blocks ih =>
    rw [List.forall_mem_cons] at h
    -- the first fence behind the path of the block is the one that closes it
    have hbody := takeWhile_bne_append (fence_not_mem_givenLines h.1.body)
      ("" :: (blocks.flatMap Block.lines ++ more))
    have hlines : (b :: blocks).flatMap Block.lines ++ more =
        (pathMark ++ b.path) :: "```csharp" :: (Text.givenLines b.body ++
          fence :: "" :: (blocks.flatMap Block.lines ++ more)) := by
      simp [Block.lines]
    rw [hlines, readBlocks, readPath?_mark]
    simp only [List.tail_cons, hbody.1, hbody.2, List.drop_succ_cons, List.drop_zero, ih h.2,
      Text.intercalate_givenLines]

theorem readBlocks_entityLines (entities : Option (List Block)) :
    readBlocks (entityLines entities) = ([], entityLines entities) := by
  have hheading : readPath? entitiesHeading = none := by decide
  cases entities with
  | none => rw [entityLines, readBlocks]
  | some blocks => rw [entityLines, readBlocks, hheading]

/-- The text of a report is read back into what the report was made from. -/
theorem read_render {c : Contents} (h : c.IsReadable) : read c.report.render = c := by
  obtain ⟨f, ignored, hnames, hdrawing⟩ := h.drawing
  have hempty : "" ∉ Text.givenLines c.drawing := by
    rw [hdrawing, Folder.givenLines_render hnames]
    exact fun hm => (Folder.isFullLine_of_mem_lines hnames hm).1 rfl
  -- the first empty line behind the heading is the one that ends the drawing
  have htree := takeWhile_bne_append hempty (structureHeading :: "" ::
    (c.structural.flatMap Block.lines ++ entityLines c.entities))
  have hblocks := readBlocks_append h.structural (readBlocks_entityLines c.entities)
  unfold read
  rw [lines_render h]
  simp only [List.drop_succ_cons, List.drop_zero, htree.1, htree.2, hblocks,
    Text.intercalate_givenLines]
  obtain ⟨drawing, structural, entities⟩ := c
  cases entities with
  | none => rfl
  | some blocks =>
    have hlast : readBlocks (blocks.flatMap Block.lines ++ []) = (blocks, []) :=
      readBlocks_append (h.entities blocks rfl) (by rw [readBlocks])
    rw [List.append_nil] at hlast
    simp [entityLines, hlast]

/-- Reports are unambiguous: two that can be read back have the same text only if they show the same
drawing, the same list of blocks and, if at all, the same blocks of entities. -/
theorem report_unambiguous {c c' : Contents} (h : c.IsReadable) (h' : c'.IsReadable) :
    c.report.render = c'.report.render ↔ c.drawing = c'.drawing ∧
      c.structural = c'.structural ∧ c.entities = c'.entities := by
  constructor
  · intro htext
    have hread : c = c' := by rw [← read_render h, htext, read_render h']
    rw [hread]
    exact ⟨rfl, rfl, rfl⟩
  · rintro ⟨hdrawing, hstructural, hentities⟩
    rw [Contents.report, Contents.report, hdrawing, hstructural, hentities]

/-- One block, with a body that looks like the end of the list and a second list. -/
def lookalike : Contents where
  drawing := (Folder.mk "r" ["A.cs"] []).render fun _ => false
  structural := [⟨"A.cs",
    "class A\n\n### Entity fields and properties\n\n#### File: A.cs\n```csharp"⟩]
  entities := none

/-- A second list that really is one. -/
def genuine : Contents where
  drawing := (Folder.mk "r" ["A.cs"] []).render fun _ => false
  structural := [⟨"A.cs", "class A"⟩]
  entities := some [⟨"A.cs", ""⟩]

theorem report_unambiguous_lookalike : lookalike.IsReadable ∧ genuine.IsReadable ∧
    lookalike.report.render ≠ genuine.report.render := by
  have hdrawing : ∃ (f : Folder) (ignored : String → Bool),
      (∀ name ∈ f.names, '\n' ∉ name.toList) ∧
        (Folder.mk "r" ["A.cs"] []).render (fun _ => false) = f.render ignored :=
    ⟨.mk "r" ["A.cs"] [], fun _ => false, by decide +kernel, rfl⟩
  have hlookalike : lookalike.IsReadable := by
    refine ⟨hdrawing, List.forall_mem_singleton.2 ⟨by decide +kernel, by decide +kernel⟩, ?_⟩
    rintro blocks ⟨⟩
  have hgenuine : genuine.IsReadable := by
    refine ⟨hdrawing, List.forall_mem_singleton.2 ⟨by decide +kernel, by decide +kernel⟩, ?_⟩
    rintro blocks ⟨⟩
    exact List.forall_mem_singleton.2 ⟨by decide +kernel, by decide +kernel⟩
  refine ⟨hlookalike, hgenuine, fun htext => ?_⟩
  have hsame := (report_unambiguous hlookalike hgenuine).1 htext
  exact absurd hsame.2.2 (by decide)

end Outline.Report
