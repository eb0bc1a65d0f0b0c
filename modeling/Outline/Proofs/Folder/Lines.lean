import Outline.Proofs.Folder.Reading
import Outline.Proofs.Text.Lines

set_option autoImplicit false

/-!
# The lines of a drawing

If no name in a folder contains a line feed, neither does any line of its drawing, and no line of a
drawing is empty.
-/
namespace Outline.Folder

mutual

/-- The names of a folder, of its files and of everything below. -/
def names : Folder → List String
  | mk name files folders => name :: (files ++ namesBelow folders)

/-- The names of several folders. -/
def namesBelow : List Folder → List String
  | [] => []
  | f :: rest => names f ++ namesBelow rest

end

theorem mem_namesBelow_iff {folders : List Folder} {name : String} :
    name ∈ namesBelow folders ↔ ∃ f ∈ folders, name ∈ f.names := by
  induction folders with
  | nil => simp [namesBelow]
  | cons f folders ih => simp [namesBelow, ih]

theorem mem_names_iff {own name : String} {files : List String} {folders : List Folder} :
    name ∈ (mk own files folders).names ↔
      name = own ∨ name ∈ files ∨ ∃ f ∈ folders, name ∈ f.names := by
  simp [names, mem_namesBelow_iff]

/-- A drawing has no names of its own. -/
theorem mem_names_of_arrange {ignored : String → Bool} {f : Folder} {name : String}
    (h : name ∈ (arrange ignored f).names) : name ∈ f.names := by
  induction f with
  | mk own files folders ih =>
    rw [arrange, arrangeAll_eq, mem_names_iff] at h
    rw [mem_names_iff]
    simp only [sortNames, sortFolders, List.mem_mergeSort] at h
    rcases h with h | h | ⟨sub, hsub, h⟩
    · exact .inl h
    · exact .inr (.inl h)
    · obtain ⟨f, hf, rfl⟩ := List.mem_map.1 hsub
      have hmem := List.mem_of_mem_filter hf
      exact .inr (.inr ⟨f, hmem, ih f hmem h⟩)

/-- A text that is one line and not empty. -/
def IsFullLine (line : String) : Prop := line ≠ "" ∧ '\n' ∉ line.toList

theorem isFullLine_branch {indent label : String} (hindent : '\n' ∉ indent.toList) (last : Bool)
    (hlabel : '\n' ∉ label.toList) : IsFullLine (indent ++ branch last ++ label) := by
  have hbranch : '\n' ∉ (branch last).toList ∧ (branch last).toList ≠ [] := by
    cases last <;> decide
  constructor
  · rw [Ne, ← String.toList_inj]
    simp [hbranch.2]
  · simp [hindent, hbranch.1, hlabel]

theorem not_mem_rail {indent : String} (hindent : '\n' ∉ indent.toList) (last : Bool) :
    '\n' ∉ (indent ++ rail last).toList := by
  have hrail : '\n' ∉ (rail last).toList := by cases last <;> decide
  simp [hindent, hrail]

theorem isFullLine_of_mem_drawFiles {indent line : String} {files : List String}
    (hindent : '\n' ∉ indent.toList) (hfiles : ∀ file ∈ files, '\n' ∉ file.toList)
    (h : line ∈ drawFiles indent files) : IsFullLine line := by
  induction files with
  | nil => cases h
  | cons file files ih =>
    rw [List.forall_mem_cons] at hfiles
    cases files with
    | nil =>
      rw [drawFiles, List.mem_singleton] at h
      exact h ▸ isFullLine_branch hindent true hfiles.1
    | cons next files =>
      rw [drawFiles, List.mem_cons] at h
      · rcases h with rfl | h
        · exact isFullLine_branch hindent false hfiles.1
        · exact ih hfiles.2 h
      · simp

theorem isFullLine_of_mem_draw {f : Folder} {indent line : String} {last : Bool}
    (hindent : '\n' ∉ indent.toList) (hnames : ∀ name ∈ f.names, '\n' ∉ name.toList)
    (h : line ∈ draw indent last f) : IsFullLine line := by
  induction f generalizing indent last with
  | mk own files folders ih =>
    have hown := hnames own (mem_names_iff.2 (.inl rfl))
    have hfiles : ∀ file ∈ files, '\n' ∉ file.toList := fun file hf =>
      hnames file (mem_names_iff.2 (.inr (.inl hf)))
    have hbelow : ∀ f ∈ folders, ∀ name ∈ f.names, '\n' ∉ name.toList := fun f hf name hn =>
      hnames name (mem_names_iff.2 (.inr (.inr ⟨f, hf, hn⟩)))
    have hinner := not_mem_rail hindent last
    -- the lines of the subfolders, one subfolder after the other
    have hall : ∀ subs : List Folder, (∀ f ∈ subs, f ∈ folders) →
        line ∈ drawAll (indent ++ rail last) subs → IsFullLine line := by
      intro subs hsubs hline
      induction subs with
      | nil => cases hline
      | cons sub subs ihsubs =>
        rw [List.forall_mem_cons] at hsubs
        rw [drawAll, List.mem_append] at hline
        rcases hline with hline | hline
        · exact ih sub hsubs.1 hinner (hbelow sub hsubs.1) hline
        · exact ihsubs hsubs.2 hline
    rw [draw, List.mem_cons, List.mem_append] at h
    rcases h with rfl | h | h
    · rw [String.append_assoc]
      exact isFullLine_branch hindent last (by simp [hown])
    · exact isFullLine_of_mem_drawFiles hinner hfiles h
    · exact hall folders (fun _ hf => hf) h

theorem isFullLine_of_mem_lines {ignored : String → Bool} {f : Folder} {line : String}
    (hnames : ∀ name ∈ f.names, '\n' ∉ name.toList) (h : line ∈ f.lines ignored) :
    IsFullLine line := by
  unfold lines at h
  split_ifs at h
  · cases h
  · exact isFullLine_of_mem_draw (by decide)
      (fun name hn => hnames name (mem_names_of_arrange hn)) h

/-- The lines of a drawing can be told from its text. -/
theorem givenLines_render {f : Folder} {ignored : String → Bool}
    (hnames : ∀ name ∈ f.names, '\n' ∉ name.toList) :
    Text.givenLines (f.render ignored) = f.lines ignored := by
  have hfull : ∀ line ∈ f.lines ignored, IsFullLine line := fun line hline =>
    isFullLine_of_mem_lines hnames hline
  rw [render_eq_intercalate]
  generalize f.lines ignored = drawn at hfull
  cases drawn with
  | nil => rfl
  | cons first rest =>
    have hfirst : first.toList ≠ [] := by simpa using (hfull first (by simp)).1
    have hne : ("\n".intercalate (first :: rest)).isEmpty = false := by
      rw [Bool.eq_false_iff, Ne, String.isEmpty_iff, ← String.toList_inj]
      cases rest with
      | nil => simpa using hfirst
      | cons next rest => simp [String.intercalate_cons_cons]
    have hlines : ∀ line ∈ first :: rest, Text.lines line = [line] := fun line hline =>
      Text.lines_of_not_mem (hfull line hline).2
    rw [Text.givenLines, hne, if_neg Bool.false_ne_true, Text.lines_intercalate (by simp),
      List.flatMap_congr hlines, List.flatMap_singleton']

end Outline.Folder
