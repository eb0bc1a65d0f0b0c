import Mathlib.Data.List.Basic
import Outline.Folder.Drawing

set_option autoImplicit false

/-!
# Reading a drawing

The lines of a drawing are read back into the ways to the files that it shows: the indentation of a
line gives its depth, and a slash at its end tells a folder from a file. A drawing shows the files
of the folder, except for those in folders that are ignored.
-/
namespace Outline.Folder

/-- Induction over the subfolders of a folder. -/
@[induction_eliminator]
theorem induction {motive : Folder → Prop}
    (mk : ∀ name files folders, (∀ f ∈ folders, motive f) → motive (.mk name files folders))
    (f : Folder) : motive f :=
  @Folder.rec motive (fun folders => ∀ f ∈ folders, motive f) mk
    (fun _ h => absurd h List.not_mem_nil)
    (fun _ _ first rest => List.forall_mem_cons.2 ⟨first, rest⟩) f

mutual

/-- The ways from a folder down to the files in it and below. -/
def ways : Folder → List (List String)
  | mk _ files folders => files.map ([·]) ++ waysBelow folders

/-- The ways that begin with one of several folders. -/
def waysBelow : List Folder → List (List String)
  | [] => []
  | f :: rest => (ways f).map (f.name :: ·) ++ waysBelow rest

end

theorem mem_waysBelow_iff {folders : List Folder} {way : List String} :
    way ∈ waysBelow folders ↔ ∃ f ∈ folders, ∃ rest ∈ f.ways, way = f.name :: rest := by
  induction folders with
  | nil => simp [waysBelow]
  | cons f folders ih => simp [waysBelow, ih, eq_comm]

theorem mem_ways_iff {name : String} {files : List String} {folders : List Folder}
    {way : List String} : way ∈ (mk name files folders).ways ↔
      (∃ file ∈ files, way = [file]) ∨ ∃ f ∈ folders, ∃ rest ∈ f.ways, way = f.name :: rest := by
  simp [ways, mem_waysBelow_iff, eq_comm]

theorem ne_nil_of_mem_ways {f : Folder} {way : List String} (h : way ∈ f.ways) : way ≠ [] := by
  cases f with
  | mk name files folders =>
    rcases mem_ways_iff.1 h with ⟨file, -, rfl⟩ | ⟨sub, -, rest, -, rfl⟩ <;> simp

/-! ## What is drawn -/

@[simp]
theorem name_arrange (ignored : String → Bool) (f : Folder) :
    (arrange ignored f).name = f.name := by
  cases f
  rfl

theorem arrangeAll_eq (ignored : String → Bool) (folders : List Folder) :
    arrangeAll ignored folders =
      (folders.filter fun f => !ignored f.name).map (arrange ignored) := by
  induction folders with
  | nil => rfl
  | cons f folders ih =>
    rw [arrangeAll, List.filter_cons]
    cases h : ignored f.name <;> simp [ih]

/-- A drawing keeps the files that no ignored subfolder holds. -/
theorem mem_ways_arrange_iff (ignored : String → Bool) (f : Folder) (way : List String) :
    way ∈ (arrange ignored f).ways ↔
      way ∈ f.ways ∧ ∀ folder ∈ way.dropLast, ignored folder = false := by
  induction f generalizing way with
  | mk name files folders ih =>
    rw [arrange, mem_ways_iff, mem_ways_iff, arrangeAll_eq]
    simp only [sortNames, sortFolders, List.mem_mergeSort]
    constructor
    · rintro (⟨file, hfile, rfl⟩ | ⟨sub, hsub, rest, hrest, rfl⟩)
      · exact ⟨.inl ⟨file, hfile, rfl⟩, by simp⟩
      · obtain ⟨f, hf, rfl⟩ := List.mem_map.1 hsub
        obtain ⟨hf, hname⟩ := List.mem_filter.1 hf
        obtain ⟨hrest, hign⟩ := (ih f hf rest).1 hrest
        refine ⟨.inr ⟨f, hf, rest, hrest, by simp⟩, ?_⟩
        rw [name_arrange, List.dropLast_cons_of_ne_nil (ne_nil_of_mem_ways hrest)]
        exact List.forall_mem_cons.2 ⟨by simpa using hname, hign⟩
    · rintro ⟨⟨file, hfile, rfl⟩ | ⟨f, hf, rest, hrest, rfl⟩, hign⟩
      · exact .inl ⟨file, hfile, rfl⟩
      · rw [List.dropLast_cons_of_ne_nil (ne_nil_of_mem_ways hrest), List.forall_mem_cons] at hign
        refine .inr ⟨arrange ignored f, ?_, rest, (ih f hf rest).2 ⟨hrest, hign.2⟩, by simp⟩
        exact List.mem_map_of_mem (List.mem_filter.2 ⟨hf, by simp [hign.1]⟩)

/-- The lines of the drawing of a folder. -/
def lines (ignored : String → Bool) (f : Folder) : List String :=
  if ignored f.name then [] else draw "" true (arrange ignored f)

theorem render_eq_intercalate (ignored : String → Bool) (f : Folder) :
    f.render ignored = "\n".intercalate (f.lines ignored) := by
  unfold render lines
  cases ignored f.name <;> simp

/-! ## Reading lines -/

/-- The depth of a line and what stands behind its branch. -/
def readLine : List Char → Nat × List Char
  | ' ' :: ' ' :: ' ' :: ' ' :: rest | '│' :: ' ' :: ' ' :: ' ' :: rest =>
    ((readLine rest).1 + 1, (readLine rest).2)
  | _ :: _ :: _ :: label => (0, label)
  | _ => (0, [])

/-- The ways to the files that lines show, each beginning with the outermost folder; the first
argument has the folders that the line above stands in or opens. -/
def readWays : List String → List String → List (List String)
  | _, [] => []
  | above, line :: rest =>
    let (depth, label) := readLine line.toList
    if label.getLast? = some '/' then
      readWays (above.take depth ++ [String.ofList label.dropLast]) rest
    else (above.take depth ++ [String.ofList label]) :: readWays above rest

/-- The ways from the drawn folder to the files that its lines show. -/
def shownWays (lines : List String) : List (List String) := (readWays [] lines).map List.tail

/-- An indentation of a given depth. -/
def IsIndent (depth : ℕ) (indent : String) : Prop := ∀ chars,
  readLine (indent.toList ++ chars) = ((readLine chars).1 + depth, (readLine chars).2)

theorem isIndent_empty : IsIndent 0 "" := fun _ => rfl

theorem IsIndent.rail {depth : ℕ} {indent : String} (h : IsIndent depth indent) (last : Bool) :
    IsIndent (depth + 1) (indent ++ rail last) := by
  intro chars
  have hrail : readLine ((Folder.rail last).toList ++ chars) =
      ((readLine chars).1 + 1, (readLine chars).2) := by
    cases last <;> simp [Folder.rail, readLine]
  rw [String.toList_append, List.append_assoc, h, hrail]
  simp only [Prod.mk.injEq, and_true]
  omega

theorem readLine_branch {depth : ℕ} {indent : String} (h : IsIndent depth indent) (last : Bool)
    (label : String) :
    readLine (indent ++ branch last ++ label).toList = (depth, label.toList) := by
  have hbranch : readLine ((branch last).toList ++ label.toList) = (0, label.toList) := by
    cases last <;> simp [branch, readLine]
  rw [String.toList_append, String.toList_append, List.append_assoc, h, hbranch]
  simp

/-- What can be told from a folder by the end of its line. -/
def IsFileName (name : String) : Prop := name.toList.getLast? ≠ some '/'

theorem readWays_file {depth : ℕ} {indent : String} (h : IsIndent depth indent) (last : Bool)
    {name : String} (hname : IsFileName name) (above more : List String) :
    readWays above ((indent ++ branch last ++ name) :: more) =
      (above.take depth ++ [name]) :: readWays above more := by
  rw [readWays, readLine_branch h]
  simp only [String.ofList_toList]
  rw [if_neg hname]

theorem readWays_folder {depth : ℕ} {indent : String} (h : IsIndent depth indent) (last : Bool)
    (name : String) (above more : List String) :
    readWays above ((indent ++ branch last ++ name ++ "/") :: more) =
      readWays (above.take depth ++ [name]) more := by
  have hline : readLine (indent ++ branch last ++ name ++ "/").toList =
      (depth, (name ++ "/").toList) := by
    rw [String.append_assoc]
    exact readLine_branch h last (name ++ "/")
  rw [readWays, hline]
  simp

theorem readWays_drawFiles {indent : String} {above : List String}
    (h : IsIndent above.length indent) {files : List String}
    (hfiles : ∀ file ∈ files, IsFileName file) (more : List String) :
    readWays above (drawFiles indent files ++ more) =
      files.map (above ++ [·]) ++ readWays above more := by
  induction files with
  | nil => rfl
  | cons file files ih =>
    rw [List.forall_mem_cons] at hfiles
    cases files with
    | nil =>
      rw [drawFiles, List.cons_append, readWays_file h true hfiles.1]
      simp
    | cons next files =>
      rw [drawFiles, List.cons_append, readWays_file h false hfiles.1, ih hfiles.2]
      · simp
      · simp

/-- A way that ends with the name of a file. -/
def EndsWithFile (way : List String) : Prop := ∀ name ∈ way.getLast?, IsFileName name

theorem endsWithFile_of_cons {name : String} {way : List String} (h : EndsWithFile (name :: way)) :
    EndsWithFile way := by
  intro last hlast
  apply h last
  rw [List.getLast?_cons, hlast]
  rfl

theorem isFileName_of_mem_files {own file : String} {files : List String} {folders : List Folder}
    (h : ∀ way ∈ (mk own files folders).ways, EndsWithFile way) (hfile : file ∈ files) :
    IsFileName file :=
  h [file] (mem_ways_iff.2 (.inl ⟨file, hfile, rfl⟩)) file rfl

theorem endsWithFile_of_mem_folders {own : String} {files : List String} {folders : List Folder}
    (h : ∀ way ∈ (mk own files folders).ways, EndsWithFile way) {f : Folder} (hf : f ∈ folders) :
    ∀ way ∈ f.ways, EndsWithFile way := fun way hway =>
  endsWithFile_of_cons (h _ (mem_ways_iff.2 (.inr ⟨f, hf, way, hway, rfl⟩)))

/-- Reading the lines of a folder gives its ways, and what follows them is read with the folders
around it in place. -/
def ReadsBack (f : Folder) : Prop := ∀ (indent : String) (last : Bool)
  (above stack more : List String), IsIndent above.length indent →
    stack.take above.length = above → (∀ way ∈ f.ways, EndsWithFile way) →
    ∃ next : List String, next.take above.length = above ∧
      readWays stack (draw indent last f ++ more) =
        f.ways.map (fun way => above ++ f.name :: way) ++ readWays next more

theorem readWays_drawAll {folders : List Folder} (h : ∀ f ∈ folders, ReadsBack f)
    {indent : String} {above stack : List String} (hindent : IsIndent above.length indent)
    (hstack : stack.take above.length = above)
    (hways : ∀ way ∈ waysBelow folders, EndsWithFile way) (more : List String) :
    ∃ next : List String, next.take above.length = above ∧
      readWays stack (drawAll indent folders ++ more) =
        (waysBelow folders).map (above ++ ·) ++ readWays next more := by
  induction folders generalizing stack with
  | nil => exact ⟨stack, hstack, rfl⟩
  | cons f rest ih =>
    rw [List.forall_mem_cons] at h
    have hfirst : ∀ way ∈ f.ways, EndsWithFile way := fun way hway =>
      endsWithFile_of_cons (hways _ (mem_waysBelow_iff.2 ⟨f, by simp, way, hway, rfl⟩))
    have hrest : ∀ way ∈ waysBelow rest, EndsWithFile way := fun way hway =>
      hways way (List.mem_append_right _ hway)
    obtain ⟨middle, hm, hread⟩ := h.1 indent rest.isEmpty above stack
      (drawAll indent rest ++ more) hindent hstack hfirst
    obtain ⟨next, hn, hmore⟩ := ih h.2 hm hrest
    refine ⟨next, hn, ?_⟩
    rw [drawAll, List.append_assoc, hread, hmore, waysBelow, List.map_append, List.map_map,
      List.append_assoc]
    rfl

theorem readsBack (f : Folder) : ReadsBack f := by
  induction f with
  | mk name files folders ih =>
    intro indent last above stack more hindent hstack hways
    have hfiles : ∀ file ∈ files, IsFileName file := fun _ => isFileName_of_mem_files hways
    have hbelow : ∀ way ∈ waysBelow folders, EndsWithFile way := fun way hway =>
      hways way (List.mem_append_right _ hway)
    have hinner : IsIndent (above ++ [name]).length (indent ++ rail last) := by
      simpa using hindent.rail last
    obtain ⟨next, hn, hread⟩ := readWays_drawAll ih hinner List.take_length hbelow more
    refine ⟨next, ?_, ?_⟩
    · have ht := congrArg (List.take above.length) hn
      simpa [List.take_take] using ht
    · rw [draw, List.cons_append, readWays_folder hindent, hstack, List.append_assoc,
        readWays_drawFiles hinner hfiles, hread, ways, List.map_append, List.map_map,
        List.append_assoc]
      simp [Function.comp_def, Folder.name]

/-- A drawing shows the files of its folder that no ignored folder holds. -/
theorem mem_shownWays_iff {ignored : String → Bool} {f : Folder}
    (hways : ∀ way ∈ f.ways, EndsWithFile way) (way : List String) :
    way ∈ shownWays (f.lines ignored) ↔ ignored f.name = false ∧ way ∈ f.ways ∧
      ∀ folder ∈ way.dropLast, ignored folder = false := by
  unfold lines shownWays
  cases hname : ignored f.name with
  | true => simp [readWays]
  | false =>
    have harranged : ∀ way ∈ (arrange ignored f).ways, EndsWithFile way := fun way hway =>
      hways way ((mem_ways_arrange_iff ignored f way).1 hway).1
    obtain ⟨next, -, hread⟩ :=
      readsBack (arrange ignored f) "" true [] [] [] isIndent_empty rfl harranged
    rw [List.append_nil] at hread
    rw [if_neg (by simp), hread, ← mem_ways_arrange_iff]
    simp [readWays, Function.comp_def]

end Outline.Folder
