import Mathlib.Data.List.Chain
import Outline.Proofs.Folder.Canonical

set_option autoImplicit false

/-!
# Rails of a drawing

A line of a drawing begins with an indentation, one column of four characters for each folder around
its entry, and then has its own branch. The rows of a drawing are its lines before they are written
out. They follow one another in a simple way: what stands in front of a row is a part of what stands
in front of the row before it and of its branch, and only closed branches are dropped. From this, a
rail can be followed down to the branch that ends it and up to the branch that began it.
-/
namespace Outline.Folder

/-- What stands in front of the branch of a line. -/
def indentation (line : String) : List Char := line.toList.takeWhile fun c => c == ' ' || c == '│'

/-- The line has its branch at a column, the last one of its folder or one in the middle. -/
def IsBranchAt (last : Bool) (column : ℕ) (line : String) : Prop :=
  (indentation line).length = column ∧ (branch last).toList <+: line.toList.drop column

/-- The line has a vertical bar at a column of its indentation. -/
def HasBarAt (column : ℕ) (line : String) : Prop := (indentation line)[column]? = some '│'

/-- The line has a space at a column of its indentation. -/
def HasSpaceAt (column : ℕ) (line : String) : Prop := (indentation line)[column]? = some ' '

/-- No vertical bar is left hanging, at its upper or at its lower end, and there is none below a
last branch. The lines that belong to a branch are those below it that are indented further. -/
structure AreRailed (lines : List String) : Prop where
  ends : ∀ before line after d, lines = before ++ line :: after → IsBranchAt false (4 * d) line →
    ∃ between next rest, after = between ++ next :: rest ∧ (∀ m ∈ between, HasBarAt (4 * d) m) ∧
      ∃ last, IsBranchAt last (4 * d) next
  begins : ∀ before line after column, lines = before ++ line :: after → HasBarAt column line →
    ∃ d, column = 4 * d ∧ ∃ front start between, before = front ++ start :: between ∧
      IsBranchAt false column start ∧ ∀ m ∈ between, HasBarAt column m
  clear : ∀ before line below rest d, lines = before ++ line :: (below ++ rest) →
    IsBranchAt true (4 * d) line → (∀ m ∈ below, 4 * d < (indentation m).length) →
      ∀ m ∈ below, HasSpaceAt (4 * d) m

/-! ## Rows -/

/-- A line by its parts: for each folder around it whether that is the last of its own folder, then
whether the entry itself is, and its label. -/
structure Row where
  rails : List Bool
  last : Bool
  label : String

/-- What goes on below a row. -/
def Row.marks (r : Row) : List Bool := r.rails ++ [r.last]

def railChars (rails : List Bool) : List Char := rails.flatMap fun last => (rail last).toList

def Row.text (r : Row) : String := String.ofList (railChars r.rails) ++ branch r.last ++ r.label

/-- The rows of entries of one folder: below each entry the rows of what is in it. A branch in the
middle is followed by another one. -/
inductive Forest : List Bool → List Row → Prop
  | nil (rails : List Bool) : Forest rails []
  | cons {rails : List Bool} {last : Bool} {below rest : List Row} (label : String)
      (hbelow : Forest (rails ++ [last]) below) (hrest : Forest rails rest)
      (hlast : last = false → rest ≠ []) : Forest rails (⟨rails, last, label⟩ :: (below ++ rest))

theorem railChars_concat (rails : List Bool) (last : Bool) :
    String.ofList (railChars (rails ++ [last])) = String.ofList (railChars rails) ++ rail last := by
  apply String.toList_injective
  simp [railChars]

theorem text_row (rails : List Bool) (last : Bool) (label : String) :
    Row.text ⟨rails, last, label⟩ = String.ofList (railChars rails) ++ branch last ++ label := rfl

theorem exists_forest_drawFiles {rails : List Bool} {rest : List Row} (h : Forest rails rest)
    (files : List String) : ∃ rows, Forest rails rows ∧
      drawFiles (String.ofList (railChars rails)) files ++ rest.map Row.text =
        rows.map Row.text := by
  induction files with
  | nil => exact ⟨rest, h, rfl⟩
  | cons file files ih =>
    obtain ⟨rows, hrows, hdraw⟩ := ih
    cases files with
    | nil =>
      refine ⟨⟨rails, true, file⟩ :: ([] ++ rows), .cons file (.nil _) hrows (by simp), ?_⟩
      rw [drawFiles, List.nil_append, List.map_cons, ← hdraw, text_row]
      rfl
    | cons next files =>
      have hne : rows ≠ [] := by
        rintro rfl
        cases files <;> simp [drawFiles] at hdraw
      refine ⟨⟨rails, false, file⟩ :: ([] ++ rows), .cons file (.nil _) hrows fun _ => hne, ?_⟩
      rw [drawFiles, List.nil_append, List.map_cons, ← hdraw, text_row]
      · rfl
      · simp

theorem draw_ne_nil (indent : String) (last : Bool) (f : Folder) : draw indent last f ≠ [] := by
  cases f
  simp [draw]

theorem exists_forest_draw (f : Folder) (rails : List Bool) (last : Bool) :
    ∃ label below, Forest (rails ++ [last]) below ∧
      draw (String.ofList (railChars rails)) last f =
        (⟨rails, last, label⟩ :: below : List Row).map Row.text := by
  induction f generalizing rails last with
  | mk name files folders ih =>
    have hall : ∀ subs : List Folder, (∀ f ∈ subs, f ∈ folders) → ∃ rows,
        Forest (rails ++ [last]) rows ∧
          drawAll (String.ofList (railChars (rails ++ [last]))) subs = rows.map Row.text := by
      intro subs hsubs
      induction subs with
      | nil => exact ⟨[], .nil _, rfl⟩
      | cons sub subs ihsubs =>
        rw [List.forall_mem_cons] at hsubs
        obtain ⟨label, below, hbelow, hsub⟩ := ih sub hsubs.1 (rails ++ [last]) subs.isEmpty
        obtain ⟨rest, hrest, hdraw⟩ := ihsubs hsubs.2
        refine ⟨_, .cons label hbelow hrest ?_, ?_⟩
        · rintro hempty rfl
          cases subs with
          | nil => cases hempty
          | cons next subs => simp [drawAll, draw_ne_nil] at hdraw
        · rw [drawAll, hsub, hdraw, ← List.map_append, List.cons_append]
    obtain ⟨folderRows, hfolders, hdrawn⟩ := hall folders fun _ hf => hf
    obtain ⟨rows, hrows, hdraw⟩ := exists_forest_drawFiles hfolders files
    refine ⟨name ++ "/", rows, hrows, ?_⟩
    rw [draw, ← railChars_concat, hdrawn, hdraw, List.map_cons, text_row, String.append_assoc]

/-! ## One row after another -/

/-- The folders around the next row are among those around this row and this row itself; those that
are left behind, except for the outermost of them, were the last of their folders. -/
def Row.Precedes (r next : Row) : Prop :=
  ∃ left, r.marks = next.rails ++ left ∧ ∀ last ∈ left.tail, last = true

/-- Rows of entries of one folder follow one another, and the last row leaves nothing open. -/
structure Threads (rails : List Bool) (rows : List Row) : Prop where
  chain : rows.IsChain Row.Precedes
  first : ∀ r ∈ rows.head?, r.rails = rails
  final : ∀ r ∈ rows.getLast?, ∃ closed, r.marks = rails ++ closed ∧ ∀ last ∈ closed, last = true

theorem Forest.threads {rails : List Bool} {rows : List Row} (h : Forest rails rows) :
    Threads rails rows := by
  induction h with
  | nil rails => exact ⟨.nil, by simp, by simp⟩
  | @cons rails last below rest label _ _ hlast hbelow hrest =>
    have hchain : (⟨rails, last, label⟩ :: below : List Row).IsChain Row.Precedes := by
      refine List.isChain_cons.2 ⟨fun next hnext => ⟨[], ?_, by simp⟩, hbelow.chain⟩
      rw [hbelow.first next hnext, List.append_nil, Row.marks]
    -- the last row of the first entry closes everything below that entry
    have hend : ∀ r ∈ (⟨rails, last, label⟩ :: below : List Row).getLast?, ∃ closed,
        r.marks = rails ++ last :: closed ∧ ∀ last ∈ closed, last = true := by
      intro r hr
      rw [List.getLast?_cons] at hr
      cases hbottom : below.getLast? with
      | none =>
        rw [hbottom] at hr
        cases hr
        exact ⟨[], rfl, by simp⟩
      | some bottom =>
        rw [hbottom] at hr
        cases hr
        obtain ⟨closed, hmarks, hclosed⟩ := hbelow.final bottom hbottom
        exact ⟨closed, by simpa using hmarks, hclosed⟩
    rw [← List.cons_append]
    refine ⟨List.isChain_append.2 ⟨hchain, hrest.chain, ?_⟩, by simp, ?_⟩
    · intro r hr next hnext
      obtain ⟨closed, hmarks, hclosed⟩ := hend r hr
      exact ⟨last :: closed, by rw [hmarks, hrest.first next hnext], hclosed⟩
    · intro r hr
      by_cases hempty : rest = []
      · rw [hempty, List.append_nil] at hr
        obtain ⟨closed, hmarks, hclosed⟩ := hend r hr
        have hown : last = true := by simpa using fun hl => hlast hl hempty
        exact ⟨last :: closed, hmarks, List.forall_mem_cons.2 ⟨hown, hclosed⟩⟩
      · rw [List.getLast?_append_of_ne_nil _ hempty] at hr
        exact hrest.final r hr

theorem Row.getElem?_marks {r : Row} {d : ℕ} (h : d < r.rails.length) :
    r.marks[d]? = r.rails[d]? := by
  rw [Row.marks, List.getElem?_append_left h]

theorem Row.Precedes.getElem?_marks {r next : Row} (h : r.Precedes next) {d : ℕ}
    (hd : d < next.rails.length) : next.rails[d]? = r.marks[d]? := by
  obtain ⟨left, hmarks, -⟩ := h
  rw [hmarks, List.getElem?_append_left hd]

/-- A rail goes on below a row until a branch takes its place. -/
theorem Row.Precedes.le_length {r next : Row} (h : r.Precedes next) {d : ℕ}
    (hd : r.marks[d]? = some false) : d ≤ next.rails.length := by
  obtain ⟨left, hmarks, hleft⟩ := h
  by_contra hlt
  rw [hmarks, List.getElem?_append_right (by omega)] at hd
  -- what stands further in than the next row belongs to folders that are closed
  have hmem : false ∈ left.tail := by
    refine List.mem_of_getElem? (i := d - next.rails.length - 1) ?_
    rw [List.getElem?_tail, ← hd]
    congr 1
    omega
  cases hleft false hmem

theorem exists_branch_below {rows : List Row} {r : Row} {d : ℕ}
    (hchain : (r :: rows).IsChain Row.Precedes)
    (hfinal : ∀ bottom ∈ (r :: rows).getLast?, ∀ last ∈ bottom.marks, last = true)
    (hd : r.marks[d]? = some false) :
    ∃ between next rest, rows = between ++ next :: rest ∧
      (∀ m ∈ between, m.rails[d]? = some false) ∧ next.rails.length = d := by
  induction rows generalizing r with
  | nil => cases hfinal r rfl false (List.mem_of_getElem? hd)
  | cons next rows ih =>
    rw [List.isChain_cons_cons] at hchain
    rcases (hchain.1.le_length hd).eq_or_lt with heq | hlt
    · exact ⟨[], next, rows, rfl, by simp, heq.symm⟩
    · have hnext : next.rails[d]? = some false := by rw [hchain.1.getElem?_marks hlt, hd]
      obtain ⟨between, stop, rest, rfl, hbetween, hstop⟩ := ih hchain.2
        (by simpa [List.getLast?_cons_cons] using hfinal) (by rw [Row.getElem?_marks hlt, hnext])
      exact ⟨next :: between, stop, rest, rfl, List.forall_mem_cons.2 ⟨hnext, hbetween⟩, hstop⟩

theorem exists_branch_above {rows : List Row} {r : Row} {d : ℕ}
    (hchain : (rows ++ [r]).IsChain Row.Precedes)
    (hfirst : ∀ top ∈ (rows ++ [r]).head?, top.rails = [])
    (hd : r.rails[d]? = some false) :
    ∃ front start between, rows = front ++ start :: between ∧
      (start.rails.length = d ∧ start.last = false) ∧ ∀ m ∈ between, m.rails[d]? = some false := by
  induction rows using List.reverseRecOn generalizing r with
  | nil => simp [hfirst r rfl] at hd
  | append_singleton rows above ih =>
    have hlast : above.Precedes r :=
      (List.isChain_append.1 hchain).2.2 above (by simp) r (by simp)
    have hmarks : above.marks[d]? = some false := by
      rw [← hlast.getElem?_marks (List.getElem?_eq_some_iff.1 hd).1, hd]
    rcases Nat.lt_trichotomy d above.rails.length with hlt | heq | hgt
    · rw [Row.getElem?_marks hlt] at hmarks
      obtain ⟨front, start, between, rfl, hstart, hbetween⟩ := ih (List.isChain_append.1 hchain).1
        (by simpa using hfirst) hmarks
      refine ⟨front, start, between ++ [above], by simp, hstart, ?_⟩
      rw [List.forall_mem_append, List.forall_mem_singleton]
      exact ⟨hbetween, hmarks⟩
    · refine ⟨rows, above, [], rfl, ⟨heq.symm, ?_⟩, by simp⟩
      simpa [Row.marks, heq] using hmarks
    · rw [Row.marks, List.getElem?_eq_none (by simp; omega)] at hmarks
      cases hmarks

theorem forall_space_below {below rest : List Row} {r : Row} {d : ℕ}
    (hchain : (r :: (below ++ rest)).IsChain Row.Precedes) (hd : r.marks[d]? = some true)
    (hdeep : ∀ m ∈ below, d < m.rails.length) : ∀ m ∈ below, m.rails[d]? = some true := by
  induction below generalizing r with
  | nil => simp
  | cons next below ih =>
    rw [List.cons_append, List.isChain_cons_cons] at hchain
    rw [List.forall_mem_cons] at hdeep ⊢
    have hnext : next.rails[d]? = some true := by rw [hchain.1.getElem?_marks hdeep.1, hd]
    exact ⟨hnext, ih hchain.2 (by rw [Row.getElem?_marks hdeep.1, hnext]) hdeep.2⟩

/-! ## Rows written out -/

theorem length_railChars (rails : List Bool) : (railChars rails).length = 4 * rails.length := by
  induction rails with
  | nil => rfl
  | cons last rails ih =>
    have hrail : (rail last).toList.length = 4 := by cases last <;> rfl
    rw [railChars, List.flatMap_cons, List.length_append, hrail, List.length_cons]
    rw [railChars] at ih
    omega

theorem getElem?_railChars (rails : List Bool) (d : ℕ) {k : ℕ} (hk : k < 4) :
    (railChars rails)[4 * d + k]? = rails[d]?.bind fun last => (rail last).toList[k]? := by
  induction rails generalizing d with
  | nil => rfl
  | cons last rails ih =>
    have hrail : (rail last).toList.length = 4 := by cases last <;> rfl
    rw [railChars, List.flatMap_cons]
    cases d with
    | zero => rw [List.getElem?_append_left (by omega)]; simp
    | succ d =>
      rw [List.getElem?_append_right (by omega), hrail, List.getElem?_cons_succ, ← ih d, railChars]
      congr 1
      omega

theorem indentation_text (r : Row) : indentation r.text = railChars r.rails := by
  have hrail : ∀ last, (rail last).toList.all (fun c => c == ' ' || c == '│') = true := by
    intro last
    cases last <;> rfl
  have hrails : ∀ c ∈ railChars r.rails, (c == ' ' || c == '│') = true := by
    intro c hc
    obtain ⟨last, -, hc⟩ := List.mem_flatMap.1 hc
    exact List.all_eq_true.1 (hrail last) c hc
  rw [indentation, Row.text, String.toList_append, String.toList_append, String.toList_ofList,
    List.append_assoc, List.takeWhile_append_of_pos hrails]
  cases r.last <;> simp [branch]

theorem length_indentation_text (r : Row) : (indentation r.text).length = 4 * r.rails.length := by
  rw [indentation_text, length_railChars]

theorem hasBarAt_text_iff {r : Row} {column : ℕ} :
    HasBarAt column r.text ↔ ∃ d, column = 4 * d ∧ r.rails[d]? = some false := by
  -- only the first character of a rail can be a bar
  have hfirst : ∀ (last : Bool) (k : ℕ), (rail last).toList[k]? = some '│' →
      k = 0 ∧ last = false := by
    intro last k hbar
    rcases last with _ | _ <;> rcases k with _ | _ | _ | _ | k <;> simp [rail] at hbar ⊢
  rw [HasBarAt, indentation_text]
  constructor
  · intro hbar
    have hk : column % 4 < 4 := Nat.mod_lt _ (by decide)
    rw [← Nat.div_add_mod column 4, getElem?_railChars _ _ hk, Option.bind_eq_some_iff] at hbar
    obtain ⟨last, hlast, hbar⟩ := hbar
    obtain ⟨hzero, rfl⟩ := hfirst last _ hbar
    exact ⟨column / 4, by omega, hlast⟩
  · rintro ⟨d, rfl, hbar⟩
    have hchar := getElem?_railChars r.rails d (Nat.zero_lt_succ 3)
    rwa [Nat.add_zero, hbar] at hchar

theorem hasSpaceAt_text {r : Row} {d : ℕ} (h : r.rails[d]? = some true) :
    HasSpaceAt (4 * d) r.text := by
  rw [HasSpaceAt, indentation_text]
  have hchar := getElem?_railChars r.rails d (Nat.zero_lt_succ 3)
  rwa [Nat.add_zero, h] at hchar

theorem isBranchAt_text_iff {r : Row} {last : Bool} {d : ℕ} :
    IsBranchAt last (4 * d) r.text ↔ r.rails.length = d ∧ r.last = last := by
  have hdrop : r.text.toList.drop (4 * r.rails.length) =
      (branch r.last).toList ++ r.label.toList := by
    rw [Row.text, String.toList_append, String.toList_append, String.toList_ofList,
      List.append_assoc, ← length_railChars, List.drop_left]
  have hbranch : (branch last).toList <+: (branch r.last).toList ++ r.label.toList ↔
      r.last = last := by
    cases r.last <;> cases last <;> simp [branch]
  rw [IsBranchAt, length_indentation_text]
  constructor
  · rintro ⟨hlength, hprefix⟩
    rw [← hlength, hdrop, hbranch] at hprefix
    exact ⟨by omega, hprefix⟩
  · rintro ⟨rfl, hlast⟩
    rw [hdrop, hbranch]
    exact ⟨rfl, hlast⟩

theorem getElem?_marks_length (r : Row) : r.marks[r.rails.length]? = some r.last := by
  simp [Row.marks]

theorem Threads.areRailed {rows : List Row} (h : Threads [] rows) :
    AreRailed (rows.map Row.text) where
  ends := by
    rintro before line after d hlines hbranch
    obtain ⟨above, rest, rfl, rfl, hrest⟩ := List.map_eq_append_iff.1 hlines
    obtain ⟨r, below, rfl, rfl, rfl⟩ := List.map_eq_cons_iff.1 hrest
    obtain ⟨rfl, hlast⟩ := isBranchAt_text_iff.1 hbranch
    have hfinal : ∀ r' ∈ (r :: below).getLast?, ∀ last ∈ r'.marks, last = true := by
      intro r' hr'
      obtain ⟨closed, hmarks, hclosed⟩ := h.final r' (by
        rwa [List.getLast?_append_of_ne_nil _ (by simp)])
      rwa [hmarks, List.nil_append]
    obtain ⟨between, next, rest, rfl, hbetween, hnext⟩ := exists_branch_below
      (List.isChain_append.1 h.chain).2.1 hfinal (hlast ▸ getElem?_marks_length r)
    refine ⟨between.map Row.text, next.text, rest.map Row.text, by simp, ?_, next.last, ?_⟩
    · rw [List.forall_mem_map]
      exact fun m hm => hasBarAt_text_iff.2 ⟨_, rfl, hbetween m hm⟩
    · exact isBranchAt_text_iff.2 ⟨hnext, rfl⟩
  begins := by
    rintro before line after column hlines hbar
    obtain ⟨above, rest, rfl, rfl, hrest⟩ := List.map_eq_append_iff.1 hlines
    obtain ⟨r, below, rfl, rfl, rfl⟩ := List.map_eq_cons_iff.1 hrest
    obtain ⟨d, rfl, hd⟩ := hasBarAt_text_iff.1 hbar
    have hsplit : above ++ r :: below = (above ++ [r]) ++ below := by simp
    have hfirst : ∀ r' ∈ (above ++ [r]).head?, r'.rails = [] := by
      intro r' hr'
      refine h.first r' ?_
      rw [hsplit, List.head?_append_of_ne_nil _ (by simp)]
      exact hr'
    obtain ⟨front, start, between, rfl, hstart, hbetween⟩ :=
      exists_branch_above (List.isChain_append.1 (hsplit ▸ h.chain)).1 hfirst hd
    refine ⟨d, rfl, front.map Row.text, start.text, between.map Row.text, by simp, ?_, ?_⟩
    · exact isBranchAt_text_iff.2 hstart
    · rw [List.forall_mem_map]
      exact fun m hm => hasBarAt_text_iff.2 ⟨d, rfl, hbetween m hm⟩
  clear := by
    rintro before line below rest d hlines hbranch hdeep
    obtain ⟨above, tail, rfl, rfl, htail⟩ := List.map_eq_append_iff.1 hlines
    obtain ⟨r, after, rfl, rfl, hafter⟩ := List.map_eq_cons_iff.1 htail
    obtain ⟨inner, others, rfl, rfl, rfl⟩ := List.map_eq_append_iff.1 hafter
    obtain ⟨rfl, hlast⟩ := isBranchAt_text_iff.1 hbranch
    rw [List.forall_mem_map] at hdeep ⊢
    have hinner : ∀ m ∈ inner, r.rails.length < m.rails.length := by
      intro m hm
      have hlength := hdeep m hm
      rw [length_indentation_text] at hlength
      omega
    exact fun m hm => hasSpaceAt_text (forall_space_below (List.isChain_append.1 h.chain).2.1
      (hlast ▸ getElem?_marks_length r) hinner m hm)

theorem isIndent_railChars (rails : List Bool) :
    IsIndent rails.length (String.ofList (railChars rails)) := by
  induction rails using List.reverseRecOn with
  | nil => exact isIndent_empty
  | append_singleton rails last ih =>
    rw [railChars_concat, List.length_append]
    exact ih.rail last

theorem isBranchAt_depth (r : Row) :
    IsBranchAt r.last (4 * (readLine r.text.toList).1) r.text := by
  rw [isBranchAt_text_iff, Row.text, readLine_branch (isIndent_railChars r.rails)]
  exact ⟨rfl, rfl⟩

theorem exists_rows_lines (ignored : String → Bool) (f : Folder) :
    ∃ rows, Threads [] rows ∧ f.lines ignored = rows.map Row.text := by
  unfold lines
  split_ifs
  · exact ⟨[], (Forest.nil []).threads, rfl⟩
  · obtain ⟨label, below, hbelow, hdraw⟩ := exists_forest_draw (arrange ignored f) [] true
    refine ⟨_, (Forest.cons label hbelow (.nil []) (by simp)).threads, ?_⟩
    rw [List.append_nil, ← hdraw]
    rfl

theorem map_readLine_lines (ignored : String → Bool) (f : Folder) :
    (f.lines ignored).map (fun line => readLine line.toList) =
      (f.canonical ignored).elim [] (labels 0) := by
  rw [lines, canonical_eq]
  split_ifs
  · rfl
  · exact map_readLine_draw (arrange ignored f) isIndent_empty true

/-- The lines of a drawing show the entries that are drawn, each with its branch at four columns for
every folder around it, and no vertical bar is left hanging. -/
theorem drawing_has_no_dangling_rails {ignored : String → Bool} {f : Folder}
    (hnames : ∀ name ∈ f.names, '\n' ∉ name.toList) :
    (Text.givenLines (f.render ignored)).map (fun line => readLine line.toList) =
        (f.canonical ignored).elim [] (labels 0) ∧
      (∀ line ∈ Text.givenLines (f.render ignored),
        ∃ last, IsBranchAt last (4 * (readLine line.toList).1) line) ∧
      AreRailed (Text.givenLines (f.render ignored)) := by
  rw [givenLines_render hnames]
  refine ⟨map_readLine_lines ignored f, ?_⟩
  obtain ⟨rows, hrows, hlines⟩ := exists_rows_lines ignored f
  rw [hlines, List.forall_mem_map]
  exact ⟨fun r _ => ⟨r.last, isBranchAt_depth r⟩, hrows.areRailed⟩

/-- A file that looks like a branch before folders, one of them ignored. -/
def closet : Folder :=
  mk "r" ["b.cs", "└──a.cs"]
    [mk "s" ["│.cs"] [mk "t" [] []], mk "obj" ["x.cs"] [], mk "u" ["c.cs"] []]

theorem drawing_has_no_dangling_rails_closet :
    Text.givenLines (closet.render (· == "obj")) =
        ["└──r/", "    ├──b.cs", "    └──└──a.cs", "    ├──s/", "    │   └──│.cs", "    │   └──t/",
          "    └──u/", "        └──c.cs"] ∧
      AreRailed (Text.givenLines (closet.render (· == "obj"))) := by
  have hnames : ∀ name ∈ closet.names, '\n' ∉ name.toList := by decide +kernel
  refine ⟨?_, (drawing_has_no_dangling_rails hnames).2.2⟩
  rw [givenLines_render hnames]
  simp [closet, lines, draw, drawAll, drawFiles, arrange, arrangeAll, sortNames, sortFolders,
    List.mergeSort, List.MergeSort.Internal.splitInTwo, name, branch, rail]

end Outline.Folder
