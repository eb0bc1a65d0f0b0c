import Outline.Proofs.Doc.Summary

set_option autoImplicit false

/-!
# The two styles of documentation comments

Documentation is written in line comments, or in one block with a star in front of every line. The
block has an empty line before the others and a blank one behind them. No tag starts or ends there,
so that both styles have the same summary.
-/
namespace Outline.Doc

/-- Every line in a comment of its own. -/
def lineComments (lines : List String) : List String := lines.map ("///" ++ ·)

/-- All lines in one block, each behind a star. -/
def blockComment (lines : List String) : String :=
  "/**" ++ String.join (lines.map ("\n *" ++ ·)) ++ "\n */"

/-! ## The lines of a block -/

def IsUnbroken (line : List Char) : Prop := ∀ c ∈ line, Text.isLineBreak c = false

theorem intercalate_nil_cons {lines : List (List Char)} (h : lines ≠ []) :
    ['\n'].intercalate ([] :: lines) = lines.flatMap ('\n' :: ·) := by
  induction lines with
  | nil => exact absurd rfl h
  | cons line lines ih =>
    rw [List.intercalate_cons_cons, List.flatMap_cons]
    cases lines with
    | nil => simp
    | cons next lines =>
      rw [List.intercalate_cons_cons] at ih
      rw [List.intercalate_cons_cons, ← ih (by simp)]
      simp

theorem splitLinesFrom_append {line : List Char} (h : IsUnbroken line)
    (found : List (List Char)) (current rest : List Char) :
    Text.splitLinesFrom found current (line ++ rest) =
      Text.splitLinesFrom found (line.reverse ++ current) rest := by
  induction line generalizing current with
  | nil => rfl
  | cons c line ih =>
    obtain ⟨hc, hline⟩ := List.forall_mem_cons.1 h
    have hreturn : c ≠ '\r' := by
      rintro rfl
      exact absurd hc (by decide)
    rw [List.cons_append, Text.splitLinesFrom.eq_4 _ _ _ _ fun _ h _ => hreturn h,
      if_neg (by simp [hc]), ih hline]
    simp

theorem splitLinesFrom_feeds {lines : List (List Char)} (h : ∀ line ∈ lines, IsUnbroken line)
    (found : List (List Char)) (current : List Char) {last : List Char} (hlast : IsUnbroken last)
    (hne : last ≠ []) :
    Text.splitLinesFrom found current ((lines ++ [last]).flatMap ('\n' :: ·)) =
      found.reverse ++ current.reverse :: (lines ++ [last]) := by
  have hfeed : ∀ (found : List (List Char)) (current rest : List Char),
      Text.splitLinesFrom found current ('\n' :: rest) =
        Text.splitLinesFrom (current.reverse :: found) [] rest := by
    intro found current rest
    rw [Text.splitLinesFrom.eq_4 _ _ _ _ (by simp), if_pos (by decide)]
  induction lines generalizing found current with
  | nil =>
    have hend := splitLinesFrom_append hlast (current.reverse :: found) [] []
    rw [Text.splitLinesFrom.eq_2 _ _ (by simpa using hne)] at hend
    simpa [hfeed] using hend
  | cons line lines ih =>
    obtain ⟨hline, hlines⟩ := List.forall_mem_cons.1 h
    rw [List.cons_append, List.flatMap_cons, List.cons_append, hfeed, splitLinesFrom_append hline,
      ih hlines]
    simp

theorem dropStar_starred {line : List Char} (h : line.head? ≠ some '/') :
    dropStar (' ' :: '*' :: line) = line :=
  (isWithoutStar_iff _ _).1
    (@IsWithoutStar.star [' '] line (List.forall_mem_singleton.2 (by decide)) h)

theorem toList_blockComment (lines : List String) :
    (blockComment lines).toList = "/**".toList ++
      ((lines.map (' ' :: '*' :: ·.toList) ++ [[' ']]).flatMap ('\n' :: ·) ++ "*/".toList) := by
  simp [blockComment, String.toList_join, List.flatMap_map]

theorem docLines_blockComment {lines : List String}
    (hslash : ∀ line ∈ lines, line.toList.head? ≠ some '/')
    (hbreak : ∀ line ∈ lines, IsUnbroken line.toList) :
    docLines (blockComment lines).toList = [] :: (lines.map String.toList ++ [[' ']]) := by
  have hrows : ∀ row ∈ lines.map (' ' :: '*' :: ·.toList), IsUnbroken row := by
    intro row hrow
    obtain ⟨line, hline, rfl⟩ := List.mem_map.1 hrow
    exact List.forall_mem_cons.2 ⟨by decide, List.forall_mem_cons.2 ⟨by decide, hbreak line hline⟩⟩
  have hlast : IsUnbroken [' '] := List.forall_mem_singleton.2 (by decide)
  have hstarred : (lines.map (' ' :: '*' :: ·.toList)).map dropStar = lines.map String.toList := by
    rw [List.map_map]
    exact List.map_congr_left fun line hline => dropStar_starred (hslash line hline)
  rw [toList_blockComment]
  refine HasDocLines.docLines_eq (.closed ?_)
  rw [Text.splitLines, splitLinesFrom_feeds hrows [] [] hlast (by simp),
    forall₂_iff_map isWithoutStar_iff]
  change dropStar [] :: _ = _
  rw [List.map_append, hstarred]
  rfl

theorem documentation_lineComments {lines : List String}
    (hslash : ∀ line ∈ lines, line.toList.head? ≠ some '/') :
    documentation (lineComments lines) = ['\n'].intercalate (lines.map String.toList) := by
  have hlines : ∀ line ∈ lines, docLines ("///" ++ line).toList = [line.toList] := by
    intro line hline
    rw [String.toList_append]
    exact HasDocLines.docLines_eq (.line (hslash line hline))
  rw [documentation, lineComments, List.flatMap_map, List.flatMap_congr hlines, List.map_eq_flatMap]

/-! ## Elements within other text -/

/-- A part that ends in a bracket ends before a text without brackets. -/
theorem exists_of_append_eq {front after text tail : List Char} (htail : '>' ∉ tail)
    (h : text ++ tail = front ++ ['>'] ++ after) :
    ∃ middle, text = front ++ ['>'] ++ middle ∧ after = middle ++ tail := by
  rcases List.append_eq_append_iff.1 h with ⟨more, hfront, hmore⟩ | ⟨middle, htext, hafter⟩
  · rcases List.eq_nil_or_concat' more with rfl | ⟨init, c, rfl⟩
    · exact ⟨[], by simpa using hfront.symm, by simpa using hmore.symm⟩
    · obtain ⟨-, hc⟩ := List.append_inj' (hfront.trans (List.append_assoc _ _ _).symm) rfl
      exact absurd (by simp [hmore, ← List.cons.inj hc]) htail
  · exact ⟨middle, htext, hafter⟩

theorem afterOpening?_append {tail : List Char} (htail : '>' ∉ tail) (text : List Char) :
    afterOpening? (text ++ tail) = (afterOpening? text).map (· ++ tail) := by
  refine Option.ext fun after => ?_
  rw [afterOpening?_eq_some_iff, Option.map_eq_some_iff]
  constructor
  · rintro ⟨opening, hopening, htext⟩
    obtain ⟨front, rfl, -⟩ := hopening.eq_concat
    obtain ⟨middle, htext', rfl⟩ := exists_of_append_eq htail htext
    exact ⟨middle, (afterOpening?_eq_some_iff _ _).2 ⟨_, hopening, htext'⟩, rfl⟩
  · rintro ⟨middle, hmiddle, rfl⟩
    obtain ⟨opening, hopening, rfl⟩ := (afterOpening?_eq_some_iff _ _).1 hmiddle
    exact ⟨opening, hopening, List.append_assoc _ _ _⟩

theorem closes_append {tail : List Char} (htail : '>' ∉ tail) (text : List Char) :
    closes (text ++ tail) = closes text := by
  rw [Bool.eq_iff_iff, closes_iff, closes_iff]
  constructor
  · rintro ⟨_, rest, ⟨hblanks⟩, htext⟩
    rename_i blanks
    rw [← List.append_assoc] at htext
    obtain ⟨middle, rfl, -⟩ := exists_of_append_eq htail htext
    exact ⟨_, middle, .intro hblanks, by simp⟩
  · rintro ⟨closing, rest, hclosing, rfl⟩
    exact ⟨closing, rest ++ tail, hclosing, List.append_assoc _ _ _⟩

theorem untilClosing?_of_not_mem {text : List Char} (h : '>' ∉ text) (gathered : List Char) :
    untilClosing? gathered text = none := by
  induction text generalizing gathered with
  | nil => rfl
  | cons c text ih =>
    have hclose := closes_append h []
    rw [List.nil_append] at hclose
    rw [untilClosing?, hclose]
    exact ih (List.not_mem_of_not_mem_cons h) _

theorem untilClosing?_append {tail : List Char} (htail : '>' ∉ tail) (gathered text : List Char) :
    untilClosing? gathered (text ++ tail) = untilClosing? gathered text := by
  induction text generalizing gathered with
  | nil => exact untilClosing?_of_not_mem htail gathered
  | cons c text ih =>
    have hclose := closes_append htail (c :: text)
    rw [List.cons_append] at hclose
    rw [List.cons_append, untilClosing?, untilClosing?, hclose, ih]

theorem findElement?_of_not_mem {text : List Char} (h : '>' ∉ text) : findElement? text = none := by
  induction text with
  | nil => rfl
  | cons c text ih =>
    have hopen := afterOpening?_append h []
    rw [List.nil_append] at hopen
    rw [findElement?, hopen]
    exact ih (List.not_mem_of_not_mem_cons h)

theorem findElement?_append {tail : List Char} (htail : '>' ∉ tail) (text : List Char) :
    findElement? (text ++ tail) = findElement? text := by
  induction text with
  | nil => exact findElement?_of_not_mem htail
  | cons c text ih =>
    have hopen := afterOpening?_append htail (c :: text)
    rw [List.cons_append] at hopen
    rw [List.cons_append, findElement?, findElement?, hopen, ih, Option.bind_map]
    simp only [Function.comp_def, untilClosing?_append htail]

theorem findElement?_framed (lines : List (List Char)) :
    findElement? (['\n'].intercalate ([] :: (lines ++ [[' ']]))) =
      findElement? (['\n'].intercalate lines) := by
  cases lines with
  | nil => rfl
  | cons line lines =>
    have hlines := @intercalate_nil_cons (line :: lines) (by simp)
    rw [List.intercalate_cons_cons] at hlines
    rw [intercalate_nil_cons (by simp), List.flatMap_append, ← hlines]
    -- no element begins at the line feed in front, and none ends in what is behind
    exact findElement?_append (by simp) (['\n'].intercalate (line :: lines))

/-- Lines have the same summary in line comments and in a block. -/
theorem summary_same_in_both_styles (lines : List String)
    (hslash : ∀ line ∈ lines, line.toList.head? ≠ some '/')
    (hbreak : ∀ line ∈ lines, ∀ c ∈ line.toList, Text.isLineBreak c = false) :
    summary? (lineComments lines) = summary? [blockComment lines] := by
  have hblock : documentation [blockComment lines] =
      ['\n'].intercalate ([] :: (lines.map String.toList ++ [[' ']])) := by
    rw [documentation, List.flatMap_singleton, docLines_blockComment hslash hbreak]
  rw [summary?, summary?, documentation_lineComments hslash, hblock, findElement?_framed]

/-- Tags over several lines, and lines that begin with blanks and stars themselves. -/
def starredLines : List String := ["* <summary", "\tkind='a'>*", " * b", "*/ c </summary", " > d"]

theorem summary_same_in_both_styles_starred :
    (∀ line ∈ starredLines, line.toList.head? ≠ some '/') ∧
    (∀ line ∈ starredLines, ∀ c ∈ line.toList, Text.isLineBreak c = false) ∧
      summary? (lineComments starredLines) = summary? [blockComment starredLines] := by
  have hslash : ∀ line ∈ starredLines, line.toList.head? ≠ some '/' := by decide +kernel
  have hall : ∀ line ∈ starredLines, line.toList.all (!Text.isLineBreak ·) := by decide +kernel
  have hbreak : ∀ line ∈ starredLines, ∀ c ∈ line.toList, Text.isLineBreak c = false := by
    simpa using hall
  exact ⟨hslash, hbreak, summary_same_in_both_styles starredLines hslash hbreak⟩

example : summary? [blockComment starredLines] = some "*\n * b\n*/ c " := by decide +kernel

end Outline.Doc
