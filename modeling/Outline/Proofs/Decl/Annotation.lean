import Outline.Proofs.SyntaxTree.Parameters

set_option autoImplicit false

/-!
# Summaries behind declarations

A summary is shown as its words, with single spaces between them. So it stays on one line, no
character but blanks is lost, and showing what was shown before changes nothing. A declaration whose
summary has no words is shown as if it had no summary.
-/
namespace Outline

/-! ## Words -/

namespace Text

open SyntaxTree

/-- What is left of a text that is cut at its blanks. -/
def words (text : String) : List String := (wordsFrom [] text.toList).map String.ofList

theorem map_toList_words (text : String) :
    (words text).map String.toList = wordsFrom [] text.toList := by
  simp [words, Function.comp_def]

def IsWord (word : List Char) : Prop := word ≠ [] ∧ ∀ c ∈ word, isBlank c = false

theorem wordsFrom_nil (held : List Char) :
    wordsFrom held [] = if held.isEmpty then [] else [held.reverse] := by
  cases held <;> rfl

theorem wordsFrom_cons (held : List Char) (c : Char) (rest : List Char) :
    wordsFrom held (c :: rest) =
      if isBlank c then
        if held.isEmpty then wordsFrom [] rest else held.reverse :: wordsFrom [] rest
      else wordsFrom (c :: held) rest := by
  cases held <;> rfl

theorem wordsFrom_blanks {run : List Char} (h : ∀ c ∈ run, isBlank c = true) (rest : List Char) :
    wordsFrom [] (run ++ rest) = wordsFrom [] rest := by
  induction run with
  | nil => rfl
  | cons c run ih =>
    rw [List.forall_mem_cons] at h
    rw [List.cons_append, wordsFrom_cons, if_pos h.1, if_pos List.isEmpty_nil, ih h.2]

theorem wordsFrom_letters {run : List Char} (h : ∀ c ∈ run, isBlank c = false)
    (held rest : List Char) :
    wordsFrom held (run ++ rest) = wordsFrom (run.reverse ++ held) rest := by
  induction run generalizing held with
  | nil => rfl
  | cons c run ih =>
    rw [List.forall_mem_cons] at h
    rw [List.cons_append, wordsFrom_cons, h.1, if_neg Bool.false_ne_true, ih h.2,
      List.reverse_cons, List.append_assoc]
    rfl

/-- A word ends at a blank or with the text. -/
theorem wordsFrom_ends {held rest : List Char} (hheld : held ≠ [])
    (h : ∀ c ∈ rest.head?, isBlank c = true) :
    wordsFrom held rest = held.reverse :: wordsFrom [] rest := by
  cases rest with
  | nil => rw [wordsFrom_nil, if_neg (by simpa using hheld), wordsFrom_nil, if_pos List.isEmpty_nil]
  | cons c rest =>
    rw [wordsFrom_cons, wordsFrom_cons, if_pos (h c rfl), if_pos (h c rfl),
      if_neg (by simpa using hheld), if_pos List.isEmpty_nil]

theorem IsWord.wordsFrom_append {word rest : List Char} (hword : IsWord word)
    (h : ∀ c ∈ rest.head?, isBlank c = true) :
    wordsFrom [] (word ++ rest) = word :: wordsFrom [] rest := by
  rw [wordsFrom_letters hword.2, List.append_nil,
    wordsFrom_ends (List.reverse_ne_nil_iff.2 hword.1) h, List.reverse_reverse]

/-- The words are the runs without blanks. -/
theorem wordsFrom_eq_filter (chars : List Char) :
    wordsFrom [] chars = (runs chars).filter fun run => run.all (!isBlank ·) := by
  induction chars using runs_induction with
  | nil => rfl
  | run blank run rest h ih =>
    rw [h.runs_append]
    cases blank with
    | true =>
      obtain ⟨c, others, rfl⟩ := List.exists_cons_of_ne_nil h.ne_nil
      have hc : isBlank c = true := h.alike c List.mem_cons_self
      rw [wordsFrom_blanks h.alike, List.filter_cons_of_neg (by simp [hc]), ih]
    | false =>
      have hword : IsWord run := ⟨h.ne_nil, h.alike⟩
      rw [hword.wordsFrom_append h.ends, List.filter_cons_of_pos (by simpa using h.alike), ih]

theorem isWord_wordsFrom (chars : List Char) : ∀ word ∈ wordsFrom [] chars, IsWord word := by
  intro word h
  rw [wordsFrom_eq_filter] at h
  obtain ⟨hrun, hall⟩ := List.mem_filter.1 h
  exact ⟨List.ne_nil_of_mem_splitBy hrun, by simpa using hall⟩

theorem flatten_wordsFrom_held (held chars : List Char) :
    (wordsFrom held chars).flatten = held.reverse ++ chars.filter (!isBlank ·) := by
  induction chars generalizing held with
  | nil => cases held <;> simp [wordsFrom_nil]
  | cons c rest ih =>
    rw [wordsFrom_cons]
    split_ifs with hblank hheld
    · rw [ih, List.isEmpty_iff.1 hheld, List.filter_cons_of_neg (by simp [hblank])]
    · rw [List.flatten_cons, ih, List.filter_cons_of_neg (by simp [hblank])]
      rfl
    · rw [ih, List.filter_cons_of_pos (by simpa using hblank), List.reverse_cons,
        List.append_assoc, List.singleton_append]

theorem flatten_wordsFrom (chars : List Char) :
    (wordsFrom [] chars).flatten = chars.filter (!isBlank ·) :=
  flatten_wordsFrom_held [] chars

theorem wordsFrom_eq_nil_iff (chars : List Char) :
    wordsFrom [] chars = [] ↔ ∀ c ∈ chars, isBlank c = true := by
  have hletters := flatten_wordsFrom chars
  constructor
  · intro hnone
    rw [hnone, List.flatten_nil, eq_comm, List.filter_eq_nil_iff] at hletters
    simpa using hletters
  · intro hblank
    rw [List.filter_eq_nil_iff.2 (by simpa using hblank), List.flatten_eq_nil_iff] at hletters
    refine List.eq_nil_iff_forall_not_mem.2 fun word hword => ?_
    exact (isWord_wordsFrom chars word hword).1 (hletters word hword)

theorem isBlank_space : isBlank ' ' = true := by decide

variable {found : List (List Char)}

/-- Words with spaces between them are found again. -/
theorem wordsFrom_intercalate (h : ∀ word ∈ found, IsWord word) :
    wordsFrom [] ([' '].intercalate found) = found := by
  induction found with
  | nil => rfl
  | cons word found ih =>
    rw [List.forall_mem_cons] at h
    cases found with
    | nil =>
      have hend : wordsFrom [] (word ++ []) = word :: wordsFrom [] [] :=
        h.1.wordsFrom_append (by simp)
      rw [List.append_nil] at hend
      rw [List.intercalate_singleton, hend]
      rfl
    | cons next found =>
      rw [List.intercalate_cons_cons, List.append_assoc,
        h.1.wordsFrom_append (by simp [isBlank_space]),
        wordsFrom_blanks (by simp [isBlank_space]), ih h.2]

theorem intercalate_ne_nil (h : ∀ word ∈ found, IsWord word) (hne : found ≠ []) :
    [' '].intercalate found ≠ [] := by
  intro hnil
  have hagain := wordsFrom_intercalate h
  rw [hnil] at hagain
  exact hne hagain.symm

theorem isBlank_head_intercalate (h : ∀ word ∈ found, IsWord word) :
    ∀ c ∈ ([' '].intercalate found).head?, isBlank c = false := by
  cases found with
  | nil => simp
  | cons word found =>
    have hword : IsWord word := h word List.mem_cons_self
    obtain ⟨more, hmore⟩ : ∃ more, [' '].intercalate (word :: found) = word ++ more := by
      cases found with
      | nil => exact ⟨[], by simp⟩
      | cons next found => exact ⟨_, by rw [List.intercalate_cons_cons, List.append_assoc]⟩
    intro c hc
    rw [hmore, List.head?_append_of_ne_nil _ hword.1] at hc
    exact hword.2 c (List.mem_of_mem_head? hc)

theorem isBlank_getLast_intercalate (h : ∀ word ∈ found, IsWord word) :
    ∀ c ∈ ([' '].intercalate found).getLast?, isBlank c = false := by
  induction found with
  | nil => simp
  | cons word found ih =>
    rw [List.forall_mem_cons] at h
    intro c hc
    cases found with
    | nil =>
      rw [List.intercalate_singleton] at hc
      exact h.1.2 c (List.mem_of_mem_getLast? hc)
    | cons next found =>
      rw [List.intercalate_cons_cons,
        List.getLast?_append_of_ne_nil _ (intercalate_ne_nil h.2 (List.cons_ne_nil _ _))] at hc
      exact ih h.2 c hc

theorem dropWhile_append_of_head {p : Char → Bool} {front chars : List Char}
    (hfront : ∀ c ∈ front, p c = true) (hhead : ∀ c ∈ chars.head?, p c = false) :
    (front ++ chars).dropWhile p = chars := by
  rw [List.dropWhile_append_of_pos hfront]
  cases chars with
  | nil => rfl
  | cons c rest => rw [List.dropWhile_cons_of_neg (by simpa using hhead c rfl)]

/-- Blanks around words with spaces between them are all that is trimmed. -/
theorem trimBlank_intercalate (h : ∀ word ∈ found, IsWord word) {front back : List Char}
    (hfront : ∀ c ∈ front, isBlank c = true) (hback : ∀ c ∈ back, isBlank c = true) :
    trimBlank (front ++ ([' '].intercalate found ++ back)) = [' '].intercalate found := by
  have hend : (([' '].intercalate found ++ back).reverse.dropWhile isBlank).reverse =
      [' '].intercalate found := by
    rw [List.reverse_append, dropWhile_append_of_head (by simpa using hback), List.reverse_reverse]
    rw [List.head?_reverse]
    exact isBlank_getLast_intercalate h
  by_cases hne : found = []
  · subst hne
    have hall : ∀ c ∈ front ++ back, isBlank c = true := List.forall_mem_append.2 ⟨hfront, hback⟩
    rw [trimBlank, List.intercalate_nil, List.nil_append, List.dropWhile_eq_nil_iff.2 hall]
    rfl
  · rw [trimBlank, dropWhile_append_of_head hfront, hend]
    rw [List.head?_append_of_ne_nil _ (intercalate_ne_nil h hne)]
    exact isBlank_head_intercalate h

end Text

/-! ## Summaries -/

namespace Listing

open Text

theorem collapseFrom_cons (inRun : Bool) (result : List Char) (c : Char) (rest : List Char) :
    collapseFrom inRun result (c :: rest) =
      if isBlank c then
        if inRun then collapseFrom true result rest else collapseFrom true (' ' :: result) rest
      else collapseFrom false (c :: result) rest := by
  rw [collapseFrom]

theorem collapseFrom_result (inRun : Bool) (result chars : List Char) :
    collapseFrom inRun result chars = result.reverse ++ collapseFrom inRun [] chars := by
  induction chars generalizing inRun result with
  | nil => simp [collapseFrom]
  | cons c rest ih =>
    rw [collapseFrom_cons, collapseFrom_cons]
    split_ifs
    · exact ih _ _
    · rw [ih, ih _ [' '], List.reverse_cons, List.append_assoc]
      rfl
    · rw [ih, ih _ [c], List.reverse_cons, List.append_assoc]
      rfl

/-- A run of blanks is under way whenever no word is. -/
theorem exists_collapseFrom_eq (held chars : List Char) :
    ∃ back, (∀ c ∈ back, isBlank c = true) ∧
      held.reverse ++ collapseFrom held.isEmpty [] chars =
        [' '].intercalate (wordsFrom held chars) ++ back := by
  induction chars generalizing held with
  | nil =>
    refine ⟨[], List.forall_mem_nil _, ?_⟩
    cases held <;> simp [collapseFrom, wordsFrom_nil]
  | cons c rest ih =>
    rw [collapseFrom_cons, wordsFrom_cons]
    split_ifs with hblank hheld
    · obtain rfl : held = [] := List.isEmpty_iff.1 hheld
      exact ih []
    · obtain ⟨back, hback, heq⟩ := ih []
      change collapseFrom true [] rest = _ at heq
      rw [collapseFrom_result, heq]
      -- a space behind the last word is left at the end
      cases hwords : wordsFrom [] rest with
      | nil =>
        refine ⟨' ' :: back, List.forall_mem_cons.2 ⟨isBlank_space, hback⟩, ?_⟩
        simp
      | cons word found => exact ⟨back, hback, by simp [List.intercalate_cons_cons]⟩
    · obtain ⟨back, hback, heq⟩ := ih (c :: held)
      refine ⟨back, hback, ?_⟩
      rw [← heq, collapseFrom_result]
      simp

theorem exists_collapse_eq (chars : List Char) :
    ∃ front, (∀ c ∈ front, isBlank c = true) ∧
      collapse chars = front ++ collapseFrom true [] chars := by
  cases chars with
  | nil => exact ⟨[], List.forall_mem_nil _, rfl⟩
  | cons c rest =>
    rw [collapse, collapseFrom_cons, collapseFrom_cons]
    by_cases hc : isBlank c = true
    · rw [if_pos hc, if_pos hc]
      exact ⟨[' '], by simp [isBlank_space], collapseFrom_result true [' '] rest⟩
    · rw [if_neg hc, if_neg hc]
      exact ⟨[], List.forall_mem_nil _, rfl⟩

theorem trimBlank_collapse (chars : List Char) :
    trimBlank (collapse chars) = [' '].intercalate (wordsFrom [] chars) := by
  obtain ⟨front, hfront, hchars⟩ := exists_collapse_eq chars
  obtain ⟨back, hback, hrest⟩ := exists_collapseFrom_eq [] chars
  change collapseFrom true [] chars = _ at hrest
  rw [hchars, hrest]
  exact trimBlank_intercalate (isWord_wordsFrom _) hfront hback

theorem toList_normalize (text : String) :
    (normalize (some text)).toList = [' '].intercalate (wordsFrom [] text.toList) := by
  rw [normalize, String.toList_ofList, trimBlank_collapse]

theorem normalize_eq_intercalate (text : String) :
    normalize (some text) = " ".intercalate (words text) := by
  have hspace : " ".toList = [' '] := rfl
  apply String.toList_injective
  rw [toList_normalize, String.toList_intercalate, map_toList_words, hspace]

theorem wordsFrom_normalize (text : String) :
    wordsFrom [] (normalize (some text)).toList = wordsFrom [] text.toList := by
  rw [toList_normalize, wordsFrom_intercalate (isWord_wordsFrom _)]

theorem normalize_normalize (text : String) :
    normalize (some (normalize (some text))) = normalize (some text) := by
  apply String.toList_injective
  rw [toList_normalize, wordsFrom_normalize, toList_normalize]

theorem filter_normalize (text : String) :
    (normalize (some text)).toList.filter (!isBlank ·) = text.toList.filter (!isBlank ·) :=
  calc
    (normalize (some text)).toList.filter (!isBlank ·) =
        (wordsFrom [] (normalize (some text)).toList).flatten := (flatten_wordsFrom _).symm
    _ = (wordsFrom [] text.toList).flatten := congrArg List.flatten (wordsFrom_normalize text)
    _ = text.toList.filter (!isBlank ·) := flatten_wordsFrom _

/-! ## Lines with a summary -/

/-- Whether a summary has anything to show. -/
def HasText (summary : Option String) : Prop :=
  ∃ text, summary = some text ∧ ∃ c ∈ text.toList, isBlank c = false

/-- A line is followed by its summary if there is anything to show, and only then. -/
structure IsAnnotated (bare : String) (summary : Option String) (line : String) : Prop where
  shown_iff : line = bare ++ " // " ++ normalize summary ↔ HasText summary
  bare_iff : line = bare ↔ ¬ HasText summary

theorem normalize_eq_empty_iff (summary : Option String) :
    normalize summary = "" ↔ ¬ HasText summary := by
  cases summary with
  | none => simp [normalize, HasText]
  | some text =>
    have hwords : normalize (some text) = "" ↔ wordsFrom [] text.toList = [] := by
      rw [← String.toList_inj, toList_normalize]
      constructor
      · intro hnil
        by_contra hne
        exact intercalate_ne_nil (isWord_wordsFrom _) hne hnil
      · intro hnil
        rw [hnil]
        rfl
    rw [hwords, wordsFrom_eq_nil_iff]
    simp [HasText]

theorem isAnnotated_annotate (bare : String) (summary : Option String) :
    IsAnnotated bare summary (annotate bare summary) := by
  have hmark (text : String) : bare ++ " // " ++ text ≠ bare := by
    intro h
    have hlength := congrArg String.length h
    rw [String.length_append, String.length_append] at hlength
    have hfour : " // ".length = 4 := by decide
    omega
  by_cases htext : HasText summary
  · have hline : annotate bare summary = bare ++ " // " ++ normalize summary := by
      have hne : normalize summary ≠ "" := fun h => (normalize_eq_empty_iff summary).1 h htext
      rw [annotate, if_neg (by simpa using hne)]
    rw [hline]
    exact ⟨iff_of_true rfl htext, iff_of_false (hmark _) (not_not_intro htext)⟩
  · have hline : annotate bare summary = bare := by
      rw [annotate, if_pos (by simp [(normalize_eq_empty_iff summary).2 htext])]
    rw [hline]
    exact ⟨iff_of_false (hmark _).symm htext, iff_of_true rfl htext⟩

/-- The line of a type without its summary. -/
def bareHeader (t : TypeDecl) : String := join (t.modifiers ++ [Text.lower t.kind, t.name])

/-- The line of a constructor or a method without its summary. -/
def bareSignature (s : Signature) (returnType : String) : String :=
  join (s.modifiers ++ [returnType, s.name ++ "(" ++ ", ".intercalate s.parameters ++ ");"])

/-- The line of a property without its summary. -/
def bareProperty (modifiers : List String) (type name : String) : String :=
  join (modifiers ++ [type, name, accessors])

/-- A member has one line, with its summary if there is anything to show. -/
def IsListed (detail : Detail) (m : Member) (bare : String) (summary : Option String) : Prop :=
  ∃ line, memberEntries detail m = [line] ∧ IsAnnotated bare summary line

/-- A summary is shown as its words, the runs of characters that are no blanks, with one space
between them. So it has no line break, keeps all other characters in order, and shows the same when
it is shown again. The line of a type, a constructor, a method or a property has it exactly if there
is a character other than blanks. -/
theorem summary_shown_as_words (text : String) :
    normalize (some text) = " ".intercalate (words text) ∧
    (words text).map String.toList =
      (SyntaxTree.runs text.toList).filter (fun run => run.all (!isBlank ·)) ∧
    ['\x1C', '\x1D', '\x1E', '\x1F', '\u0085', '\u2028', '\u2029'].all isBlank = true ∧
    normalize (some (normalize (some text))) = normalize (some text) ∧
    (∀ c ∈ (normalize (some text)).toList, isLineBreak c = false) ∧
    (normalize (some text)).toList.filter (!isBlank ·) = text.toList.filter (!isBlank ·) ∧
    (∀ t, IsAnnotated (bareHeader t) t.summary (header t)) ∧
    (∀ detail s, IsListed detail (.constructor s) (bareSignature s "") s.summary) ∧
    (∀ detail s returnType,
      IsListed detail (.method s returnType) (bareSignature s returnType) s.summary) ∧
    ∀ modifiers type name summary,
      IsListed .detailed (.property modifiers type name summary) (bareProperty modifiers type name)
        summary := by
  refine ⟨normalize_eq_intercalate text, ?_, by decide, normalize_normalize text,
    fun _ => not_isLineBreak_of_mem_normalize, filter_normalize text, ?_, ?_, ?_, ?_⟩
  · rw [map_toList_words, wordsFrom_eq_filter]
  · intro t
    exact isAnnotated_annotate _ _
  · intro detail s
    exact ⟨_, rfl, isAnnotated_annotate _ _⟩
  · intro detail s returnType
    exact ⟨_, rfl, isAnnotated_annotate _ _⟩
  · intro modifiers type name summary
    exact ⟨_, rfl, isAnnotated_annotate _ _⟩

/-- Separators and wide blanks are dropped at the ends and are one space in between. -/
example : normalize (some "\u2028\x1C a\u00A0\x1F\r\nb\u3000c\u0085") = "a b c" := by
  decide +kernel

end Listing

end Outline
