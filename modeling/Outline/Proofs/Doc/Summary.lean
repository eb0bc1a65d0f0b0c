import Mathlib.Data.List.Forall2
import Mathlib.Data.List.TakeWhile
import Mathlib.Tactic.SplitIfs
import Outline.Doc.Summary

set_option autoImplicit false

/-!
# What a summary is

The documentation of comments and the element in it are described without a scanner: by the forms of
comments, lines and tags. The scanner tries every place in turn, and at each it looks for an opening
tag and then for the closing tag. It still finds the first closing tag behind the first opening tag:
no later opening tag ends before the first one does, so what closes a later one closes the first.
-/
namespace Outline.Doc

/-! ## Forms -/

/-- An opening tag: bare, or with attributes behind a blank. -/
inductive IsOpening : List Char → Prop
  | bare : IsOpening ("<summary".toList ++ ['>'])
  | attributed {blank : Char} {attributes : List Char} (hblank : Text.isBlank blank)
      (hattributes : '>' ∉ attributes) :
      IsOpening ("<summary".toList ++ blank :: (attributes ++ ['>']))

inductive IsClosing : List Char → Prop
  | intro {blanks : List Char} (hblanks : ∀ c ∈ blanks, Text.isBlank c) :
      IsClosing ("</summary".toList ++ (blanks ++ ['>']))

/-- A text has a part of some form at a place, and none of that form starts earlier. -/
structure IsFirst (form : List Char → Prop) (text before part after : List Char) : Prop where
  text_eq : text = before ++ (part ++ after)
  form_part : form part
  first : ∀ before' part' after', text = before' ++ (part' ++ after') → form part' →
    before.length ≤ before'.length

/-- The text between the first opening tag and the first closing tag behind it. -/
def IsElement (text inner : List Char) : Prop :=
  ∃ before opening after closing rest, IsFirst IsOpening text before opening after ∧
    IsFirst IsClosing after inner closing rest

/-- A line of a block, and the line without the star in front. -/
inductive IsWithoutStar : List Char → List Char → Prop
  | star {blanks rest : List Char} (hblanks : ∀ c ∈ blanks, Text.isBlank c)
      (hrest : rest.head? ≠ some '/') : IsWithoutStar (blanks ++ '*' :: rest) rest
  | plain {line : List Char} (h : ∀ blanks rest, (∀ c ∈ blanks, Text.isBlank c) →
      line = blanks ++ '*' :: rest → rest.head? = some '/') : IsWithoutStar line line

/-- A comment, and its documentation lines. -/
inductive HasDocLines : List Char → List (List Char) → Prop
  | line {text : List Char} (h : text.head? ≠ some '/') : HasDocLines ("///".toList ++ text) [text]
  | closed {body : List Char} {lines : List (List Char)}
      (h : List.Forall₂ IsWithoutStar (Text.splitLines body) lines) :
      HasDocLines ("/**".toList ++ (body ++ "*/".toList)) lines
  | unclosed {body : List Char} {lines : List (List Char)}
      (hopen : ¬ "*/".toList <:+ "/**".toList ++ body)
      (h : List.Forall₂ IsWithoutStar (Text.splitLines body) lines) :
      HasDocLines ("/**".toList ++ body) lines
  | other {comment : List Char}
      (hline : ∀ text, comment = "///".toList ++ text → text.head? = some '/')
      (hblock : "/**".toList <+: comment → comment = "/**/".toList) : HasDocLines comment []

/-- The documentation of comments: all their lines, with line feeds between them. -/
def IsDocumentationOf (comments : List String) (text : List Char) : Prop :=
  ∃ lines, List.Forall₂ HasDocLines (comments.map String.toList) lines ∧
    text = ['\n'].intercalate lines.flatten

/-! ## Tags -/

theorem dropWhile_eq_cons_iff {p : Char → Bool} {c : Char} (hc : p c = false)
    (text rest : List Char) : text.dropWhile p = c :: rest ↔
      ∃ front, (∀ x ∈ front, p x) ∧ text = front ++ c :: rest := by
  constructor
  · intro h
    refine ⟨text.takeWhile p, fun x hx => List.mem_takeWhile_imp hx, ?_⟩
    rw [← h, List.takeWhile_append_dropWhile]
  · rintro ⟨front, hfront, rfl⟩
    rw [List.dropWhile_append_of_pos hfront, List.dropWhile_cons_of_neg (by simp [hc])]

theorem startsWith_iff {mark : String} {chars : List Char} :
    startsWith mark chars ↔ ∃ rest, chars = mark.toList ++ rest := by
  rw [startsWith, List.isPrefixOf_iff_prefix]
  exact ⟨fun ⟨rest, h⟩ => ⟨rest, h.symm⟩, fun ⟨rest, h⟩ => ⟨rest, h.symm⟩⟩

theorem not_isBlank_bracket : Text.isBlank '>' = false := by decide

theorem ne_bracket_of_isBlank {c : Char} (h : Text.isBlank c) : c ≠ '>' := by
  rintro rfl
  simp [not_isBlank_bracket] at h

theorem afterOpening?_eq_some_iff (text after : List Char) :
    afterOpening? text = some after ↔ ∃ opening, IsOpening opening ∧ text = opening ++ after := by
  constructor
  · intro h
    unfold afterOpening? at h
    split_ifs at h with hmark
    obtain ⟨tail, rfl⟩ := startsWith_iff.1 hmark
    rw [List.drop_left' (by rfl)] at h
    split at h
    · cases h
      exact ⟨_, .bare, by simp⟩
    · rename_i blank rest _
      split_ifs at h with hblank
      split at h
      · rename_i bracket inner hdrop
        cases h
        obtain rfl : bracket = '>' := by
          have hhead := List.head?_dropWhile_not (· != '>') rest
          simpa [hdrop] using hhead
        obtain ⟨attributes, hattributes, rfl⟩ := (dropWhile_eq_cons_iff (by decide) _ _).1 hdrop
        have hmem : '>' ∉ attributes := fun hm => by simpa using hattributes '>' hm
        exact ⟨_, .attributed hblank hmem, by simp⟩
      · cases h
    · cases h
  · rintro ⟨_, hopening, rfl⟩
    cases hopening with
    | bare => rfl
    | @attributed blank attributes hblank hattributes =>
      -- rules out the bare tag when the scanner looks at the character behind the name
      have hne := ne_bracket_of_isBlank hblank
      have hfront : ∀ c ∈ attributes, (c != '>') = true := by
        intro c hc
        rw [bne_iff_ne]
        rintro rfl
        exact hattributes hc
      have hdrop := (@dropWhile_eq_cons_iff (· != '>') '>' (by decide) _ after).2
        ⟨attributes, hfront, rfl⟩
      have hmark : startsWith "<summary"
          ("<summary".toList ++ blank :: (attributes ++ ['>']) ++ after) :=
        startsWith_iff.2 ⟨_, List.append_assoc _ _ _⟩
      rw [afterOpening?, if_pos hmark, List.append_assoc, List.drop_left' (by rfl)]
      simp [hblank, hdrop]

theorem closes_iff (text : List Char) :
    closes text ↔ ∃ closing rest, IsClosing closing ∧ text = closing ++ rest := by
  rw [closes, Bool.and_eq_true, startsWith_iff]
  constructor
  · rintro ⟨⟨tail, rfl⟩, hhead⟩
    rw [List.drop_left' (by rfl), beq_iff_eq] at hhead
    obtain ⟨rest, hrest⟩ := List.head?_eq_some_iff.1 hhead
    obtain ⟨blanks, hblanks, rfl⟩ := (dropWhile_eq_cons_iff not_isBlank_bracket _ _).1 hrest
    exact ⟨_, rest, .intro hblanks, by simp⟩
  · rintro ⟨_, rest, ⟨hblanks⟩, rfl⟩
    rename_i blanks
    refine ⟨⟨_, List.append_assoc _ _ _⟩, ?_⟩
    have hdrop := (dropWhile_eq_cons_iff not_isBlank_bracket _ rest).2 ⟨blanks, hblanks, rfl⟩
    rw [List.append_assoc, List.drop_left' (by rfl)]
    simp [hdrop]

/-! ## The first tags -/

section First

variable {form : List Char → Prop} {c : Char} {text before part after : List Char}

theorem isFirst_front (h : form part) : IsFirst form (part ++ after) [] part after :=
  ⟨rfl, h, fun _ _ _ _ _ => Nat.zero_le _⟩

theorem IsFirst.eq_nil (h : IsFirst form text before part after) {part' after' : List Char}
    (hpart : form part') (htext : text = part' ++ after') : before = [] :=
  List.length_eq_zero_iff.1 (Nat.le_zero.1 (h.first [] part' after' htext hpart))

theorem isFirst_cons_iff (h : ¬ ∃ part' after', form part' ∧ c :: text = part' ++ after') :
    IsFirst form (c :: text) before part after ↔
      ∃ behind, before = c :: behind ∧ IsFirst form text behind part after := by
  constructor
  · intro hfirst
    cases before with
    | nil => exact absurd ⟨part, after, hfirst.form_part, hfirst.text_eq⟩ h
    | cons d behind =>
      obtain ⟨rfl, htext⟩ := List.cons.inj hfirst.text_eq
      refine ⟨behind, rfl, htext, hfirst.form_part, ?_⟩
      intro before' part' after' heq hpart
      have hle := hfirst.first (c :: before') part' after' (by rw [heq]; rfl) hpart
      exact Nat.le_of_succ_le_succ hle
  · rintro ⟨behind, rfl, hfirst⟩
    refine ⟨by rw [hfirst.text_eq]; rfl, hfirst.form_part, ?_⟩
    intro before' part' after' heq hpart
    cases before' with
    | nil => exact absurd ⟨part', after', hpart, heq⟩ h
    | cons d behind' =>
      obtain ⟨-, htext⟩ := List.cons.inj heq
      exact Nat.succ_le_succ (hfirst.first behind' part' after' htext hpart)

theorem exists_isFirst (hpart : form part) (htext : text = before ++ (part ++ after)) :
    ∃ before' part' after', IsFirst form text before' part' after' := by
  induction before generalizing text with
  | nil => exact ⟨[], part, after, htext ▸ isFirst_front hpart⟩
  | cons c behind ih =>
    subst htext
    by_cases hfront : ∃ part' after', form part' ∧
        c :: (behind ++ (part ++ after)) = part' ++ after'
    · obtain ⟨part', after', hpart', heq⟩ := hfront
      exact ⟨[], part', after', by rw [List.cons_append, heq]; exact isFirst_front hpart'⟩
    · obtain ⟨before', part', after', hfirst⟩ := ih rfl
      exact ⟨c :: before', part', after', (isFirst_cons_iff hfront).2 ⟨before', rfl, hfirst⟩⟩

end First

theorem untilClosing?_eq_some_iff (text gathered inner : List Char) :
    untilClosing? gathered text = some inner ↔ ∃ before closing rest,
      inner = gathered.reverse ++ before ∧ IsFirst IsClosing text before closing rest := by
  induction text generalizing gathered with
  | nil =>
    simp only [untilClosing?, reduceCtorEq, false_iff]
    rintro ⟨before, closing, rest, -, hfirst⟩
    have hparts := hfirst.text_eq
    cases hfirst.form_part
    simp at hparts
  | cons c text ih =>
    rw [untilClosing?]
    by_cases hclose : closes (c :: text)
    · obtain ⟨closing, rest, hclosing, htext⟩ := (closes_iff _).1 hclose
      rw [if_pos hclose, Option.some_inj]
      constructor
      · rintro rfl
        exact ⟨[], closing, rest, by simp, htext ▸ isFirst_front hclosing⟩
      · rintro ⟨before, closing', rest', rfl, hfirst⟩
        rw [hfirst.eq_nil hclosing htext, List.append_nil]
    · rw [if_neg hclose, ih]
      have hnone : ¬ ∃ closing rest, IsClosing closing ∧ c :: text = closing ++ rest :=
        fun hfront => hclose ((closes_iff _).2 hfront)
      simp only [isFirst_cons_iff hnone]
      constructor
      · rintro ⟨before, closing, rest, rfl, hfirst⟩
        exact ⟨c :: before, closing, rest, by simp, before, rfl, hfirst⟩
      · rintro ⟨_, closing, rest, rfl, before, rfl, hfirst⟩
        exact ⟨before, closing, rest, by simp, hfirst⟩

theorem IsOpening.eq_concat {opening : List Char} (h : IsOpening opening) :
    ∃ front, opening = front ++ ['>'] ∧ '>' ∉ front := by
  cases h with
  | bare => exact ⟨_, rfl, by decide⟩
  | @attributed blank attributes hblank hattributes =>
    refine ⟨"<summary".toList ++ blank :: attributes, by simp, ?_⟩
    have hmark : '>' ∉ "<summary".toList := by decide
    simp only [List.mem_append, List.mem_cons, not_or]
    exact ⟨hmark, (ne_bracket_of_isBlank hblank).symm, hattributes⟩

theorem IsOpening.suffix {opening opening' after before' after' : List Char}
    (h : IsOpening opening) (h' : IsOpening opening')
    (htext : opening ++ after = before' ++ (opening' ++ after')) : after' <:+ after := by
  -- the earlier tag ends at the first bracket, the later one at some bracket
  obtain ⟨front, rfl, hfront⟩ := h.eq_concat
  obtain ⟨front', rfl, -⟩ := h'.eq_concat
  have hbrackets : front ++ '>' :: after = (before' ++ front') ++ '>' :: after' := by
    simpa using htext
  rcases List.append_eq_append_iff.1 hbrackets with ⟨more, -, hmore⟩ | ⟨more, hmore, hafter⟩
  · cases more with
    | nil => exact (List.cons.inj hmore).2 ▸ List.suffix_refl _
    | cons d more =>
      obtain ⟨-, rfl⟩ := List.cons.inj hmore
      exact ⟨more ++ ['>'], by simp⟩
  · cases more with
    | nil => exact (List.cons.inj hafter).2 ▸ List.suffix_refl _
    | cons d more =>
      obtain ⟨rfl, -⟩ := List.cons.inj hafter
      exact absurd (by simp [hmore]) hfront

theorem isElement_cons_iff {c : Char} {text : List Char}
    (h : ¬ ∃ opening after, IsOpening opening ∧ c :: text = opening ++ after) (inner : List Char) :
    IsElement (c :: text) inner ↔ IsElement text inner := by
  simp only [IsElement, isFirst_cons_iff h]
  constructor
  · rintro ⟨_, opening, after, closing, rest, ⟨before, rfl, hfirst⟩, hclosing⟩
    exact ⟨before, opening, after, closing, rest, hfirst, hclosing⟩
  · rintro ⟨before, opening, after, closing, rest, hfirst, hclosing⟩
    exact ⟨c :: before, opening, after, closing, rest, ⟨before, rfl, hfirst⟩, hclosing⟩

theorem isElement_opening_iff {opening after : List Char} (h : IsOpening opening)
    (inner : List Char) :
    IsElement (opening ++ after) inner ↔ untilClosing? [] after = some inner := by
  rw [untilClosing?_eq_some_iff]
  constructor
  · rintro ⟨before, opening', after', closing, rest, hfirst, hclosing⟩
    have hfront := hfirst.text_eq
    rw [hfirst.eq_nil h rfl, List.nil_append] at hfront
    have hafter := (afterOpening?_eq_some_iff _ after).2 ⟨opening, h, rfl⟩
    rw [(afterOpening?_eq_some_iff _ after').2 ⟨opening', hfirst.form_part, hfront⟩,
      Option.some_inj] at hafter
    exact ⟨inner, closing, rest, rfl, hafter ▸ hclosing⟩
  · rintro ⟨_, closing, rest, rfl, hclosing⟩
    exact ⟨[], opening, after, closing, rest, isFirst_front h, hclosing⟩

theorem not_isElement_of_unclosed {c : Char} {text opening after inner : List Char}
    (h : IsOpening opening) (htext : c :: text = opening ++ after)
    (hnone : untilClosing? [] after = none) : ¬ IsElement text inner := by
  rintro ⟨before, opening', after', closing, rest, hfirst, hclosing⟩
  have hlater : opening ++ after = (c :: before) ++ (opening' ++ after') := by
    rw [← htext, hfirst.text_eq]
    rfl
  -- what closes the later element stands behind this tag, too
  obtain ⟨front, rfl⟩ := h.suffix hfirst.form_part hlater
  have hinner : front ++ after' = (front ++ inner) ++ (closing ++ rest) := by
    rw [hclosing.text_eq, List.append_assoc]
  obtain ⟨before', closing', rest', hclosed⟩ := exists_isFirst hclosing.form_part hinner
  rw [(untilClosing?_eq_some_iff _ [] _).2 ⟨before', closing', rest', rfl, hclosed⟩] at hnone
  cases hnone

theorem findElement?_eq_some_iff (text inner : List Char) :
    findElement? text = some inner ↔ IsElement text inner := by
  induction text with
  | nil =>
    simp only [findElement?, reduceCtorEq, false_iff]
    rintro ⟨before, opening, after, closing, rest, hfirst, -⟩
    have hparts := hfirst.text_eq
    cases hfirst.form_part <;> simp at hparts
  | cons c text ih =>
    rw [findElement?]
    cases hopen : afterOpening? (c :: text) with
    | none =>
      have hnone : ¬ ∃ opening after, IsOpening opening ∧ c :: text = opening ++ after := by
        rintro ⟨opening, after, hfront⟩
        rw [(afterOpening?_eq_some_iff _ after).2 ⟨opening, hfront⟩] at hopen
        cases hopen
      rw [isElement_cons_iff hnone]
      exact ih
    | some after =>
      obtain ⟨opening, hopening, htext⟩ := (afterOpening?_eq_some_iff _ after).1 hopen
      rw [htext, isElement_opening_iff hopening, Option.bind_some]
      cases hclose : untilClosing? [] after with
      | some found => rfl
      | none => simp [ih, not_isElement_of_unclosed hopening htext hclose]

/-! ## Documentation lines -/

theorem isWithoutStar_iff (line left : List Char) :
    IsWithoutStar line left ↔ dropStar line = left := by
  have hstar := @dropWhile_eq_cons_iff Text.isBlank '*' (by decide) line
  constructor
  · intro h
    cases h with
    | @star blanks rest hblanks hrest =>
      rw [dropStar, (hstar left).2 ⟨blanks, hblanks, rfl⟩]
      cases left with
      | nil => rfl
      | cons c left =>
        have hc : c ≠ '/' := fun heq => hrest (congrArg some heq)
        simp [hc]
    | plain h =>
      unfold dropStar
      split
      · rfl
      · rename_i rest hne hdrop
        obtain ⟨blanks, hblanks, hline⟩ := (hstar rest).1 hdrop
        obtain ⟨after, hafter⟩ := List.head?_eq_some_iff.1 (h blanks rest hblanks hline)
        exact absurd hafter (hne after)
      · rfl
  · rintro rfl
    unfold dropStar
    split
    · rename_i after hdrop
      refine .plain fun blanks rest hblanks hline => ?_
      have hrest := (hstar rest).2 ⟨blanks, hblanks, hline⟩
      rw [hdrop] at hrest
      rw [← (List.cons.inj hrest).2]
      rfl
    · rename_i rest hne hdrop
      obtain ⟨blanks, hblanks, hline⟩ := (hstar rest).1 hdrop
      have hrest : rest.head? ≠ some '/' := fun hhead => by
        obtain ⟨after, hafter⟩ := List.head?_eq_some_iff.1 hhead
        exact hne after hafter
      exact hline ▸ .star hblanks hrest
    · rename_i _ hne
      exact .plain fun blanks rest hblanks hline =>
        absurd ((hstar rest).2 ⟨blanks, hblanks, hline⟩) (hne rest)

theorem forall₂_iff_map {α β : Type} {R : α → β → Prop} {f : α → β} (h : ∀ a b, R a b ↔ f a = b)
    (as : List α) (bs : List β) : List.Forall₂ R as bs ↔ as.map f = bs := by
  have hR : R = fun a b => f a = b := funext₂ fun a b => propext (h a b)
  rw [hR, ← List.forall₂_map_left_iff, List.forall₂_eq_eq_eq]

theorem isLine_iff (comment : List Char) :
    (startsWith "///" comment && !startsWith "////" comment) = true ↔
      ∃ text, comment = "///".toList ++ text ∧ text.head? ≠ some '/' := by
  rw [Bool.and_eq_true, startsWith_iff, Bool.not_eq_true', ← Bool.not_eq_true, startsWith_iff]
  constructor
  · rintro ⟨⟨text, rfl⟩, hfour⟩
    refine ⟨text, rfl, fun hhead => ?_⟩
    obtain ⟨rest, rfl⟩ := List.head?_eq_some_iff.1 hhead
    exact hfour ⟨rest, rfl⟩
  · rintro ⟨text, rfl, hhead⟩
    refine ⟨⟨text, rfl⟩, ?_⟩
    rintro ⟨rest, hrest⟩
    have hslash : "///".toList ++ text = "///".toList ++ '/' :: rest := hrest
    exact hhead (by rw [List.append_cancel_left hslash]; rfl)

theorem isBlock_iff (comment : List Char) :
    (startsWith "/**" comment && comment != "/**/".toList) = true ↔
      "/**".toList <+: comment ∧ comment ≠ "/**/".toList := by
  rw [Bool.and_eq_true, startsWith, List.isPrefixOf_iff_prefix, bne_iff_ne]

theorem docLines_of_block {rest : List Char} (h : "/**".toList ++ rest ≠ "/**/".toList) :
    docLines ("/**".toList ++ rest) =
      (Text.splitLines (blockBody ("/**".toList ++ rest))).map dropStar := by
  have hline : ¬ (startsWith "///" ("/**".toList ++ rest) &&
      !startsWith "////" ("/**".toList ++ rest)) = true := by
    rw [isLine_iff]
    rintro ⟨text, htext, -⟩
    simp at htext
  rw [docLines, if_neg hline, if_pos ((isBlock_iff _).2 ⟨List.prefix_append _ _, h⟩)]

theorem blockBody_closed (body : List Char) :
    blockBody ("/**".toList ++ (body ++ "*/".toList)) = body := by
  have hend : endsWith "*/" ("/**".toList ++ (body ++ "*/".toList)) := by
    rw [endsWith, List.isSuffixOf_iff_suffix, ← List.append_assoc]
    exact List.suffix_append _ _
  rw [blockBody, if_pos hend, List.drop_left' (by rfl)]
  exact List.take_left' (by simp)

theorem blockBody_unclosed {body : List Char} (h : ¬ "*/".toList <:+ "/**".toList ++ body) :
    blockBody ("/**".toList ++ body) = body := by
  rw [blockBody, if_neg (by rwa [endsWith, List.isSuffixOf_iff_suffix]), List.drop_left' (by rfl)]

theorem exists_body {rest : List Char} (hend : "*/".toList <:+ "/**".toList ++ rest)
    (hne : "/**".toList ++ rest ≠ "/**/".toList) : ∃ body, rest = body ++ "*/".toList := by
  -- only the star of the opening could be shared with the end, and then the block is `/**/`
  have hlength : 2 ≤ rest.length := by
    match rest with
    | [] => exact absurd hend (by decide)
    | [c] =>
      obtain ⟨front, hfront⟩ := hend
      have hc := congrArg List.getLast? hfront
      obtain rfl : c = '/' := by simpa using hc.symm
      exact absurd rfl hne
    | _ :: _ :: _ => simp
  obtain ⟨body, hbody⟩ := List.suffix_of_suffix_length_le hend (List.suffix_append _ rest) hlength
  exact ⟨body, hbody.symm⟩

theorem HasDocLines.docLines_eq {comment : List Char} {lines : List (List Char)}
    (h : HasDocLines comment lines) : docLines comment = lines := by
  cases h with
  | @line text h =>
    rw [docLines, if_pos ((isLine_iff _).2 ⟨text, rfl, h⟩), List.drop_left' (by rfl)]
  | @closed body _ h =>
    rw [docLines_of_block, blockBody_closed]
    · exact (forall₂_iff_map isWithoutStar_iff _ _).1 h
    · intro heq
      have hlength := congrArg List.length heq
      simp at hlength
  | @unclosed body _ hopen h =>
    rw [docLines_of_block, blockBody_unclosed hopen]
    · exact (forall₂_iff_map isWithoutStar_iff _ _).1 h
    · intro heq
      rw [heq] at hopen
      exact hopen (by decide)
  | other hline hblock =>
    rw [docLines, if_neg, if_neg]
    · rw [isBlock_iff]
      exact fun hb => hb.2 (hblock hb.1)
    · rw [isLine_iff]
      rintro ⟨text, htext, hhead⟩
      exact hhead (hline text htext)

theorem hasDocLines_docLines (comment : List Char) : HasDocLines comment (docLines comment) := by
  by_cases hline : ∃ text, comment = "///".toList ++ text ∧ text.head? ≠ some '/'
  · obtain ⟨text, rfl, hhead⟩ := hline
    rw [docLines, if_pos ((isLine_iff _).2 ⟨text, rfl, hhead⟩), List.drop_left' (by rfl)]
    exact .line hhead
  by_cases hblock : "/**".toList <+: comment ∧ comment ≠ "/**/".toList
  · obtain ⟨⟨rest, rfl⟩, hne⟩ := hblock
    rw [docLines_of_block hne]
    by_cases hend : "*/".toList <:+ "/**".toList ++ rest
    · obtain ⟨body, rfl⟩ := exists_body hend hne
      rw [blockBody_closed]
      exact .closed ((forall₂_iff_map isWithoutStar_iff _ _).2 rfl)
    · rw [blockBody_unclosed hend]
      exact .unclosed hend ((forall₂_iff_map isWithoutStar_iff _ _).2 rfl)
  · rw [docLines, if_neg (by rwa [isLine_iff]), if_neg (by rwa [isBlock_iff])]
    refine .other (fun text htext => ?_) fun hb => by_contra fun hne => hblock ⟨hb, hne⟩
    exact by_contra fun hhead => hline ⟨text, htext, hhead⟩

theorem hasDocLines_iff (comment : List Char) (lines : List (List Char)) :
    HasDocLines comment lines ↔ docLines comment = lines :=
  ⟨HasDocLines.docLines_eq, fun h => h ▸ hasDocLines_docLines comment⟩

theorem isDocumentationOf_iff (comments : List String) (text : List Char) :
    IsDocumentationOf comments text ↔ text = documentation comments := by
  simp only [IsDocumentationOf, forall₂_iff_map hasDocLines_iff, exists_eq_left', List.map_map]
  rw [documentation, List.flatMap]
  rfl

/-- The summary is the text between the first opening tag of the documentation and the first closing
tag behind it, and there is none without these tags. -/
theorem summary_is_first_element (comments : List String) :
    ∃ text, (∀ other, IsDocumentationOf comments other ↔ other = text) ∧
      ∀ inner : String, summary? comments = some inner ↔ IsElement text inner.toList := by
  refine ⟨documentation comments, isDocumentationOf_iff comments, fun inner => ?_⟩
  rw [← findElement?_eq_some_iff, summary?, Option.map_eq_some_iff]
  constructor
  · rintro ⟨found, hfound, rfl⟩
    rw [hfound, String.toList_ofList]
  · intro h
    exact ⟨inner.toList, h, String.ofList_toList⟩

example : summary? ["/// <summary kind='<summary>'>a", "// b", "/** * c</summary >*/"] =
    some "'>a\n c" := by
  decide +kernel

end Outline.Doc
