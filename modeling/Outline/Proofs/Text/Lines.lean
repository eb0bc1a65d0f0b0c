import Mathlib.Tactic.SplitIfs

set_option autoImplicit false

/-!
# The lines of a text

A text is cut at its line feeds, and texts with line feeds between them have all their lines in
order.
-/
namespace Outline.Text

/-- The lines of a text; there is always at least one. -/
def lines (text : String) : List String := (text.toList.splitOn '\n').map String.ofList

/-- The lines of a text that is left out if it is empty. -/
def givenLines (text : String) : List String := if text.isEmpty then [] else lines text

theorem lines_append (a b : String) : lines (a ++ "\n" ++ b) = lines a ++ lines b := by
  have htext : (a ++ "\n" ++ b).toList = a.toList ++ '\n' :: b.toList := by simp
  have hsplit := List.splitOnP_append_cons (p := (· == '\n')) a.toList b.toList
    (beq_self_eq_true '\n')
  rw [lines, htext, List.splitOn, hsplit, List.map_append]
  rfl

theorem lines_of_not_mem {text : String} (h : '\n' ∉ text.toList) : lines text = [text] := by
  have hsplit : (['\n'].intercalate [text.toList]).splitOn '\n' = [text.toList] :=
    List.splitOn_intercalate '\n' (by simpa using h) (by simp)
  rw [List.intercalate_singleton] at hsplit
  rw [lines, hsplit]
  simp

theorem lines_concat_newline (text : String) : lines (text ++ "\n") = lines text ++ [""] := by
  have h := lines_append text ""
  rwa [String.append_empty] at h

/-- Texts with line feeds between them have all their lines, one text after the other. -/
theorem lines_intercalate {texts : List String} (h : texts ≠ []) :
    lines ("\n".intercalate texts) = texts.flatMap lines := by
  induction texts with
  | nil => exact absurd rfl h
  | cons first rest ih =>
    cases rest with
    | nil => simp
    | cons next rest =>
      rw [String.intercalate_cons_cons, lines_append, ih (by simp)]
      rfl

theorem intercalate_lines (text : String) : "\n".intercalate (lines text) = text := by
  apply String.toList_injective
  rw [String.toList_intercalate, lines, List.map_map]
  simp [Function.comp_def]

theorem intercalate_givenLines (text : String) : "\n".intercalate (givenLines text) = text := by
  unfold givenLines
  split_ifs with h
  · rw [String.isEmpty_iff.1 h]
    rfl
  · exact intercalate_lines text

theorem flatMap_lines_given (text : String) :
    (if text.isEmpty then [] else [text]).flatMap lines = givenLines text := by
  unfold givenLines
  split_ifs <;> simp

end Outline.Text
