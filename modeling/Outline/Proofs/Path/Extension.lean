import Mathlib.Data.List.DropRight
import Outline.Proofs.Path.Steps
import Outline.Proofs.Text.Lowercase

set_option autoImplicit false

/-!
# The names of source files

A source file is told by its extension, in upper or lower case. The extension goes from the last dot
of the name to its end, and dots at the front of a name begin none. Lower case is that of all of
Unicode, where a few letters beyond ASCII become ASCII letters; none of them becomes part of the
extension.
-/
namespace Outline.Path

theorem getLastD_cut (s : List Char) : (cut s).getLastD [] = s.rtakeWhile (· != '/') := by
  have hsplit : s.rdropWhile (· != '/') ++ s.rtakeWhile (· != '/') = s :=
    List.rdropWhile_append_rtakeWhile
  have hname : '/' ∉ s.rtakeWhile (· != '/') := fun hm => by
    simpa using List.mem_rtakeWhile_imp hm
  by_cases hnil : s.rdropWhile (· != '/') = []
  · rw [hnil, List.nil_append] at hsplit
    rw [hsplit] at hname
    rw [hsplit, cut_of_not_mem hname]
    rfl
  · have hslash : (s.rdropWhile (· != '/')).getLast hnil = '/' := by
      simpa using List.rdropWhile_last_not _ _ hnil
    have hfront := List.dropLast_append_getLast hnil
    rw [hslash] at hfront
    have hs : cut s = cut (s.rdropWhile (· != '/')).dropLast ++ [s.rtakeWhile (· != '/')] := by
      rw [← cut_of_not_mem hname, ← cut_append_slash, ← List.singleton_append,
        ← List.append_assoc, hfront, hsplit]
    rw [hs, List.getLastD_concat]

/-- What stands behind the last slash of a path. -/
def nameAtEnd (path : String) : List Char := path.toList.rtakeWhile (· != '/')

theorem extension_eq (path : String) {name back : List Char}
    (hname : (nameAtEnd path).dropWhile (· == '.') = name)
    (hback : name.reverse.takeWhile (· != '.') = back) :
    extension path =
      if back.length = name.length then "" else String.ofList ('.' :: back.reverse) := by
  subst hname hback
  rw [extension, getLastD_cut]
  rfl

theorem extension_of_append {path : String} {stem ext : List Char}
    (hpath : nameAtEnd path = stem ++ '.' :: ext) (hstem : ∃ d ∈ stem, d ≠ '.')
    (hext : '.' ∉ ext) : extension path = String.ofList ('.' :: ext) := by
  have hne : stem.dropWhile (· == '.') ≠ [] := by
    rw [ne_eq, List.dropWhile_eq_nil_iff]
    obtain ⟨d, hd, hdot⟩ := hstem
    exact fun hall => hdot (by simpa using hall d hd)
  have hname : (nameAtEnd path).dropWhile (· == '.') =
      stem.dropWhile (· == '.') ++ '.' :: ext := by
    rw [hpath, List.dropWhile_append, if_neg (by simpa using hne)]
  have hback : (stem.dropWhile (· == '.') ++ '.' :: ext).reverse.takeWhile (· != '.') =
      ext.reverse := by
    rw [List.reverse_append, List.reverse_cons, List.append_assoc,
      List.takeWhile_append_of_pos (by simpa using fun c hc => ne_of_mem_of_not_mem hc hext)]
    simp
  rw [extension_eq path hname hback, if_neg (by simp; omega), List.reverse_reverse]

theorem exists_stem_of_extension {path : String} (h : extension path ≠ "") :
    ∃ stem ext, nameAtEnd path = stem ++ '.' :: ext ∧ (∃ d ∈ stem, d ≠ '.') ∧
      extension path = String.ofList ('.' :: ext) := by
  obtain ⟨name, hname⟩ : ∃ name, (nameAtEnd path).dropWhile (· == '.') = name := ⟨_, rfl⟩
  obtain ⟨back, hback⟩ : ∃ back, name.reverse.takeWhile (· != '.') = back := ⟨_, rfl⟩
  have hextension := extension_eq path hname hback
  have hlength : back.length ≠ name.length := by
    intro hsame
    rw [if_pos hsame] at hextension
    exact h hextension
  rw [if_neg hlength] at hextension
  have hsplit : back ++ name.reverse.dropWhile (· != '.') = name.reverse := by
    rw [← hback, List.takeWhile_append_dropWhile]
  cases hdrop : name.reverse.dropWhile (· != '.') with
  | nil =>
    rw [hdrop, List.append_nil] at hsplit
    rw [hsplit, List.length_reverse] at hlength
    exact absurd rfl hlength
  | cons dot front =>
    obtain rfl : dot = '.' := by
      have hhead := List.head?_dropWhile_not (· != '.') name.reverse
      rw [hdrop] at hhead
      simpa using hhead
    have hwhole : name = front.reverse ++ '.' :: back.reverse := by
      rw [hdrop] at hsplit
      rw [← List.reverse_reverse name, ← hsplit]
      simp
    -- without the dots at its front the name begins with another character
    have hfirst := List.head?_dropWhile_not (· == '.') (nameAtEnd path)
    rw [hname, hwhole] at hfirst
    cases hstem : front.reverse with
    | nil => simp [hstem] at hfirst
    | cons d stem =>
      rw [hstem] at hfirst hwhole
      refine ⟨(nameAtEnd path).takeWhile (· == '.') ++ d :: stem, back.reverse, ?_,
        ⟨d, by simp, by simpa using hfirst⟩, hextension⟩
      rw [List.append_assoc, ← hwhole, ← hname, List.takeWhile_append_dropWhile]

/-- The name of a source file: something other than dots, and the extension in either case. -/
def IsSourceName (name : List Char) : Prop :=
  ∃ stem c s, name = stem ++ ['.', c, s] ∧ (∃ d ∈ stem, d ≠ '.') ∧ (c = 'c' ∨ c = 'C') ∧
    (s = 's' ∨ s = 'S')

theorem map_toLower_eq_iff (chars : List Char) :
    chars.map Char.toLower = ['.', 'c', 's'] ↔
      ∃ c s, chars = ['.', c, s] ∧ (c = 'c' ∨ c = 'C') ∧ (s = 's' ∨ s = 'S') := by
  have hc (c : Char) : c.toLower = 'c' ↔ c = 'c' ∨ c = 'C' :=
    Text.toLower_eq_iff_of_upper (by decide) (by decide)
  have hs (s : Char) : s.toLower = 's' ↔ s = 's' ∨ s = 'S' :=
    Text.toLower_eq_iff_of_upper (by decide) (by decide)
  have hdot (d : Char) : d.toLower = '.' ↔ d = '.' := Text.toLower_eq_iff_of_lt (by decide)
  simp only [List.map_eq_cons_iff, List.map_eq_nil_iff, hc, hs, hdot]
  constructor
  · rintro ⟨_, _, rfl, rfl, c, _, rfl, hc, s, _, rfl, hs, rfl⟩
    exact ⟨c, s, rfl, hc, hs⟩
  · rintro ⟨c, s, rfl, hc, hs⟩
    exact ⟨_, _, rfl, rfl, c, _, rfl, hc, s, _, rfl, hs, rfl⟩

/-- A path is that of a source file exactly if what stands behind its last slash ends in the
extension, in letters of either case, and something other than dots stands in front of it. -/
theorem source_files_told_by_name (path : String) :
    isSource path = true ↔ IsSourceName (nameAtEnd path) := by
  have hown : ∀ d ∈ ".cs".toList, Text.OnlyFromAscii d := by simp [Text.OnlyFromAscii]
  have hlower : isSource path = true ↔
      (extension path).toList.map Char.toLower = ['.', 'c', 's'] := by
    rw [isSource, beq_iff_eq, Text.lower_eq_iff hown, ← String.toList_inj, Text.asciiLower,
      String.toList_ofList]
    rfl
  rw [hlower, map_toLower_eq_iff]
  constructor
  · rintro ⟨c, s, hext, hc, hs⟩
    have hne : extension path ≠ "" := by
      intro hnil
      rw [hnil] at hext
      cases hext
    obtain ⟨stem, ext, hpath, hstem, hext'⟩ := exists_stem_of_extension hne
    rw [hext', String.toList_ofList] at hext
    obtain rfl : ext = [c, s] := (List.cons.inj hext).2
    exact ⟨stem, c, s, hpath, hstem, hc, hs⟩
  · rintro ⟨stem, c, s, hpath, hstem, hc, hs⟩
    have hdots : '.' ∉ [c, s] := by
      rcases hc with rfl | rfl <;> rcases hs with rfl | rfl <;> decide
    refine ⟨c, s, ?_, hc, hs⟩
    rw [extension_of_append hpath hstem hdots, String.toList_ofList]

/-- Nothing but dots in front of the extension, an extension of a folder, and letters that only look
like those of the extension do not count. -/
example : ["a.cs", "x/..a.Cs", ".cs", "..cs", "a/.cs", "a.cs/b", "a.c\u017F",
    "a.\u0441s"].map isSource = [true, true, false, false, false, false, false, false] := by
  decide +kernel

end Outline.Path
