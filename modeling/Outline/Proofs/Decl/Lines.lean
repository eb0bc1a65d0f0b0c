import Mathlib.Algebra.BigOperators.Group.List.Basic
import Mathlib.Algebra.Ring.Nat
import Outline.Decl.Listing
import Outline.Proofs.Text.Lines
import Outline.Source.Tree

set_option autoImplicit false

/-!
# The lines of a listing

Summaries and parameters are put on one line, but the texts of types are shown as written. So a
listing has one line for each declaration, and one more for each line feed in a type that it shows.
-/
namespace Outline

/-! ## Line feeds -/

namespace Text

def breaks (text : String) : ℕ := text.toList.count '\n'

theorem breaks_append (a b : String) : breaks (a ++ b) = breaks a + breaks b := by
  simp [breaks]

theorem breaks_eq_zero_iff {text : String} : breaks text = 0 ↔ '\n' ∉ text.toList :=
  List.count_eq_zero

theorem breaks_intercalate {separator : String} (h : breaks separator = 0) (texts : List String) :
    breaks (separator.intercalate texts) = (texts.map breaks).sum := by
  induction texts with
  | nil => rfl
  | cons first rest ih =>
    cases rest with
    | nil => simp
    | cons next rest =>
      rw [String.intercalate_cons_cons, breaks_append, breaks_append, ih, h]
      simp

theorem length_lines (text : String) : (lines text).length = breaks text + 1 := by
  rw [lines, List.length_map, breaks]
  induction text.toList with
  | nil => rfl
  | cons c rest ih =>
    rw [List.splitOn] at ih ⊢
    by_cases hc : c = '\n'
    · subst hc
      simp [List.splitOnP_cons_eq_if_modifyHead, ih]
    · simp [List.splitOnP_cons_eq_if_modifyHead, hc, ih]

end Text

/-! ## Texts that are put on one line -/

theorem SyntaxTree.not_breaksLine_of_mem_foldBreaksFrom {chars result held : List Char}
    {inBreak : Bool} (h : ∀ c ∈ held ++ result, breaksLine c = false) :
    ∀ c ∈ foldBreaksFrom result held inBreak chars, breaksLine c = false := by
  induction chars generalizing result held inBreak with
  | nil => simpa [foldBreaksFrom, or_comm] using h
  | cons d rest ih =>
    have hheld : ∀ c ∈ held, breaksLine c = false := fun c hc => h c (by simp [hc])
    have hresult : ∀ c ∈ result, breaksLine c = false := fun c hc => h c (by simp [hc])
    rw [foldBreaksFrom]
    split_ifs with hblank hbreak hspace
    · exact ih (by simpa using hresult)
    · exact ih (by simpa [breaksLine] using hresult)
    · refine ih ?_
      rw [List.cons_append, List.forall_mem_cons]
      exact ⟨by simpa using hbreak, h⟩
    · refine ih ?_
      rw [List.nil_append, List.cons_append, List.forall_mem_cons]
      exact ⟨by simpa using hbreak, h⟩

theorem SyntaxTree.breaks_foldBreaks (text : String) : Text.breaks (foldBreaks text) = 0 := by
  rw [Text.breaks_eq_zero_iff, foldBreaks, String.toList_ofList]
  intro hmem
  have hno := not_breaksLine_of_mem_foldBreaksFrom (List.forall_mem_nil _) _ hmem
  cases hno

theorem SyntaxTree.breaks_of_mem_parameters {source : Source} {n : Node} {text : String}
    (h : text ∈ parameters source n) : Text.breaks text = 0 := by
  unfold parameters at h
  split at h
  · obtain ⟨group, -, hgroup⟩ := List.mem_filterMap.1 h
    cases group with
    | nil => cases hgroup
    | cons first rest =>
      rw [← Option.some.inj hgroup]
      exact breaks_foldBreaks _
  · cases h

namespace Listing

theorem mem_collapseFrom {c : Char} {chars result : List Char} {inRun : Bool}
    (h : c ∈ collapseFrom inRun result chars) :
    c ∈ result ∨ c = ' ' ∨ Text.isBlank c = false := by
  induction chars generalizing result inRun with
  | nil => exact .inl (List.mem_reverse.1 h)
  | cons d rest ih =>
    rw [collapseFrom] at h
    split_ifs at h with hblank hrun
    · exact ih h
    · have := ih h
      rw [List.mem_cons] at this
      tauto
    · have := ih h
      rw [List.mem_cons] at this
      rcases this with (rfl | hc) | hc
      · exact .inr (.inr (by simpa using hblank))
      · exact .inl hc
      · exact .inr hc

theorem not_isLineBreak_of_mem_normalize {summary : Option String} {c : Char}
    (h : c ∈ (normalize summary).toList) : Text.isLineBreak c = false := by
  cases summary with
  | none => cases h
  | some text =>
    rw [normalize, String.toList_ofList, Text.trimBlank, List.mem_reverse] at h
    have hcollapse : c ∈ collapse text.toList :=
      (List.dropWhile_suffix _).mem (List.mem_reverse.1 ((List.dropWhile_suffix _).mem h))
    rcases mem_collapseFrom hcollapse with hc | rfl | hc
    · cases hc
    · decide
    · cases hbreak : Text.isLineBreak c with
      | false => rfl
      | true =>
        rw [Text.isBlank_of_isLineBreak hbreak] at hc
        cases hc

theorem breaks_normalize (summary : Option String) : Text.breaks (normalize summary) = 0 := by
  rw [Text.breaks_eq_zero_iff]
  intro hmem
  have hno := not_isLineBreak_of_mem_normalize hmem
  cases hno

theorem breaks_annotate (line : String) (summary : Option String) :
    Text.breaks (annotate line summary) = Text.breaks line := by
  unfold annotate
  simp only
  split_ifs
  · rfl
  · rw [Text.breaks_append, Text.breaks_append, breaks_normalize]
    rfl

theorem breaks_join (parts : List String) :
    Text.breaks (join parts) = (parts.map Text.breaks).sum := by
  rw [join, Text.breaks_intercalate (by decide)]
  induction parts with
  | nil => rfl
  | cons part rest ih =>
    by_cases hempty : part.isEmpty
    · rw [String.isEmpty_iff.1 hempty]
      simpa [Text.breaks] using ih
    · simp [hempty, ih]

theorem breaks_indent (line : String) : Text.breaks (indent ++ line) = Text.breaks line := by
  have hindent : Text.breaks indent = 0 := by decide
  rw [Text.breaks_append, hindent, zero_add]

end Listing

/-! ## What a listing shows -/

namespace Member

/-- The modifiers and the declared names of a member, each a single token of its source. -/
def tokens : Member → List String
  | constructor s | method s _ => s.name :: s.modifiers
  | field modifiers _ names _ => names ++ modifiers
  | property modifiers _ name _ => name :: modifiers

def parameters : Member → List String
  | constructor s | method s _ => s.parameters
  | field .. | property .. => []

/-- How many lines a member is meant to have. -/
def lineCount (detail : Listing.Detail) : Member → ℕ
  | constructor _ | method .. => 1
  | field _ _ names _ => if detail = .detailed then names.length else 0
  | property .. => if detail = .detailed then 1 else 0

/-- The texts of types that a listing shows for a member, once for each line. -/
def shownTypes (detail : Listing.Detail) : Member → List String
  | constructor _ => []
  | method _ returnType => [returnType]
  | field _ type names _ => if detail = .detailed then names.map fun _ => type else []
  | property _ type _ _ => if detail = .detailed then [type] else []

end Member

namespace SourceOutline

def tokens (o : SourceOutline) : List String :=
  o.types.flatMap fun t => t.name :: t.modifiers ++ t.members.flatMap Member.tokens

/-- How many lines a listing is meant to have: one for each type, constructor and method and, in
the detailed form, one for each property and each name that a field binds. -/
def lineCount (detail : Listing.Detail) (o : SourceOutline) : ℕ :=
  (o.types.map fun t => 1 + (t.members.map (Member.lineCount detail)).sum).sum

def shownTypes (detail : Listing.Detail) (o : SourceOutline) : List String :=
  o.types.flatMap fun t => t.members.flatMap (Member.shownTypes detail)

end SourceOutline

namespace Listing

variable {detail : Detail}

theorem sum_breaks_eq_zero {texts : List String} (h : ∀ text ∈ texts, Text.breaks text = 0) :
    (texts.map Text.breaks).sum = 0 :=
  List.sum_eq_zero (by simpa using h)

theorem breaks_header {t : TypeDecl} (hkind : Text.breaks (Text.lower t.kind) = 0)
    (h : ∀ token ∈ t.name :: t.modifiers, Text.breaks token = 0) :
    Text.breaks (header t) = 0 := by
  rw [List.forall_mem_cons] at h
  rw [header, breaks_annotate, breaks_join, List.map_append, List.sum_append,
    sum_breaks_eq_zero h.2]
  simp [hkind, h.1]

theorem breaks_signature {s : Signature}
    (h : ∀ token ∈ s.name :: s.modifiers, Text.breaks token = 0)
    (hparameters : ∀ text ∈ s.parameters, Text.breaks text = 0) (returnType : String) :
    Text.breaks (signature s returnType) = Text.breaks returnType := by
  have hlist : Text.breaks (", ".intercalate s.parameters) = 0 := by
    rw [Text.breaks_intercalate (by decide)]
    exact sum_breaks_eq_zero hparameters
  have hbrackets : Text.breaks "(" = 0 ∧ Text.breaks ");" = 0 := by decide
  rw [List.forall_mem_cons] at h
  rw [signature, breaks_annotate, breaks_join, List.map_append, List.sum_append,
    sum_breaks_eq_zero h.2]
  simp [Text.breaks_append, hlist, hbrackets, h.1]

theorem sum_breaks_memberEntries {m : Member} (h : ∀ token ∈ m.tokens, Text.breaks token = 0)
    (hparameters : ∀ text ∈ m.parameters, Text.breaks text = 0) :
    ((memberEntries detail m).map Text.breaks).sum =
      ((m.shownTypes detail).map Text.breaks).sum := by
  cases m with
  | constructor s =>
    have hempty : Text.breaks "" = 0 := rfl
    simp [memberEntries, Member.shownTypes, breaks_signature h hparameters, hempty]
  | method s returnType =>
    simp [memberEntries, Member.shownTypes, breaks_signature h hparameters]
  | field modifiers type names summary =>
    cases detail with
    | structural => rfl
    | detailed =>
      rw [Member.tokens, List.forall_mem_append] at h
      have hline : ∀ name ∈ names, Text.breaks (join (modifiers ++ [type, name ++ ";"])) =
          Text.breaks type := by
        intro name hname
        have hend : Text.breaks ";" = 0 := by decide
        rw [breaks_join, List.map_append, List.sum_append, sum_breaks_eq_zero h.2]
        simp [Text.breaks_append, h.1 name hname, hend]
      rw [memberEntries, Member.shownTypes, if_pos rfl, List.map_map, List.map_map]
      exact congrArg List.sum (List.map_congr_left hline)
  | property modifiers type name summary =>
    cases detail with
    | structural => rfl
    | detailed =>
      have hend : Text.breaks accessors = 0 := by decide
      rw [Member.tokens, List.forall_mem_cons] at h
      rw [memberEntries, Member.shownTypes, if_pos rfl, List.map_singleton, breaks_annotate,
        breaks_join, List.map_append, List.sum_append, sum_breaks_eq_zero h.2]
      simp [h.1, hend]

theorem length_memberEntries (m : Member) :
    (memberEntries detail m).length = m.lineCount detail := by
  cases m <;> cases detail <;> simp [memberEntries, Member.lineCount]

theorem length_entries (o : SourceOutline) : (entries detail o).length = o.lineCount detail := by
  simp [entries, typeEntries, SourceOutline.lineCount, List.length_flatMap, length_memberEntries,
    Nat.add_comm]

theorem sum_breaks_flatMap {α : Type} {f g : α → List String} {items : List α}
    (h : ∀ a ∈ items, ((f a).map Text.breaks).sum = ((g a).map Text.breaks).sum) :
    ((items.flatMap f).map Text.breaks).sum = ((items.flatMap g).map Text.breaks).sum := by
  induction items with
  | nil => rfl
  | cons a rest ih =>
    rw [List.forall_mem_cons] at h
    simp only [List.flatMap_cons, List.map_append, List.sum_append, h.1, ih h.2]

theorem sum_breaks_entries {o : SourceOutline} (h : ∀ token ∈ o.tokens, Text.breaks token = 0)
    (hkind : ∀ t ∈ o.types, Text.breaks (Text.lower t.kind) = 0)
    (hparameters : ∀ t ∈ o.types, ∀ m ∈ t.members, ∀ text ∈ m.parameters,
      Text.breaks text = 0) :
    ((entries detail o).map Text.breaks).sum =
      ((o.shownTypes detail).map Text.breaks).sum := by
  refine sum_breaks_flatMap fun t ht => ?_
  have htokens : ∀ token ∈ t.name :: t.modifiers ++ t.members.flatMap Member.tokens,
      Text.breaks token = 0 := fun token htoken => h token (List.mem_flatMap.2 ⟨t, ht, htoken⟩)
  rw [List.forall_mem_append] at htokens
  rw [typeEntries, List.map_cons, List.sum_cons, breaks_header (hkind t ht) htokens.1, zero_add]
  refine sum_breaks_flatMap fun m hm => ?_
  have hindent : Text.breaks ∘ (indent ++ ·) = Text.breaks := funext breaks_indent
  rw [List.map_map, hindent]
  refine sum_breaks_memberEntries (fun token htoken => ?_) (hparameters t ht m hm)
  exact htokens.2 token (List.mem_flatMap.2 ⟨m, hm, htoken⟩)

end Listing

/-! ## The lines of an outline that was read from a tree -/

namespace SyntaxTree

theorem breaks_typeKind {n : Node} (h : isType n = true) :
    Text.breaks (Text.lower (typeKind n)) = 0 := by
  unfold typeKind
  split_ifs
  · decide +kernel
  · obtain ⟨⟨key, kind⟩, hmem, hkey⟩ := List.any_eq_true.1 h
    rw [beq_iff_eq] at hkey
    have hall : ∀ pair ∈ typeKinds, Text.breaks (Text.lower ((typeKinds.lookup pair.1).getD "")) =
        0 := by decide +kernel
    have := hall _ hmem
    rwa [hkey] at this

theorem breaks_of_mem_parameters_member? {source : Source} {p : Placed} {m : Member}
    (h : member? source p = some m) : ∀ text ∈ m.parameters, Text.breaks text = 0 := by
  unfold member? at h
  simp only at h
  split_ifs at h
  · rw [← Option.some.inj h]
    exact fun _ => breaks_of_mem_parameters
  · rw [← Option.some.inj h]
    exact fun _ => breaks_of_mem_parameters
  · obtain ⟨declaration, -, rfl⟩ := Option.map_eq_some_iff.1 h
    exact List.forall_mem_nil _
  · rw [← Option.some.inj h]
    exact List.forall_mem_nil _

theorem breaks_of_mem_parameters_members {source : Source} {n : Node} {m : Member}
    (h : m ∈ members source n) : ∀ text ∈ m.parameters, Text.breaks text = 0 := by
  unfold members at h
  split at h
  · obtain ⟨p, -, hp⟩ := List.mem_filterMap.1 h
    exact breaks_of_mem_parameters_member? hp
  · cases h

end SyntaxTree

namespace SourceOutline

open Text SyntaxTree

variable {source : String} {tree : Node} {detail : Listing.Detail}

theorem length_lines_listing {o : SourceOutline} (h : o.types ≠ []) :
    (lines (o.listing detail)).length =
      o.lineCount detail + ((Listing.entries detail o).map breaks).sum := by
  have hentries : Listing.entries detail o ≠ [] := by
    obtain ⟨t, ht⟩ := List.exists_mem_of_ne_nil _ h
    exact List.ne_nil_of_mem (List.mem_flatMap.2 ⟨t, ht, List.mem_cons_self⟩)
  rw [listing, lines_intercalate hentries, List.length_flatMap, ← Listing.length_entries]
  induction Listing.entries detail o with
  | nil => rfl
  | cons entry rest ih =>
    rw [List.map_cons, List.sum_cons, ih, length_lines]
    simp only [List.length_cons, List.map_cons, List.sum_cons]
    omega

theorem sum_breaks_entries_ofTree (h : ∀ token ∈ (ofTree source tree).tokens, '\n' ∉ token.toList) :
    ((Listing.entries detail (ofTree source tree)).map breaks).sum =
      (((ofTree source tree).shownTypes detail).map breaks).sum := by
  refine Listing.sum_breaks_entries (fun token ht => breaks_eq_zero_iff.2 (h token ht)) ?_ ?_
  · intro t ht
    obtain ⟨p, hp, rfl⟩ := List.mem_map.1 ht
    exact breaks_typeKind (List.mem_filter.1 hp).2
  · intro t ht m hm
    obtain ⟨p, hp, rfl⟩ := List.mem_map.1 ht
    exact breaks_of_mem_parameters_members hm

/-- The listing of a source has one line for each declaration, and one more for each line feed in
the types that it shows, whatever parameters and summaries hold. So there is one line per
declaration exactly if no type that is shown goes over several lines. -/
theorem one_line_per_declaration_iff (source : String) (tree : Node) (detail : Listing.Detail)
    (h : ∀ token ∈ (ofTree source tree).tokens, '\n' ∉ token.toList) :
    ((ofTree source tree).types = [] → (ofTree source tree).listing detail = "") ∧
    ((ofTree source tree).types ≠ [] →
      (lines ((ofTree source tree).listing detail)).length =
        (ofTree source tree).lineCount detail +
          (((ofTree source tree).shownTypes detail).map breaks).sum ∧
      ((lines ((ofTree source tree).listing detail)).length =
          (ofTree source tree).lineCount detail ↔
        ∀ type ∈ (ofTree source tree).shownTypes detail, '\n' ∉ type.toList)) := by
  refine ⟨fun hnone => ?_, fun hsome => ?_⟩
  · rw [listing, Listing.entries, hnone]
    rfl
  · have hlength := @length_lines_listing detail _ hsome
    rw [sum_breaks_entries_ofTree h] at hlength
    refine ⟨hlength, ?_⟩
    rw [hlength]
    constructor
    · intro hsum type htype
      have hzero : (((ofTree source tree).shownTypes detail).map breaks).sum = 0 := by omega
      rw [← breaks_eq_zero_iff]
      exact List.sum_eq_zero_iff_forall_eq_nat.1 hzero _ (List.mem_map_of_mem htype)
    · intro hnone
      rw [Listing.sum_breaks_eq_zero fun type htype => breaks_eq_zero_iff.2 (hnone type htype)]
      rfl

/-- A method whose parameters and summary go over several lines, and a field with two names. -/
def scattered : String :=
  "class A \x7b\n/// <summary>\n/// Sum.\n/// </summary>\nint M(int a,\n  int\n b) \x7b \x7d\n" ++
    "int x, y; \x7d"

theorem one_line_per_declaration_iff_scattered :
    (∀ token ∈ (ofTree scattered (Source.tree scattered)).tokens, '\n' ∉ token.toList) ∧
    (lines ((ofTree scattered (Source.tree scattered)).listing .detailed)).length = 4 := by
  have htokens : ∀ token ∈ (ofTree scattered (Source.tree scattered)).tokens,
      '\n' ∉ token.toList := by decide +kernel
  have hlines := (one_line_per_declaration_iff scattered (Source.tree scattered) .detailed
    htokens).2 (by decide +kernel)
  refine ⟨htokens, hlines.1.trans ?_⟩
  decide +kernel

/-- A method whose return type goes over two lines. -/
def brokenType : String := "class A \x7b List<\nint> M() \x7b \x7d \x7d"

/-- Two declarations on three lines: return types are not put on one line. -/
theorem three_lines_for_two_declarations :
    (∀ token ∈ (ofTree brokenType (Source.tree brokenType)).tokens, '\n' ∉ token.toList) ∧
    (ofTree brokenType (Source.tree brokenType)).lineCount .structural = 2 ∧
    lines ((ofTree brokenType (Source.tree brokenType)).listing .structural) =
      ["class A", "    List<", "int> M();"] := by
  decide +kernel

end SourceOutline

end Outline
