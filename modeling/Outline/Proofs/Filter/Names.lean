import Outline.Proofs.Filter.Wrapping
import Outline.Proofs.Path.Steps
import Outline.Proofs.Pattern.Names
import Outline.Proofs.Text.Lowercase

set_option autoImplicit false

/-!
# Filters that are lists of names

A filter is usually a list of names with bars between them. Such a text is always a filter, and a
folder is ignored if its name is one of them, whatever the case of the letters. Nothing is ignored
because a name begins, ends or occurs in it.
-/
namespace Outline

/-! ## Characters of names -/

theorem CaseRule.key_full_of_lt {c : Char} (hc : c.toNat < 128) :
    CaseRule.full.key c.toNat = c.toLower.toNat := by
  have hclass : ∀ code < 128, (Text.caseClass code).head? = some code := by decide +kernel
  have hlt : c.toLower.toNat < 128 := by
    rw [Text.toNat_toLower]
    split_ifs <;> omega
  change (Text.caseClass (Text.lowerCode c.toNat)).headD c.toNat = _
  rw [Text.lowerCode_toNat_of_lt hc, List.headD_eq_head?_getD, hclass _ hlt]
  rfl

theorem CaseRule.key_full_lower_of_lt {c : Char} (hc : c.toNat < 128) :
    CaseRule.full.key (CaseRule.full.lower c.toNat) = CaseRule.full.key c.toNat := by
  have hsmall : c.toLower.toNat < 128 ∧ c.toLower.toLower = c.toLower :=
    Text.forall_ascii (P := fun c => c.toLower.toNat < 128 ∧ c.toLower.toLower = c.toLower)
      (by decide +kernel) hc
  have hlower : CaseRule.full.lower c.toNat = c.toLower.toNat := Text.lowerCode_toNat_of_lt hc
  rw [hlower, key_full_of_lt hsmall.1, key_full_of_lt hc, hsmall.2]

theorem CaseRule.keys_full_of_lt {s : List Char} (hs : ∀ c ∈ s, c.toNat < 128) :
    CaseRule.full.keys s = (s.map Char.toLower).map Char.toNat := by
  rw [keys, List.map_map]
  exact List.map_congr_left fun c hc => key_full_of_lt (hs c hc)

theorem CaseRule.keys_full_eq_iff {s t : String} (hs : Text.IsAscii s) (ht : Text.IsAscii t) :
    CaseRule.full.keys s.toList = CaseRule.full.keys t.toList ↔
      Text.asciiLower s = Text.asciiLower t := by
  have hinj : Function.Injective Char.toNat := fun _ _ h => Char.toNat_inj.1 h
  rw [keys_full_of_lt hs, keys_full_of_lt ht, (List.map_injective_iff.2 hinj).eq_iff,
    Text.asciiLower, Text.asciiLower, String.ofList_inj]

namespace PatternReader

theorem toNat_lt_of_isNameChar {c : Char} (hc : isNameChar c) : c.toNat < 128 := by
  simp only [isNameChar, Bool.or_eq_true, Bool.and_eq_true, decide_eq_true_eq, beq_iff_eq,
    Char.le_def, UInt32.le_iff_toNat_le] at hc
  rcases hc with (((hc | hc) | hc) | rfl) | rfl
  · change 97 ≤ c.toNat ∧ c.toNat ≤ 122 at hc
    omega
  · change 65 ≤ c.toNat ∧ c.toNat ≤ 90 at hc
    omega
  · change 48 ≤ c.toNat ∧ c.toNat ≤ 57 at hc
    omega
  · decide
  · decide

theorem isNameChar_toLower {c : Char} (hc : isNameChar c) : isNameChar c.toLower :=
  Text.forall_ascii (P := fun c => isNameChar c → isNameChar c.toLower) (by decide +kernel)
    (toNat_lt_of_isNameChar hc) hc

theorem not_isBlank_of_isNameChar {c : Char} (hc : isNameChar c) : Text.isBlank c = false :=
  Text.forall_ascii (P := fun c => isNameChar c → Text.isBlank c = false) (by decide +kernel)
    (toNat_lt_of_isNameChar hc) hc

end PatternReader

namespace Filter

open PatternReader

/-- A name of letters, digits, underscores and hyphens. -/
def IsPlainName (name : String) : Prop := name ≠ "" ∧ ∀ c ∈ name.toList, isNameChar c

instance (name : String) : Decidable (IsPlainName name) :=
  @instDecidableAnd _ _ inferInstance (List.decidableBAll _ _)

/-- Whether a segment is one of the names, up to the case of ASCII letters. -/
def IsOneOf (names : List String) (segment : String) : Prop :=
  ∃ name ∈ names, Text.asciiLower segment = Text.asciiLower name

instance (names : List String) (segment : String) : Decidable (IsOneOf names segment) :=
  inferInstanceAs (Decidable (∃ _ ∈ _, _))

theorem IsPlainName.isAscii {name : String} (h : IsPlainName name) : Text.IsAscii name :=
  fun c hc => toNat_lt_of_isNameChar (h.2 c hc)

theorem IsPlainName.asciiLower {name : String} (h : IsPlainName name) :
    IsPlainName (Text.asciiLower name) := by
  refine ⟨by simpa [Text.asciiLower] using h.1, fun c hc => ?_⟩
  rw [Text.asciiLower, String.toList_ofList] at hc
  obtain ⟨d, hd, rfl⟩ := List.mem_map.1 hc
  exact isNameChar_toLower (h.2 d hd)

variable {names : List String} {segment : String}

theorem isPlainName_of_isOneOf (hnames : ∀ name ∈ names, IsPlainName name)
    (h : IsOneOf names segment) : IsPlainName (Text.asciiLower segment) := by
  obtain ⟨name, hname, heq⟩ := h
  rw [heq]
  exact (hnames name hname).asciiLower

theorem toList_intercalate_bar (names : List String) :
    ("|".intercalate names).toList = ['|'].intercalate (names.map String.toList) := by
  rw [String.toList_intercalate]
  rfl

theorem exists_intercalate_eq_cons (hne : names ≠ []) (hnames : ∀ name ∈ names, IsPlainName name) :
    ∃ c rest, isNameChar c ∧ ("|".intercalate names).toList = c :: rest := by
  obtain ⟨name, names, rfl⟩ := List.exists_cons_of_ne_nil hne
  obtain ⟨hname, hchars⟩ := hnames name (by simp)
  obtain ⟨c, before, hc⟩ := List.exists_cons_of_ne_nil (mt String.toList_eq_nil_iff.1 hname)
  obtain ⟨rest, -, heq⟩ := exists_intercalate_eq_append name.toList (names.map String.toList)
  refine ⟨c, before ++ rest, hchars c (by simp [hc]), ?_⟩
  rw [toList_intercalate_bar, List.map_cons, heq, hc, List.cons_append]

theorem read_intercalate [CharacterNames] (hne : names ≠ [])
    (hnames : ∀ name ∈ names, IsPlainName name) :
    ∃ f, read ("|".intercalate names) = .ok f ∧ ∀ segment, Text.IsAscii segment →
      (f.ignores segment ↔ IsOneOf names segment) := by
  obtain ⟨c, rest, hc, htext⟩ := exists_intercalate_eq_cons hne hnames
  have hblank : ("|".intercalate names).toList.all Text.isBlank = false := by
    rw [htext, List.all_cons, not_isBlank_of_isNameChar hc, Bool.false_and]
  have hopens : opensFlags false ("|".intercalate names).toList = false := by
    rw [htext]
    exact opensFlags_of_ne_bracket (ne_of_isNameChar hc (by decide)) rest
  have hne' : names.map String.toList ≠ [] := by simpa using hne
  have hchars : ∀ name ∈ names.map String.toList, ∀ c ∈ name, isNameChar c := by
    simpa using fun name hname => (hnames name hname).2
  have halone : readAlone ("|".intercalate names) = .ok (.choice
      ((names.map String.toList).map (namePattern { ignoreCase := true })), 0) :=
    read_names rfl rfl hne' hchars (toList_intercalate_bar names)
  rcases read_of_not_opensFlags hblank hopens with
    ⟨pattern, groups, hread, h⟩ | ⟨e, e', hread, -⟩ | ⟨offset, hread⟩
  · refine ⟨_, h, fun segment hascii => ?_⟩
    cases hread.symm.trans halone
    have hplane : ∀ name ∈ names.map String.toList, ∀ c ∈ name, c.toNat < 0x10000 :=
      fun name hname c hc => (toNat_lt_of_isNameChar (hchars name hname c hc)).trans (by decide)
    have hmatches := @Pattern.matchesAll_names { ignoreCase := true } _ hne' hplane 0 _
      fun c hc => CaseRule.key_full_lower_of_lt (hascii c hc)
    refine hmatches.trans ?_
    simp only [List.mem_map, exists_exists_and_eq_and]
    exact exists_congr fun name => and_congr_right fun hname =>
      CaseRule.keys_full_eq_iff hascii (hnames name hname).isAscii
  · cases hread.symm.trans halone
  · cases hread.symm.trans halone

/-- The path of the folder itself and empty segments are never ignored, which makes no difference to
a filter that would not ignore them as names. -/
theorem ignoresPath_iff {f : Filter} (hhere : f.ignores "." = false) (hempty : f.ignores "" = false)
    (path : String) : f.ignoresPath path ↔ ∃ segment ∈ Path.segments path, f.ignores segment := by
  by_cases hpath : path = "."
  · subst hpath
    have hsegments : Path.segments "." = ["."] := rfl
    simp [ignoresPath, hsegments, hhere]
  · rw [ignoresPath, bne_iff_ne.2 hpath, Bool.true_and, List.any_eq_true]
    refine exists_congr fun segment => and_congr_left fun hsegment => ?_
    rw [Path.mem_steps_iff, and_iff_left]
    rintro rfl
    simp [hempty] at hsegment

/-- Names with bars between them are a filter. An ASCII segment is ignored exactly if it is one of
the names, up to case, and a path is ignored exactly if one of its segments is. -/
theorem name_list_means_its_names [CharacterNames] (names : List String) (hne : names ≠ [])
    (hnames : ∀ name ∈ names, IsPlainName name) :
    ∃ f, read ("|".intercalate names) = .ok f ∧
      (∀ segment, Text.IsAscii segment → (f.ignores segment ↔ IsOneOf names segment)) ∧
      (∀ path, f.ignoresPath path ↔ ∃ segment ∈ Path.segments path, f.ignores segment) ∧
      ∀ path, Text.IsAscii path →
        (f.ignoresPath path ↔ ∃ segment ∈ Path.segments path, IsOneOf names segment) := by
  obtain ⟨f, hread, hsegment⟩ := read_intercalate hne hnames
  have hnot : ∀ segment, Text.IsAscii segment → ¬ IsPlainName (Text.asciiLower segment) →
      f.ignores segment = false := by
    intro segment hascii hplain
    rw [Bool.eq_false_iff, ne_eq, hsegment segment hascii]
    exact mt (isPlainName_of_isOneOf hnames) hplain
  have hpath := ignoresPath_iff (hnot "." (by decide) (by decide)) (hnot "" (by decide) (by decide))
  refine ⟨f, hread, hsegment, hpath, fun path hascii => ?_⟩
  rw [hpath]
  exact exists_congr fun segment => and_congr_right fun hmem =>
    hsegment segment fun c hc => hascii c (Path.subset_of_mem_segments hmem hc)

/-- The first name begins the second, and one has letters of both cases. -/
def folderNames : List String := ["bin", "binary", "Node_modules", "x-1"]

theorem name_list_means_its_names_folderNames :
    (folderNames ≠ [] ∧ ∀ name ∈ folderNames, IsPlainName name) ∧
      ∃ f, read "bin|binary|Node_modules|x-1" = .ok f ∧
        f.ignores "Binary" ∧ ¬ f.ignores "binar" ∧ ¬ f.ignores "xbin" ∧
        f.ignoresPath "src/NODE_MODULES/a" ∧ ¬ f.ignoresPath "src/bins//x-12" := by
  have hplain : ∀ name ∈ folderNames, IsPlainName name := by decide
  obtain ⟨f, hread, hsegment, -, hpath⟩ := name_list_means_its_names folderNames (by decide) hplain
  refine ⟨⟨by decide, hplain⟩, f, hread, ?_, ?_, ?_, ?_, ?_⟩
  · exact (hsegment _ (by decide)).2 (by decide)
  · exact mt (hsegment _ (by decide)).1 (by decide)
  · exact mt (hsegment _ (by decide)).1 (by decide)
  · exact (hpath _ (by decide)).2 (by decide)
  · exact mt (hpath _ (by decide)).1 (by decide)

end Filter

end Outline
