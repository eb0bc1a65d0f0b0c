import Outline.Filter
import Outline.Proofs.Outcome
import Outline.Proofs.Pattern.Bracketed

set_option autoImplicit false

/-!
# The group around a filter

A filter is read inside a group. The group is put around the text and not around the pattern, and
for most texts the filter is still the pattern that the text is on its own.
-/
namespace Outline.Filter

open PatternReader

/-- What the text is on its own, with the number of its groups. -/
def readAlone [CharacterNames] (text : String) : Except PatternRefusal (Pattern × Nat) :=
  Pattern.read { ignoreCase := true } text

/-- A text is a filter when it is a pattern, and then a name is ignored when the pattern matches the
whole of it. -/
structure IsTransparent [CharacterNames] (text : String) : Prop where
  accepted : (∃ f, read text = .ok f) ↔ ∃ p, readAlone text = .ok p
  ignores : ∀ f pattern groups, read text = .ok f → readAlone text = .ok (pattern, groups) →
    ∀ name, f.ignores name = pattern.matchesAll groups name

theorem read_of_not_blank [CharacterNames] {text : String}
    (hblank : text.toList.all Text.isBlank = false) :
    read text = match Pattern.read { ignoreCase := true } (wrap text) with
      | .ok (pattern, groups) => .ok ⟨text, pattern, groups⟩
      | .error refusal => .error (.refused text refusal) :=
  if_neg (by simp [hblank])

theorem read_of_not_opensFlags [CharacterNames] {text : String}
    (hblank : text.toList.all Text.isBlank = false)
    (hopens : opensFlags false text.toList = false) :
    (∃ pattern groups, readAlone text = .ok (pattern, groups) ∧
        read text = .ok ⟨text, pattern, groups⟩) ∨
      (∃ e e', readAlone text = .error e ∧ read text = .error e') ∨
      ∃ offset, readAlone text = .error (.broken .unbalancedGroup offset) := by
  have hreadings := @readings_of_bracketed _ { ignoreCase := true } rfl rfl text.toList hopens
  rw [← toList_wrap] at hreadings
  rw [read_of_not_blank hblank, readAlone, read_pattern_eq, read_pattern_eq]
  revert hreadings
  generalize whole { rest := text.toList, offset := 0, flags := { ignoreCase := true } } = x
  generalize whole { rest := (wrap text).toList, offset := 0, flags := { ignoreCase := true } } = x'
  intro hreadings
  cases hreadings with
  | same hwidths =>
    refine .inl ⟨_, _, rfl, ?_⟩
    simp only [hwidths]
  | refused => exact .inr (.inl ⟨_, _, rfl, rfl⟩)
  | unbalanced => exact .inr (.inr ⟨_, rfl⟩)

theorem read_of_opensFlags [CharacterNames] {text : String}
    (hblank : text.toList.all Text.isBlank = false) (hopens : opensFlags false text.toList) :
    ∃ e, read text = .error e := by
  obtain ⟨e, he⟩ := @bracketed_fails_of_opensFlags _ { ignoreCase := true } rfl _ hopens
  rw [← toList_wrap] at he
  rw [read_of_not_blank hblank, read_pattern_eq, he]
  exact ⟨_, rfl⟩

theorem isTransparent_of_refused [CharacterNames] {text : String} {e : FilterError}
    {e' : PatternRefusal} (hread : read text = .error e) (halone : readAlone text = .error e') :
    IsTransparent text where
  accepted := by simp [hread, halone]
  ignores := by simp [hread]

theorem isTransparent_of_read [CharacterNames] {text : String} {pattern : Pattern} {groups : ℕ}
    (hread : read text = .ok ⟨text, pattern, groups⟩)
    (halone : readAlone text = .ok (pattern, groups)) : IsTransparent text where
  accepted := iff_of_true ⟨_, hread⟩ ⟨_, halone⟩
  ignores f pattern' groups' hf hp name := by
    cases hf.symm.trans hread
    cases hp.symm.trans halone
    rfl

/-- The group can be seen through unless the text is a pattern with flags for the whole of it, or
the text closes the group by itself and is a filter. -/
theorem isTransparent_iff [CharacterNames] (text : String)
    (hblank : text.toList.all Text.isBlank = false) :
    IsTransparent text ↔
      ¬ ((∃ p, readAlone text = .ok p) ∧ opensFlags false text.toList) ∧
      ¬ ((∃ f, read text = .ok f) ∧
        ∃ offset, readAlone text = .error (.broken .unbalancedGroup offset)) := by
  constructor
  · intro h
    refine ⟨?_, ?_⟩
    · rintro ⟨hvalid, hopens⟩
      obtain ⟨f, hf⟩ := h.accepted.2 hvalid
      obtain ⟨e, he⟩ := read_of_opensFlags hblank hopens
      cases hf.symm.trans he
    · rintro ⟨haccepted, offset, hrefused⟩
      obtain ⟨p, hp⟩ := h.accepted.1 haccepted
      cases hp.symm.trans hrefused
  · rintro ⟨hflags, hcloses⟩
    cases hopens : opensFlags false text.toList with
    | true =>
      obtain ⟨e, hread⟩ := read_of_opensFlags hblank hopens
      cases halone : readAlone text with
      | error e' => exact isTransparent_of_refused hread halone
      | ok p => exact absurd ⟨⟨p, halone⟩, hopens⟩ hflags
    | false =>
      rcases read_of_not_opensFlags hblank hopens with
        ⟨pattern, groups, halone, hread⟩ | ⟨e, e', halone, hread⟩ | ⟨offset, halone⟩
      · exact isTransparent_of_read hread halone
      · exact isTransparent_of_refused hread halone
      · cases hread : read text with
        | error e => exact isTransparent_of_refused hread halone
        | ok f => exact absurd ⟨⟨f, hread⟩, offset, halone⟩ hcloses

/-- Brackets in a comment, in a set and behind a backslash are none of the group's. -/
def scatteredBrackets : String := "(?#(?i\\))(b)[)]\\(\\1|obj"

theorem isTransparent_scatteredBrackets :
    scatteredBrackets.toList.all Text.isBlank = false ∧ IsTransparent scatteredBrackets := by
  have hblank : scatteredBrackets.toList.all Text.isBlank = false := by decide +kernel
  refine ⟨hblank, (isTransparent_iff _ hblank).2 ⟨?_, ?_⟩⟩
  · rintro ⟨-, hopens⟩
    have hnot : opensFlags false scatteredBrackets.toList = false := by decide +kernel
    rw [hnot] at hopens
    cases hopens
  · rintro ⟨-, offset, hrefused⟩
    have hvalid : (readAlone scatteredBrackets).isOk := by decide +kernel
    rw [hrefused] at hvalid
    cases hvalid

/-- Flags are refused inside the group, and brackets can be balanced by it. -/
theorem not_isTransparent_flags_and_brackets :
    ¬ IsTransparent "(?i)bin" ∧ ¬ IsTransparent "a)(?:b" := by
  refine ⟨fun h => ?_, fun h => ?_⟩
  · have hread : (read "(?i)bin").toOption = none := by decide +kernel
    have halone : (readAlone "(?i)bin").isOk := by decide +kernel
    obtain ⟨f, hf⟩ := h.accepted.2 (Except.exists_eq_ok halone)
    rw [hf] at hread
    cases hread
  · have hread : (read "a)(?:b").isOk := by decide +kernel
    have halone : (readAlone "a)(?:b").toOption = none := by decide +kernel
    obtain ⟨p, hp⟩ := h.accepted.1 (Except.exists_eq_ok hread)
    rw [hp] at halone
    cases halone

end Outline.Filter
