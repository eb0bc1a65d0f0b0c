import Mathlib.Data.Nat.Notation
import Mathlib.Tactic.SplitIfs
import Outline.Text.Lowercase

set_option autoImplicit false

/-!
# Lower case

There are two lower cases: that of the ASCII letters, under which all other characters stay as they
are, and that of all of Unicode. A text becomes a given ASCII text under both or under neither,
unless the letters i or k are in it, which two letters beyond ASCII become.
-/
namespace Outline.Text

/-! ## ASCII characters -/

def IsAscii (text : String) : Prop := ∀ c ∈ text.toList, c.toNat < 128

instance (text : String) : Decidable (IsAscii text) := List.decidableBAll _ _

/-- A text with its ASCII letters in lower case. -/
def asciiLower (text : String) : String := .ofList (text.toList.map Char.toLower)

theorem forall_ascii {P : Char → Prop} (h : ∀ n < 128, P (Char.ofNat n)) {c : Char}
    (hc : c.toNat < 128) : P c := by
  simpa using h c.toNat hc

theorem toNat_toLower (c : Char) :
    c.toLower.toNat = if 65 ≤ c.toNat ∧ c.toNat ≤ 90 then c.toNat + 32 else c.toNat := by
  by_cases hc : c.toNat < 128
  · exact forall_ascii (P := fun c => c.toLower.toNat =
      if 65 ≤ c.toNat ∧ c.toNat ≤ 90 then c.toNat + 32 else c.toNat) (by decide +kernel) hc
  · have hsame : c.toLower = c := by
      unfold Char.toLower
      rw [dif_neg]
      rintro ⟨-, h⟩
      change c.toNat ≤ 90 at h
      omega
    rw [hsame, if_neg (by omega)]

/-- What is the same for the two forms of every letter is the same for a character and its lower
case. -/
theorem apply_toLower {β : Type} {g : ℕ → β} (h : ∀ k < 26, g (97 + k) = g (65 + k))
    (c : Char) : g c.toLower.toNat = g c.toNat := by
  rw [toNat_toLower]
  split_ifs with hc
  · have hk := h (c.toNat - 65) (by omega)
    rwa [show 97 + (c.toNat - 65) = c.toNat + 32 by omega,
      show 65 + (c.toNat - 65) = c.toNat by omega] at hk
  · rfl

/-- Below the letters, nothing else becomes a character. -/
theorem toLower_eq_iff_of_lt {c d : Char} (hd : d.toNat < 65) : c.toLower = d ↔ c = d := by
  rw [← Char.toNat_inj, ← Char.toNat_inj, toNat_toLower]
  split_ifs <;> omega

theorem toLower_eq_iff_of_upper {c d upper : Char}
    (hupper : 65 ≤ upper.toNat ∧ upper.toNat ≤ 90) (hd : d.toNat = upper.toNat + 32) :
    c.toLower = d ↔ c = d ∨ c = upper := by
  rw [← Char.toNat_inj, ← Char.toNat_inj, ← Char.toNat_inj, toNat_toLower]
  split_ifs <;> omega

theorem map_toLower_eq_singleton_iff {d : Char} (hd : d.toNat < 65) (chars : List Char) :
    chars.map Char.toLower = [d] ↔ chars = [d] := by
  cases chars with
  | nil => rfl
  | cons c rest => simp [toLower_eq_iff_of_lt hd]

/-! ## All characters -/

theorem lowerFrom_result (before result chars : List Char) :
    lowerFrom before result chars = result.reverse ++ lowerFrom before [] chars := by
  induction chars generalizing before result with
  | nil => simp [lowerFrom]
  | cons c after ih =>
    rw [lowerFrom, ih, lowerFrom, ih _ ((lowerChar before c after).reverse ++ [])]
    simp

theorem lowerFrom_cons (before : List Char) (c : Char) (after : List Char) :
    lowerFrom before [] (c :: after) =
      lowerChar before c after ++ lowerFrom (c :: before) [] after := by
  rw [lowerFrom, lowerFrom_result]
  simp

theorem lowerChar_ne_nil (before : List Char) (c : Char) (after : List Char) :
    lowerChar before c after ≠ [] := by
  unfold lowerChar
  split_ifs <;> simp

/-- Beyond the ASCII letters, only two single letters have an ASCII letter as lower-case form. -/
theorem eq_or_target_of_mem_lowerRows : ∀ row ∈ lowerRows, row = ⟨65, 90, 1, 97⟩ ∨
    128 ≤ row.first ∧ (128 ≤ row.target ∨
      row.first = row.last ∧ (row.target = 'i'.toNat ∨ row.target = 'k'.toNat)) := by
  decide +kernel

theorem CaseRow.covers_iff (row : CaseRow) (code : ℕ) :
    row.covers code = true ↔
      row.first ≤ code ∧ code ≤ row.last ∧ (code - row.first) % row.step = 0 := by
  simp [CaseRow.covers, and_assoc]

theorem lowerCode_cases (code : ℕ) :
    65 ≤ code ∧ code ≤ 90 ∧ lowerCode code = code + 32 ∨
    ¬ (65 ≤ code ∧ code ≤ 90) ∧ lowerCode code = code ∨
    128 ≤ code ∧
      (128 ≤ lowerCode code ∨ lowerCode code = 'i'.toNat ∨ lowerCode code = 'k'.toNat) := by
  unfold lowerCode
  cases hfind : lowerRows.find? (·.covers code) with
  | none =>
    have hletters := List.find?_eq_none.1 hfind ⟨65, 90, 1, 97⟩ List.mem_cons_self
    rw [CaseRow.covers_iff] at hletters
    refine .inr (.inl ⟨fun hcode => hletters ⟨hcode.1, hcode.2, ?_⟩, rfl⟩)
    exact Nat.mod_one _
  | some row =>
    have hcovers := List.find?_some hfind
    rw [CaseRow.covers_iff] at hcovers
    obtain rfl | hrow := eq_or_target_of_mem_lowerRows row (List.mem_of_find?_eq_some hfind)
    · simp only at hcovers ⊢
      omega
    · simp only
      omega

theorem lowerCode_toNat_of_lt {c : Char} (hc : c.toNat < 128) :
    lowerCode c.toNat = c.toLower.toNat := by
  have hcases := lowerCode_cases c.toNat
  rw [toNat_toLower]
  split_ifs <;> omega

/-- An ASCII character that is the lower-case form of no character beyond ASCII. -/
def OnlyFromAscii (d : Char) : Prop := 0 < d.toNat ∧ d.toNat < 128 ∧ d ≠ 'i' ∧ d ≠ 'k'

instance (d : Char) : Decidable (OnlyFromAscii d) := inferInstanceAs (Decidable (_ ∧ _ ∧ _ ∧ _))

/-- Only a code that is no character's becomes the character 0 instead. -/
theorem toNat_ofNat_of_pos {code : ℕ} (h : 0 < (Char.ofNat code).toNat) :
    (Char.ofNat code).toNat = code := by
  by_cases hvalid : code.isValidChar
  · have hchar : Char.ofNat code = Char.ofNatAux code hvalid := dif_pos hvalid
    exact congrArg Char.toNat hchar
  · rw [Char.ofNat, dif_neg hvalid] at h
    cases h

theorem ofNat_lowerCode_eq_iff {c d : Char} (hd : OnlyFromAscii d) :
    Char.ofNat (lowerCode c.toNat) = d ↔ c.toLower = d := by
  obtain ⟨hpos, hlt, hi, hk⟩ := hd
  rw [ne_eq, ← Char.toNat_inj] at hi hk
  have hcases := lowerCode_cases c.toNat
  by_cases hc : c.toNat < 128
  · rw [lowerCode_toNat_of_lt hc, Char.ofNat_toNat]
  · refine iff_of_false ?_ ?_
    · rintro rfl
      rw [toNat_ofNat_of_pos hpos] at hlt hi hk
      omega
    · rintro rfl
      rw [toNat_toLower] at hlt
      split_ifs at hlt <;> omega

theorem lowerChar_append_eq_cons_iff {d : Char} (hd : OnlyFromAscii d) (c : Char)
    (before after rest goal : List Char) :
    lowerChar before c after ++ rest = d :: goal ↔ c.toLower = d ∧ rest = goal := by
  -- the two characters with a rule of their own become characters beyond ASCII, or begin with an i
  have hother : ∀ {e f : Char} {more : List Char}, ¬ OnlyFromAscii e → ¬ OnlyFromAscii f →
      (e :: more ++ rest = d :: goal ↔ f = d ∧ rest = goal) := by
    intro e f more he hf
    refine iff_of_false (fun h => ?_) (fun h => hf (h.1 ▸ hd))
    exact he ((List.cons.inj h).1 ▸ hd)
  unfold lowerChar
  split_ifs with hsigma hword hdotted
  · rw [beq_iff_eq.1 hsigma]
    exact hother (by decide) (by decide)
  · rw [beq_iff_eq.1 hsigma]
    exact hother (by decide) (by decide)
  · rw [beq_iff_eq.1 hdotted]
    exact hother (by decide) (by decide)
  · rw [List.singleton_append, List.cons.injEq, ofNat_lowerCode_eq_iff hd]

theorem lowerFrom_eq_iff {goal : List Char} (h : ∀ d ∈ goal, OnlyFromAscii d)
    (before chars : List Char) :
    lowerFrom before [] chars = goal ↔ chars.map Char.toLower = goal := by
  induction chars generalizing before goal with
  | nil => rfl
  | cons c after ih =>
    rw [lowerFrom_cons, List.map_cons]
    cases goal with
    | nil => simp [lowerChar_ne_nil]
    | cons d goal =>
      rw [List.forall_mem_cons] at h
      rw [lowerChar_append_eq_cons_iff h.1, ih h.2, List.cons.injEq]

/-- A text of such characters is the lower case of ASCII texts only. -/
theorem lower_eq_iff {text goal : String} (h : ∀ d ∈ goal.toList, OnlyFromAscii d) :
    lower text = goal ↔ asciiLower text = goal := by
  rw [← String.toList_inj, ← String.toList_inj, lower, asciiLower, String.toList_ofList,
    String.toList_ofList]
  exact lowerFrom_eq_iff h [] text.toList

end Outline.Text
