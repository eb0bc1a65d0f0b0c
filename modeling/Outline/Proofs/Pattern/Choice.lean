import Mathlib.Data.List.Forall2
import Mathlib.Tactic.Common
import Outline.Pattern.Matcher

set_option autoImplicit false

/-!
# Choices between alternatives

Alternatives that differ only in the last character are merged into a pattern with a set. The set
holds what the alternatives say of that character. It accepts the same characters as they do, as far
as a set compares characters in the way in which they are compared one by one.
-/
namespace Outline

namespace CharTest

theorem accepts_set_iff {rule : CaseRule} {items : List SetItem} {code : ℕ} :
    (set rule false items).accepts code ↔
      ∃ item ∈ items, item.holds rule (rule.lower code) (rule.variants code) := by
  simp [accepts]

/-- The set that a test stands for, if it stands for one, compares by the given rule and agrees with
the test on a character. -/
def AgreesWithSet (rule : CaseRule) (test : CharTest) (code : ℕ) : Prop :=
  ∀ own, test.items? = some own →
    own.1 = rule ∧ (set own.1 false own.2).accepts code = test.accepts code

theorem AgreesWithSet.accepts_iff {rule : CaseRule} {test : CharTest} {code : ℕ}
    {own : CaseRule × List SetItem} (h : test.AgreesWithSet rule code)
    (hown : test.items? = some own) : test.accepts code ↔
      ∃ item ∈ own.2, item.holds rule (rule.lower code) (rule.variants code) := by
  obtain ⟨hrule, haccepts⟩ := h own hown
  rw [← haccepts, accepts_set_iff, hrule]

end CharTest

namespace Pattern

/-! ## Merging -/

theorem lastItems?_eq_some_iff {front : List Pattern} {p : Pattern}
    {own : CaseRule × List SetItem} : lastItems? front p = some own ↔
      ∃ test, p.parts = front ++ [one test] ∧ test.items? = some own := by
  unfold lastItems?
  constructor
  · intro h
    split at h
    · rename_i test _
      split_ifs at h with hparts
      exact ⟨test, hparts, h⟩
    · cases h
  · rintro ⟨test, hparts, htest⟩
    simp [hparts, htest]

theorem merged?_eq_some {ps : List Pattern} {m : Pattern} (h : merged? ps = some m) :
    ∃ front rule items, m = ofList (front ++ [one (.set rule false items)]) ∧
      (∃ p ∈ ps, ∃ own, lastItems? front p = some (rule, own)) ∧
      (∀ p ∈ ps, ∃ own, lastItems? front p = some own) ∧
      ∀ item, item ∈ items ↔ ∃ p ∈ ps, ∃ own, lastItems? front p = some own ∧ item ∈ own.2 := by
  cases ps with
  | nil => cases h
  | cons p rest =>
    obtain ⟨⟨rule, own⟩, hfirst, h⟩ := Option.bind_eq_some_iff.1 h
    simp only at h
    split_ifs at h with hmerge
    simp only [Bool.and_eq_true, beq_iff_eq, List.filterMap_length_eq_length] at hmerge
    cases h
    refine ⟨_, rule, _, rfl, ⟨p, .head _, own, hfirst⟩, ?_, fun item => ?_⟩
    · rw [List.forall_mem_cons]
      exact ⟨⟨_, hfirst⟩, fun q hq => Option.isSome_iff_exists.1 (hmerge.1.2 q hq)⟩
    · simp only [List.mem_eraseDups, List.mem_append, List.mem_flatMap, List.mem_filterMap,
        List.exists_mem_cons_iff, hfirst, Option.some.injEq, exists_eq_left']
      refine or_congr_right ⟨?_, ?_⟩
      · rintro ⟨other, ⟨q, hq, hother⟩, hitem⟩
        exact ⟨q, hq, other, hother, hitem⟩
      · rintro ⟨q, hq, other, hother, hitem⟩
        exact ⟨other, ⟨q, hq, hother⟩, hitem⟩

theorem choice_eq (ps : List Pattern) : choice ps = (merged? ps).getD (ofAlternatives ps) := by
  unfold choice
  split
  · rename_i p
    have hnone : merged? [p] = none := by
      rw [merged?]
      cases lastItems? p.parts.dropLast p <;> simp
    rw [hnone]
    rfl
  · rfl

/-- What holds of a pattern exactly if it holds of its parts, and of a set if it holds of a test
that stands for one, goes from alternatives to the choice between them. -/
theorem choice_induction {motive : Pattern → Prop} (hempty : motive empty)
    (hseq : ∀ a b, motive (seq a b) ↔ motive a ∧ motive b)
    (halt : ∀ a b, motive a → motive b → motive (alt a b))
    (hset : ∀ test own items, motive (one test) → test.items? = some own →
      motive (one (.set own.1 false items)))
    {ps : List Pattern} (h : ∀ p ∈ ps, motive p) : motive (choice ps) := by
  have hparts : ∀ p, motive p → ∀ q ∈ p.parts, motive q := by
    intro p hp
    fun_induction parts p with
    | case1 => simp
    | case2 a b iha ihb =>
      rw [hseq] at hp
      exact List.forall_mem_append.2 ⟨iha hp.1, ihb hp.2⟩
    | case3 p _ _ => exact List.forall_mem_singleton.2 hp
  rw [choice_eq]
  cases hm : merged? ps with
  | none => exact joined_induction hempty halt h
  | some m =>
    obtain ⟨front, rule, items, rfl, ⟨p, hp, own, hown⟩, -, -⟩ := merged?_eq_some hm
    obtain ⟨test, htest, hitems⟩ := lastItems?_eq_some_iff.1 hown
    have hall := hparts p (h p hp)
    rw [htest, List.forall_mem_append, List.forall_mem_singleton] at hall
    refine joined_induction hempty (fun a b ha hb => (hseq a b).2 ⟨ha, hb⟩) ?_
    rw [List.forall_mem_append, List.forall_mem_singleton]
    exact ⟨hall.1, hset test _ items hall.2 hitems⟩

theorem parts_ofList {ps : List Pattern} (h : ∀ p ∈ ps, p.parts = [p]) :
    (ofList ps).parts = ps := by
  unfold ofList
  fun_induction joined seq ps with
  | case1 => rfl
  | case2 p => exact h p (by simp)
  | case3 p rest _ ih =>
    rw [List.forall_mem_cons] at h
    rw [parts, h.1, ih h.2, List.singleton_append]

/-! ## Matching -/

theorem run_ofList_cons (text : List Char) (first : Pattern) (rest : List Pattern) (p : Place)
    (follow : Follow) : run text (ofList (first :: rest)) p follow =
      run text first p fun q => run text (ofList rest) q follow := by
  cases rest <;> rfl

/-- Tests one after another. -/
def ofTests (tests : List CharTest) : Pattern := ofList (tests.map one)

def AcceptAll (tests : List CharTest) (chars : List Char) : Prop :=
  List.Forall₂ (fun test c => test.accepts c.toNat = true) tests chars

theorem run_ofTests (tests : List CharTest) (text : List Char) (p : Place) :
    (run text (ofTests tests) p fun q => if q.after.isEmpty then some q else none).isSome ↔
      AcceptAll tests p.after := by
  induction tests generalizing p with
  | nil =>
    cases hp : p.after <;> simp [ofTests, ofList, joined, run, AcceptAll, hp]
  | cons test tests ih =>
    rw [ofTests, List.map_cons, run_ofList_cons, ← ofTests, run]
    cases hp : p.after with
    | nil => simp [AcceptAll]
    | cons c rest =>
      have hadvance : p.advance.after = rest := by simp [Place.advance, hp]
      have hrest := ih p.advance
      rw [hadvance] at hrest
      by_cases hc : test.accepts c.toNat
      · simpa [AcceptAll, hc] using hrest
      · simp [AcceptAll, hc]

theorem matchesAll_ofTests (tests : List CharTest) (groups : ℕ) (text : String) :
    (ofTests tests).matchesAll groups text ↔ AcceptAll tests text.toList :=
  run_ofTests tests _ _

theorem matchesAll_ofAlternatives {ps : List Pattern} (hne : ps ≠ []) (groups : ℕ) (text : String) :
    (ofAlternatives ps).matchesAll groups text = ps.any (·.matchesAll groups text) := by
  unfold ofAlternatives
  fun_induction joined alt ps with
  | case1 => exact absurd rfl hne
  | case2 p => simp
  | case3 p rest hrest ih =>
    -- the end of the text is part of what follows: where the first stops short, the next is tried
    rw [List.any_cons, ← ih (by simpa using hrest), matchesAll, run, matchesAll, matchesAll]
    split <;> simp_all

theorem acceptAll_concat {tests : List CharTest} {test : CharTest} {chars : List Char} :
    AcceptAll (tests ++ [test]) chars ↔
      ∃ before c, chars = before ++ [c] ∧ AcceptAll tests before ∧ test.accepts c.toNat := by
  unfold AcceptAll
  rw [← List.forall₂_reverse_iff, List.reverse_concat, List.forall₂_cons_left_iff]
  constructor
  · rintro ⟨c, before, hc, hbefore, hchars⟩
    refine ⟨before.reverse, c, ?_, ?_, hc⟩
    · rw [← List.reverse_reverse chars, hchars, List.reverse_cons]
    · rwa [← List.forall₂_reverse_iff, List.reverse_reverse]
  · rintro ⟨before, c, rfl, hbefore, hc⟩
    exact ⟨c, before.reverse, hc, List.forall₂_reverse_iff.2 hbefore, List.reverse_concat⟩

theorem parts_ofTests (tests : List CharTest) : (ofTests tests).parts = tests.map one := by
  refine parts_ofList fun p hp => ?_
  obtain ⟨test, -, rfl⟩ := List.mem_map.1 hp
  rfl

theorem lastItems?_ofTests_iff {front tests : List CharTest} {own : CaseRule × List SetItem} :
    lastItems? (front.map one) (ofTests tests) = some own ↔
      ∃ test, tests = front ++ [test] ∧ test.items? = some own := by
  have hinj : Function.Injective (List.map one) :=
    List.map_injective_iff.2 fun _ _ h => by cases h; rfl
  rw [lastItems?_eq_some_iff, parts_ofTests]
  refine exists_congr fun test => and_congr_left' ?_
  rw [← hinj.eq_iff, List.map_append, List.map_singleton]

variable {rule : CaseRule} {tss : List (List CharTest)}

/-- The set that alternatives are merged into holds what any of them says of its last character. -/
theorem accepts_merged_iff {front : List CharTest} {items : List SetItem} {code : ℕ}
    (hall : ∀ p ∈ tss.map ofTests, ∃ own, lastItems? (front.map one) p = some own)
    (hitems : ∀ item, item ∈ items ↔
      ∃ p ∈ tss.map ofTests, ∃ own, lastItems? (front.map one) p = some own ∧ item ∈ own.2)
    (hsets : ∀ ts ∈ tss, ∀ test ∈ ts, test.AgreesWithSet rule code) :
    (CharTest.set rule false items).accepts code ↔
      ∃ ts ∈ tss, ∃ test, ts = front ++ [test] ∧ test.accepts code := by
  rw [CharTest.accepts_set_iff]
  constructor
  · rintro ⟨item, hitem, hholds⟩
    obtain ⟨p, hp, own, hown, hmem⟩ := (hitems item).1 hitem
    obtain ⟨ts, hts, rfl⟩ := List.mem_map.1 hp
    obtain ⟨test, rfl, htest⟩ := lastItems?_ofTests_iff.1 hown
    exact ⟨_, hts, test, rfl,
      ((hsets _ hts test (by simp)).accepts_iff htest).2 ⟨item, hmem, hholds⟩⟩
  · rintro ⟨_, hts, test, rfl, haccepts⟩
    obtain ⟨own, hown⟩ := hall _ (List.mem_map_of_mem hts)
    obtain ⟨test', heq, htest⟩ := lastItems?_ofTests_iff.1 hown
    obtain rfl : test = test' := by simpa using heq
    obtain ⟨item, hmem, hholds⟩ := ((hsets _ hts test (by simp)).accepts_iff htest).1 haccepts
    exact ⟨item, (hitems item).2 ⟨_, List.mem_map_of_mem hts, own, hown, hmem⟩, hholds⟩

theorem matchesAll_merged {m : Pattern} (hm : merged? (tss.map ofTests) = some m) (groups : ℕ)
    {text : String}
    (hsets : ∀ ts ∈ tss, ∀ test ∈ ts, ∀ c ∈ text.toList, test.AgreesWithSet rule c.toNat) :
    m.matchesAll groups text ↔ ∃ ts ∈ tss, AcceptAll ts text.toList := by
  obtain ⟨_, rule', items, rfl, ⟨p, hp, own, hown⟩, hall, hitems⟩ := merged?_eq_some hm
  obtain ⟨first, hfirst, rfl⟩ := List.mem_map.1 hp
  obtain ⟨test, hparts, -⟩ := lastItems?_eq_some_iff.1 hown
  rw [parts_ofTests] at hparts
  obtain ⟨front, last, rfl, rfl, -⟩ := List.map_eq_append_iff.1 hparts
  have hset : ∀ c ∈ text.toList, (CharTest.set rule' false items).accepts c.toNat ↔
      ∃ ts ∈ tss, ∃ test, ts = front ++ [test] ∧ test.accepts c.toNat := by
    intro c hc
    obtain ⟨test, htests, htest⟩ := lastItems?_ofTests_iff.1 hown
    have hrule : rule' = rule := (hsets _ hfirst test (by simp [htests]) c hc _ htest).1
    rw [hrule]
    exact accepts_merged_iff hall hitems fun ts hts test htest => hsets ts hts test htest c hc
  have hlast : ofList (front.map one ++ [one (.set rule' false items)]) =
      ofTests (front ++ [.set rule' false items]) := by simp [ofTests]
  rw [hlast, matchesAll_ofTests, acceptAll_concat]
  constructor
  · rintro ⟨before, c, htext, hbefore, hc⟩
    obtain ⟨_, hts, test, rfl, hc'⟩ := (hset c (by simp [htext])).1 hc
    exact ⟨_, hts, acceptAll_concat.2 ⟨before, c, htext, hbefore, hc'⟩⟩
  · rintro ⟨ts, hts, haccept⟩
    obtain ⟨own', hown'⟩ := hall _ (List.mem_map_of_mem hts)
    obtain ⟨test, rfl, -⟩ := lastItems?_ofTests_iff.1 hown'
    obtain ⟨before, c, htext, hbefore, hc⟩ := acceptAll_concat.1 haccept
    exact ⟨before, c, htext, hbefore, (hset c (by simp [htext])).2 ⟨_, hts, test, rfl, hc⟩⟩

/-- A choice between sequences of tests matches what one of them matches, as long as sets compare
characters in the same way. -/
theorem matchesAll_choice (hne : tss ≠ []) (groups : ℕ) {text : String}
    (hsets : ∀ ts ∈ tss, ∀ test ∈ ts, ∀ c ∈ text.toList, test.AgreesWithSet rule c.toNat) :
    (choice (tss.map ofTests)).matchesAll groups text ↔
      ∃ ts ∈ tss, AcceptAll ts text.toList := by
  rw [choice_eq]
  cases hm : merged? (tss.map ofTests) with
  | none =>
    rw [Option.getD_none, matchesAll_ofAlternatives (by simpa using hne), List.any_map,
      List.any_eq_true]
    exact exists_congr fun ts => and_congr_right' (matchesAll_ofTests ts groups text)
  | some m => exact matchesAll_merged hm groups hsets

end Pattern

end Outline
