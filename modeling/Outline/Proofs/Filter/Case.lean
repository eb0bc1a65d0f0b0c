import Outline.Proofs.Filter.Names
import Outline.Proofs.Pattern.FoldsCase

set_option autoImplicit false

/-!
# Filters and the case of names

A filter does not tell apart names that differ in the case of ASCII letters only, unless its pattern
turns the flag `i` off. The matcher takes the same way through a text and through the text in lower
case: every test gives the same answer, and marks and offsets are the same.
-/
namespace Outline

/-! ## Single characters -/

theorem Text.caseClass_ne_nil (code : ℕ) : Text.caseClass code ≠ [] := by
  unfold Text.caseClass
  cases hfind : Text.caseClasses.find? (·.contains code) with
  | none => simp
  | some found =>
    have hmem := List.find?_some hfind
    rintro rfl
    simp at hmem

theorem CaseRule.lower_toLower {rule : CaseRule} (h : rule ≠ .exact) (c : Char) :
    rule.lower c.toLower.toNat = rule.lower c.toNat := by
  cases rule with
  | exact => exact absurd rfl h
  | ascii => exact Text.apply_toLower (g := CaseRule.ascii.lower) (by decide +kernel) c
  | full => exact Text.apply_toLower (g := CaseRule.full.lower) (by decide +kernel) c

theorem CaseRule.key_toLower {rule : CaseRule} (h : rule ≠ .exact) (c : Char) :
    rule.key c.toLower.toNat = rule.key c.toNat := by
  have hlower := lower_toLower h c
  cases rule with
  | exact => exact absurd rfl h
  | ascii => exact hlower
  | full =>
    rw [lower, lower] at hlower
    obtain ⟨first, rest, hclass⟩ :=
      List.exists_cons_of_ne_nil (Text.caseClass_ne_nil (Text.lowerCode c.toNat))
    rw [key, key, Text.caseKey, Text.caseKey, hlower, hclass]
    rfl

theorem CaseRule.variants_toLower {rule : CaseRule} (h : rule ≠ .exact) (c : Char) :
    rule.variants c.toLower.toNat = rule.variants c.toNat := by
  have hlower := lower_toLower h c
  cases rule with
  | exact => exact absurd rfl h
  | ascii =>
    rw [lower, lower] at hlower
    simp only [variants, hlower]
  | full =>
    rw [lower, lower] at hlower
    simp only [variants, Text.caseVariants, hlower]

theorem Category.word_holds_toLower (asciiOnly : Bool) (c : Char) :
    Category.word.holds asciiOnly c.toLower.toNat = Category.word.holds asciiOnly c.toNat := by
  cases asciiOnly with
  | true => exact Text.apply_toLower (g := Category.word.holds true) (by decide +kernel) c
  | false => exact Text.apply_toLower (g := Category.word.holds false) (by decide +kernel) c

theorem CharTest.accepts_toLower {test : CharTest} (h : test.foldsCase) (c : Char) :
    test.accepts c.toLower.toNat = test.accepts c.toNat := by
  cases test with
  | literal rule negated code =>
    rw [accepts, accepts, CaseRule.key_toLower (by simpa [foldsCase] using h)]
  | any acceptsNewline =>
    have hnewline : (c.toLower.toNat != 0x0A) = (c.toNat != 0x0A) :=
      Text.apply_toLower (g := (· != 0x0A)) (by decide) c
    rw [accepts, accepts, hnewline]
  | set rule negated items =>
    have hrule : rule ≠ .exact := by simpa [foldsCase] using h
    rw [accepts, accepts, CaseRule.lower_toLower hrule, CaseRule.variants_toLower hrule]

/-! ## Places -/

/-- The same place in the text in lower case. -/
def Place.lowered (p : Place) : Place :=
  { p with before := p.before.map Char.toLower, after := p.after.map Char.toLower }

namespace Place

theorem lowered_advance (p : Place) : p.lowered.advance = p.advance.lowered := by
  obtain ⟨before, after, offset, marks⟩ := p
  cases after <;> rfl

theorem lowered_rewind (p : Place) (n : ℕ) : p.lowered.rewind n = (p.rewind n).lowered := by
  simp [rewind, lowered, List.map_take, List.map_drop]

theorem span?_lowered (p : Place) (i : ℕ) : p.lowered.span? i = p.span? i := rfl

theorem head?_lowered_eq_newline (chars : List Char) :
    ((chars.map Char.toLower).head? == some '\n') = (chars.head? == some '\n') := by
  rw [Bool.eq_iff_iff]
  cases chars with
  | nil => rfl
  | cons c chars => simp [@Text.toLower_eq_iff_of_lt _ '\n' (by decide)]

theorem wordSides_lowered (p : Place) (asciiOnly : Bool) :
    p.lowered.wordSides asciiOnly = p.wordSides asciiOnly := by
  have hside : ∀ chars : List Char,
      (chars.map Char.toLower).head?.any (fun c => Category.word.holds asciiOnly c.toNat) =
        chars.head?.any fun c => Category.word.holds asciiOnly c.toNat := by
    intro chars
    cases chars with
    | nil => rfl
    | cons c chars => exact Category.word_holds_toLower asciiOnly c
  simp only [wordSides, lowered, hside]

theorem holds_lowered (p : Place) (a : Anchor) : p.lowered.holds a = p.holds a := by
  have hbefore : p.lowered.before = p.before.map Char.toLower := rfl
  have hafter : p.lowered.after = p.after.map Char.toLower := rfl
  have hlast : (p.after.map Char.toLower == ['\n']) = (p.after == ['\n']) := by
    rw [Bool.eq_iff_iff, beq_iff_eq, beq_iff_eq, Text.map_toLower_eq_singleton_iff (by decide)]
  cases a <;> simp only [holds, wordSides_lowered, hbefore, hafter, head?_lowered_eq_newline,
    List.isEmpty_map, hlast]

end Place

/-! ## Matching -/

namespace Pattern

/-- Two ways to go on agree on a text and on the text in lower case. -/
def Agree (follow follow' : Follow) : Prop :=
  ∀ q : Place, follow' q.lowered = (follow q).map Place.lowered

/-- Two ways to match agree if what follows them does. -/
def AgreeOn (step step' : Step) : Prop :=
  ∀ p follow follow', Agree follow follow' →
    step' p.lowered follow' = (step p follow).map Place.lowered

theorem agree_some : Agree some some := fun _ => rfl

theorem agree_greedyRounds {body body' : Step} (hbody : AgreeOn body body')
    {follow follow' : Follow} (hfollow : Agree follow follow') (least : ℕ) (most : Option ℕ)
    (fuel count : ℕ) (last : Option ℕ) :
    Agree (greedyRounds body follow least most fuel count last)
      (greedyRounds body' follow' least most fuel count last) := by
  induction fuel generalizing count last with
  | zero => exact fun _ => rfl
  | succ fuel ih =>
    intro q
    have hoffset : q.lowered.offset = q.offset := rfl
    rw [greedyRounds, greedyRounds, hoffset]
    split_ifs with hleast hmore
    · exact hbody q _ _ (ih _ _)
    · rw [hbody q _ _ (ih _ _), hfollow q]
      cases body q (greedyRounds body follow least most fuel (count + 1) (some q.offset)) <;> rfl
    · exact hfollow q

theorem agree_lazyRounds {body body' : Step} (hbody : AgreeOn body body')
    {follow follow' : Follow} (hfollow : Agree follow follow') (least : ℕ) (most : Option ℕ)
    (fuel count : ℕ) (last : Option ℕ) :
    Agree (lazyRounds body follow least most fuel count last)
      (lazyRounds body' follow' least most fuel count last) := by
  induction fuel generalizing count last with
  | zero => exact fun _ => rfl
  | succ fuel ih =>
    intro q
    have hoffset : q.lowered.offset = q.offset := rfl
    rw [lazyRounds, lazyRounds, hoffset, hfollow q]
    split_ifs with hleast hmore
    · exact hbody q _ _ (ih _ _)
    · cases follow q with
      | some result => rfl
      | none => exact hbody q _ _ (ih _ _)
    · cases follow q <;> rfl

theorem agree_possessiveRounds {body body' : Step} (hbody : AgreeOn body body')
    {follow follow' : Follow} (hfollow : Agree follow follow') (least : ℕ) (most : Option ℕ)
    (fuel count : ℕ) (last : Option ℕ) :
    Agree (possessiveRounds body follow least most fuel count last)
      (possessiveRounds body' follow' least most fuel count last) := by
  induction fuel generalizing count last with
  | zero => exact fun _ => rfl
  | succ fuel ih =>
    intro q
    have hoffset : q.lowered.offset = q.offset := rfl
    rw [possessiveRounds, possessiveRounds, hoffset, hbody q some some agree_some]
    split_ifs with hleast hmore
    · cases body q some with
      | none => rfl
      | some next => exact ih _ _ next
    · cases body q some with
      | none => exact hfollow q
      | some next => exact ih _ _ next
    · exact hfollow q

theorem agreeOn_rounds {body body' : Step} (hbody : AgreeOn body body') (greed : Greed)
    (least : ℕ) (most : Option ℕ) :
    AgreeOn (rounds greed body least most) (rounds greed body' least most) := by
  intro p follow follow' hfollow
  have hlength : p.lowered.after.length = p.after.length := List.length_map _
  simp only [rounds, hlength]
  cases greed with
  | greedy => exact agree_greedyRounds hbody hfollow _ _ _ _ _ p
  | lazy => exact agree_lazyRounds hbody hfollow _ _ _ _ _ p
  | possessive => exact agree_possessiveRounds hbody hfollow _ _ _ _ _ p

theorem matchText_lowered {rule : CaseRule} (h : rule ≠ .exact) (chars : List Char) (p : Place) :
    matchText rule (chars.map Char.toLower) p.lowered =
      (matchText rule chars p).map Place.lowered := by
  induction chars generalizing p with
  | nil => rfl
  | cons c chars ih =>
    have hafter : p.lowered.after = p.after.map Char.toLower := rfl
    rw [List.map_cons, matchText, matchText, hafter]
    cases p.after with
    | nil => rfl
    | cons d rest =>
      simp only [List.map_cons, CaseRule.lower_toLower h, Place.lowered_advance, ih]
      split_ifs <;> rfl

/-- A pattern that folds case goes the same way through a text and the text in lower case. -/
theorem agreeOn_run (text : List Char) {pattern : Pattern} (h : pattern.foldsCase) :
    AgreeOn (run text pattern) (run (text.map Char.toLower) pattern) := by
  induction pattern with
  | empty => exact fun p follow follow' hfollow => hfollow p
  | one test =>
    intro p follow follow' hfollow
    have hafter : p.lowered.after = p.after.map Char.toLower := rfl
    rw [run, run, hafter]
    cases p.after with
    | nil => rfl
    | cons c rest =>
      simp only [List.map_cons, CharTest.accepts_toLower h, Place.lowered_advance,
        hfollow p.advance]
      split_ifs <;> rfl
  | anchor a =>
    intro p follow follow' hfollow
    rw [run, run, Place.holds_lowered, hfollow p]
    split_ifs <;> rfl
  | seq a b iha ihb =>
    intro p follow follow' hfollow
    rw [foldsCase, Bool.and_eq_true] at h
    exact iha h.1 p _ _ fun q => ihb h.2 q _ _ hfollow
  | alt a b iha ihb =>
    intro p follow follow' hfollow
    rw [foldsCase, Bool.and_eq_true] at h
    rw [run, run, iha h.1 p _ _ hfollow, ihb h.2 p _ _ hfollow]
    cases run text a p follow <;> rfl
  | group i body ih =>
    intro p follow follow' hfollow
    exact ih h (p.mark (2 * i)) _ _ fun q => hfollow (q.mark (2 * i + 1))
  | loop greed least most body ih =>
    exact agreeOn_rounds (ih h) greed least most
  | backref i rule width =>
    -- the group spans the same offsets, between which the text is in lower case
    intro p follow follow' hfollow
    have hrule : rule ≠ .exact := by simpa [foldsCase] using h
    rw [run, run, Place.span?_lowered]
    cases p.span? i with
    | none => rfl
    | some span =>
      simp only [← List.map_drop, ← List.map_take, matchText_lowered hrule]
      cases matchText rule ((text.drop span.1).take (span.2 - span.1)) p with
      | none => rfl
      | some q => exact hfollow q
  | cond i present absent ihpresent ihabsent =>
    intro p follow follow' hfollow
    rw [foldsCase, Bool.and_eq_true] at h
    rw [run, run, Place.span?_lowered]
    split_ifs
    · exact ihpresent h.1 p _ _ hfollow
    · exact ihabsent h.2 p _ _ hfollow
  | look negative behind body ih =>
    -- of what has been found only the marks are used, and they are the same
    intro p follow follow' hfollow
    have hfound : (if p.lowered.offset < behind.elim 0 (·.least) then none
        else run (text.map Char.toLower) body (p.lowered.rewind (behind.elim 0 (·.least))) some) =
        (if p.offset < behind.elim 0 (·.least) then none
          else run text body (p.rewind (behind.elim 0 (·.least))) some).map Place.lowered := by
      rw [Place.lowered_rewind, ih h _ some some agree_some]
      have hoffset : p.lowered.offset = p.offset := rfl
      rw [hoffset]
      split_ifs <;> rfl
    simp only [run, hfound]
    cases (if p.offset < behind.elim 0 (·.least) then none
      else run text body (p.rewind (behind.elim 0 (·.least))) some) with
    | none =>
      cases negative with
      | false => rfl
      | true => exact hfollow p
    | some q =>
      cases negative with
      | false => exact hfollow { p with marks := q.marks }
      | true => rfl
  | atomic body ih =>
    intro p follow follow' hfollow
    rw [run, run, ih h p some some agree_some]
    cases run text body p some with
    | none => rfl
    | some q => exact hfollow q
  | flagged body ih => exact ih h

theorem matchesAll_asciiLower {pattern : Pattern} (h : pattern.foldsCase) (groups : ℕ)
    (text : String) :
    pattern.matchesAll groups (Text.asciiLower text) = pattern.matchesAll groups text := by
  have hend : Agree (fun p => if p.after.isEmpty then some p else none)
      (fun p => if p.after.isEmpty then some p else none) := by
    intro q
    have hafter : q.lowered.after.isEmpty = q.after.isEmpty := List.isEmpty_map
    simp only [hafter]
    split_ifs <;> rfl
  have hrun := agreeOn_run text.toList h (Place.start text.toList groups) _ _ hend
  rw [matchesAll, matchesAll, Text.asciiLower, String.toList_ofList]
  exact (congrArg Option.isSome hrun).trans Option.isSome_map

end Pattern

/-! ## Filters -/

theorem Path.cut_map_toLower (s : List Char) :
    cut (s.map Char.toLower) = (cut s).map (List.map Char.toLower) := by
  induction s with
  | nil => rfl
  | cons c s ih =>
    rw [List.map_cons, cut, cut, ih]
    simp only [@Text.toLower_eq_iff_of_lt _ '/' (by decide)]
    split_ifs
    · rfl
    · cases cut s <;> rfl

theorem Path.steps_asciiLower (path : String) :
    steps (Text.asciiLower path) = (steps path).map Text.asciiLower := by
  have hempty : ((fun piece : List Char => !piece.isEmpty) ∘ List.map Char.toLower) =
      fun piece => !piece.isEmpty := by
    funext piece
    simp
  rw [steps, steps, Text.asciiLower, String.toList_ofList, cut_map_toLower, List.filter_map, hempty,
    List.map_map, List.map_map]
  refine List.map_congr_left fun piece _ => ?_
  simp [Text.asciiLower]

namespace Filter

open PatternReader

theorem foldsCase_of_read [CharacterNames] {text : String} {f : Filter} (h : read text = .ok f)
    (hcase : turnsCaseOff text.toList = false) : f.pattern.foldsCase := by
  unfold read at h
  split_ifs at h
  rw [read_pattern_eq, toList_wrap] at h
  split at h
  · rename_i hread
    cases h
    split at hread
    · rename_i hwhole
      cases hread
      exact foldsCase_of_turnsCaseOff rfl rfl hcase hwhole
    · cases hread
  · cases h

theorem ignoresPath_asciiLower {f : Filter} (h : f.pattern.foldsCase) (path : String) :
    f.ignoresPath (Text.asciiLower path) = f.ignoresPath path := by
  have hdot : Text.asciiLower path = "." ↔ path = "." := by
    rw [← String.toList_inj, ← String.toList_inj, Text.asciiLower, String.toList_ofList]
    exact Text.map_toLower_eq_singleton_iff (by decide) _
  have hbne : (Text.asciiLower path != ".") = (path != ".") := by
    rw [Bool.eq_iff_iff, bne_iff_ne, bne_iff_ne, ne_eq, ne_eq, hdot]
  rw [ignoresPath, ignoresPath, hbne, Path.steps_asciiLower, List.any_map]
  congr 2
  funext name
  exact Pattern.matchesAll_asciiLower h _ _

/-- Unless its pattern turns the flag `i` off, a filter ignores names and paths whatever the case of
their ASCII letters. -/
theorem ignores_whatever_ascii_case [CharacterNames] {text : String} {f : Filter}
    (h : read text = .ok f) (hcase : turnsCaseOff text.toList = false) :
    (∀ s t, Text.asciiLower s = Text.asciiLower t → f.ignores s = f.ignores t) ∧
      ∀ p q, Text.asciiLower p = Text.asciiLower q → f.ignoresPath p = f.ignoresPath q := by
  have hfolds := foldsCase_of_read h hcase
  constructor
  · intro s t hst
    calc
      f.ignores s = f.ignores (Text.asciiLower s) :=
        (Pattern.matchesAll_asciiLower hfolds _ _).symm
      _ = f.ignores t := by rw [hst]; exact Pattern.matchesAll_asciiLower hfolds _ _
  · intro p q hpq
    rw [← ignoresPath_asciiLower hfolds p, hpq, ignoresPath_asciiLower hfolds q]

/-- The pattern shows such flags in a set, in comments and behind a backslash. -/
theorem ignores_whatever_ascii_case_obj : ∃ f,
    read "(o)bj[(?-i:A-C]?\\1(?#(?-i:x)|(?x: n # (?-i:n)\n )|\\(?-i" = .ok f ∧
      f.ignores "OBJo" ∧ f.ignores "objO" ∧ f.ignoresPath "src/N" ∧ f.ignoresPath "SRC/n" := by
  obtain ⟨f, hf⟩ : ∃ f,
      read "(o)bj[(?-i:A-C]?\\1(?#(?-i:x)|(?x: n # (?-i:n)\n )|\\(?-i" = .ok f :=
    Except.exists_eq_ok (by decide +kernel)
  have hsome : (read "(o)bj[(?-i:A-C]?\\1(?#(?-i:x)|(?x: n # (?-i:n)\n )|\\(?-i").toOption.all
      fun f => f.ignores "OBJo" && f.ignoresPath "src/N" := by decide +kernel
  rw [hf, Except.toOption, Option.all_some, Bool.and_eq_true] at hsome
  obtain ⟨hname, hpath⟩ := ignores_whatever_ascii_case hf (by decide +kernel)
  refine ⟨f, hf, hsome.1, ?_, hsome.2, ?_⟩
  · rw [← hname "OBJo" "objO" (by decide)]
    exact hsome.1
  · rw [← hpath "src/N" "SRC/n" (by decide)]
    exact hsome.2

end Filter
end Outline
