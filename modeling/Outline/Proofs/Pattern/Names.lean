import Outline.Proofs.Pattern.Bracketed
import Outline.Proofs.Pattern.Choice

set_option autoImplicit false

/-!
# Patterns that are lists of names

Letters, digits, underscores and hyphens stand for themselves in a pattern. Names of them with bars
between them are read as alternatives, and these match a whole text if one of the names equals it
character by character, up to case.
-/
namespace Outline

/-- A character that a name may have. -/
def PatternReader.isNameChar (c : Char) : Bool :=
  ('a' ≤ c && c ≤ 'z') || ('A' ≤ c && c ≤ 'Z') || ('0' ≤ c && c ≤ '9') || c == '_' || c == '-'

namespace PatternReader

def nameTests (flags : Flags) (name : List Char) : List CharTest :=
  name.map fun c => .literal flags.rule false c.toNat

/-- The pattern that a name is. -/
def namePattern (flags : Flags) (name : List Char) : Pattern := .ofTests (nameTests flags name)

def literalItem (flags : Flags) (c : Char) : Item := ⟨.other, literal flags c.toNat⟩

/-! ## Reading names -/

section Reading

variable {flags : Flags} {name : List Char} {c : Char}

theorem ne_of_isNameChar (hc : isNameChar c) {d : Char} (hd : isNameChar d = false) : c ≠ d := by
  rintro rfl
  simp [hd] at hc

theorem characterPiece_of_isNameChar [CharacterNames] (hverbose : flags.verbose = false)
    (hc : isNameChar c) (start : ℕ) :
    characterPiece flags start c = pure (.item (literalItem flags c)) := by
  have hne : ∀ {d : Char}, isNameChar d = false → (c == d) = false := fun hd =>
    beq_false_of_ne (ne_of_isNameChar hc hd)
  rw [characterPiece]
  simp only [hverbose, Bool.false_and, Bool.false_eq_true, if_false, @hne '[' (by decide),
    @hne '?' (by decide), @hne '*' (by decide), @hne '+' (by decide), @hne '{' (by decide),
    @hne '.' (by decide), @hne '^' (by decide), @hne '$' (by decide), @hne '(' (by decide),
    Bool.or_false]
  rfl

theorem next_of_isNameChar (hc : isNameChar c) {r : List Char} (hr : r ≠ ['\\']) {s : State}
    (hs : s.rest = c :: r) :
    next s = .ok (some (s.offset, .char c), { s with rest := r, offset := s.offset + 1 }) := by
  have hslash : c ≠ '\\' := ne_of_isNameChar hc (by decide)
  have hbar : c ≠ '|' := ne_of_isNameChar hc (by decide)
  have hclose : c ≠ ')' := ne_of_isNameChar hc (by decide)
  have htake : takeIf (!isEnd ·) s =
      .ok (some (.char c), { s with rest := r, offset := s.offset + 1 }) := by
    rw [takeIf_eq, if_pos]
    · exact take_cons hslash hr hs
    · rw [hs, tokenOf_cons_of_ne hslash]
      simp [isEnd, hbar, hclose]
  rw [next, tell, bind_assoc, get_bind, pure_bind]
  exact bind_of_ok htake _

/-- What stands behind a name: nothing, or a bar. -/
def EndsName (rest : List Char) : Prop := rest = [] ∨ ∃ more, rest = '|' :: more

theorem items_of_endsName [CharacterNames] {s : State} (hs : EndsName s.rest) (k : ℕ) (first : Bool)
    (found : List Item) : items (k + 1) first flags found s = .ok (found, s) := by
  have htake : takeIf (!isEnd ·) s = .ok (none, s) := by
    rw [takeIf_eq, if_neg]
    rcases hs with hs | ⟨more, hs⟩ <;> simp [hs, tokenOf, isEnd]
  have hnext : next s = .ok (none, s) := by
    rw [next, tell, bind_assoc, get_bind, pure_bind]
    exact bind_of_ok htake _
  rw [items]
  exact bind_of_ok hnext _

theorem append_ne_slash {rest : List Char} (hname : ∀ c ∈ name, isNameChar c)
    (hrest : EndsName rest) : name ++ rest ≠ ['\\'] := by
  cases name with
  | nil => rcases hrest with rfl | ⟨more, rfl⟩ <;> simp
  | cons c name =>
    intro h
    exact ne_of_isNameChar (List.forall_mem_cons.1 hname).1 (by decide) (List.cons.inj h).1

theorem items_name [CharacterNames] (hverbose : flags.verbose = false)
    (hname : ∀ c ∈ name, isNameChar c) {rest : List Char} (hrest : EndsName rest) {k : ℕ}
    (hk : name.length < k) (first : Bool) (found : List Item) {s : State}
    (hs : s.rest = name ++ rest) :
    items k first flags found s = .ok ((name.map (literalItem flags)).reverse ++ found,
      { s with rest := rest, offset := s.offset + name.length }) := by
  induction name generalizing k found s with
  | nil =>
    obtain ⟨k, rfl⟩ : ∃ n, k = n + 1 := ⟨k - 1, by omega⟩
    rw [List.nil_append] at hs
    subst hs
    exact items_of_endsName hrest k first found
  | cons c name ih =>
    obtain ⟨hc, hname⟩ := List.forall_mem_cons.1 hname
    obtain ⟨k, rfl⟩ : ∃ n, k = n + 1 := ⟨k - 1, by omega⟩
    have hpiece : ∀ t : State, piece flags s.offset (.char c) t =
        .ok (.item (literalItem flags c), t) := by
      intro t
      rw [piece, characterPiece_of_isNameChar hverbose hc]
      rfl
    rw [items]
    refine (bind_of_ok (next_of_isNameChar hc (append_ne_slash hname hrest) hs) _).trans
      ((bind_of_ok (hpiece _) _).trans ?_)
    refine (ih hname (by simpa using hk) (literalItem flags c :: found) rfl).trans ?_
    simp [Nat.add_assoc, Nat.add_comm 1]

theorem sequence_literalItems (flags : Flags) (name : List Char) :
    sequence ((name.map (literalItem flags)).reverse ++ []) = namePattern flags name := by
  simp [sequence, namePattern, nameTests, Pattern.ofTests, literalItem, literal,
    Function.comp_def]

variable {names : List (List Char)}

theorem exists_intercalate_eq_append (name : List Char) (names : List (List Char)) :
    ∃ rest, EndsName rest ∧ ['|'].intercalate (name :: names) = name ++ rest := by
  cases names with
  | nil => exact ⟨[], .inl rfl, by simp⟩
  | cons next names =>
    rw [List.intercalate_cons_cons, List.append_assoc]
    exact ⟨_, .inr ⟨_, rfl⟩, rfl⟩

theorem intercalate_ne_slash (hnames : ∀ name ∈ names, ∀ c ∈ name, isNameChar c) :
    ['|'].intercalate names ≠ ['\\'] := by
  cases names with
  | nil => simp
  | cons name names =>
    obtain ⟨rest, hrest, heq⟩ := exists_intercalate_eq_append name names
    rw [heq]
    exact append_ne_slash (hnames name (by simp)) hrest

theorem accept_bar {more : List Char} (hmore : more ≠ ['\\']) {s : State}
    (hs : s.rest = '|' :: more) :
    accept '|' s = .ok (true, { s with rest := more, offset := s.offset + 1 }) := by
  rw [accept_of_token (by rw [hs]; rfl)]
  exact bind_of_ok (take_cons (by decide) hmore hs) _

theorem alternatives_names [CharacterNames] (hne : names ≠ [])
    (hnames : ∀ name ∈ names, ∀ c ∈ name, isNameChar c) {s : State}
    (hverbose : s.flags.verbose = false) (hs : s.rest = ['|'].intercalate names) {k : ℕ}
    (hk : s.rest.length + 1 < k) (given : Flags) (found : List Pattern) :
    ∃ offset, alternatives k true given found s =
      .ok (.choice (found.reverse ++ names.map (namePattern s.flags)),
        { s with rest := [], offset := offset }) := by
  induction names generalizing s k given found with
  | nil => exact absurd rfl hne
  | cons name names ih =>
    obtain ⟨k, rfl⟩ : ∃ n, k = n + 1 := ⟨k - 1, by omega⟩
    obtain ⟨hname, hnames⟩ := List.forall_mem_cons.1 hnames
    rw [alternatives, get_bind]
    simp only [if_true]
    cases names with
    | nil =>
      rw [List.intercalate_singleton] at hs
      rw [hs] at hk
      have hitems := items_name hverbose hname (.inl rfl) (k := k) (by omega)
        (true && found.isEmpty) [] (s := s) (by rw [hs, List.append_nil])
      refine ⟨s.offset + name.length, (bind_of_ok hitems _).trans
        ((bind_of_ok (accept_of_ne (by simp [tokenOf])) _).trans ?_)⟩
      rw [sequence_literalItems, List.reverse_cons]
      rfl
    | cons next names =>
      have hmore := intercalate_ne_slash hnames
      rw [List.intercalate_cons_cons, List.append_assoc] at hs
      rw [hs, List.length_append, List.singleton_append, List.length_cons] at hk
      have hitems := items_name hverbose hname (.inr ⟨_, rfl⟩) (k := k) (by omega)
        (true && found.isEmpty) [] (s := s) hs
      obtain ⟨offset, halternatives⟩ := ih (by simp) hnames
        (s := { s with
          rest := ['|'].intercalate (next :: names)
          offset := s.offset + name.length + 1 })
        hverbose rfl (k := k) (by simp only; omega) s.flags (namePattern s.flags name :: found)
      refine ⟨offset, (bind_of_ok hitems _).trans ((bind_of_ok (accept_bar hmore rfl) _).trans ?_)⟩
      rw [sequence_literalItems]
      refine halternatives.trans ?_
      rw [List.reverse_cons, List.append_assoc]
      rfl

theorem lateFault?_seq (template : Bool) (a b : Pattern) :
    lateFault? template (.seq a b) = none ↔
      lateFault? template a = none ∧ lateFault? template b = none := by
  rw [lateFault?, Option.or_eq_none_iff]

theorem lateFault?_ofTests (template : Bool) (tests : List CharTest) :
    lateFault? template (.ofTests tests) = none := by
  refine Pattern.joined_induction (motive := fun p => lateFault? template p = none) rfl
    (fun a b ha hb => (lateFault?_seq template a b).2 ⟨ha, hb⟩) fun p hp => ?_
  obtain ⟨test, -, rfl⟩ := List.mem_map.1 hp
  rfl

theorem lateFault?_choice {template : Bool} {ps : List Pattern}
    (h : ∀ p ∈ ps, lateFault? template p = none) : lateFault? template (.choice ps) = none := by
  refine Pattern.choice_induction (motive := fun p => lateFault? template p = none) rfl
    (lateFault?_seq template) (fun a b ha hb => ?_) (fun _ _ _ _ _ => rfl) h
  rw [lateFault?, ha, hb]
  rfl

/-- Names with bars between them are a pattern without groups. -/
theorem read_names [CharacterNames] (hverbose : flags.verbose = false)
    (hkinds : flags.conflict = false) (hne : names ≠ [])
    (hnames : ∀ name ∈ names, ∀ c ∈ name, isNameChar c) {text : String}
    (htext : text.toList = ['|'].intercalate names) :
    Pattern.read flags text = .ok (.choice (names.map (namePattern flags)), 0) := by
  obtain ⟨offset, hread⟩ := alternatives_names hne hnames
    (s := { rest := text.toList, offset := 0, flags := flags }) hverbose htext
    (k := 4 * text.toList.length + 8) (by simp only; omega) flags []
  have hfault : lateFault? flags.template (.choice (names.map (namePattern flags))) = none := by
    refine lateFault?_choice fun p hp => ?_
    obtain ⟨name, -, rfl⟩ := List.mem_map.1 hp
    exact lateFault?_ofTests flags.template _
  have hfinish := @finish_of_nil (.choice (names.map (namePattern flags)))
    { rest := [], offset := offset, flags := flags } hkinds rfl
  rw [if_pos (by simp [isComplete, hfault])] at hfinish
  have hslash : text.toList ≠ ['\\'] := by
    rw [htext]
    exact intercalate_ne_slash hnames
  rw [read_pattern_eq, (whole_eq flags hslash).trans ((bind_of_ok hread finish).trans hfinish)]
  rfl

end Reading

end PatternReader

/-! ## Matching names -/

/-- The keys of a text's characters. -/
def CaseRule.keys (rule : CaseRule) (text : List Char) : List ℕ :=
  text.map fun c => rule.key c.toNat

namespace Pattern

open PatternReader

variable {flags : Flags}

theorem acceptAll_nameTests {name text : List Char} :
    AcceptAll (nameTests flags name) text ↔ flags.rule.keys text = flags.rule.keys name := by
  have haccepts : ∀ c d : Char, (CharTest.literal flags.rule false c.toNat).accepts d.toNat = true ↔
      flags.rule.key c.toNat = flags.rule.key d.toNat := by
    intro c d
    rw [CharTest.accepts, Bool.bne_false, beq_iff_eq, eq_comm]
  rw [AcceptAll, nameTests, List.forall₂_map_left_iff, eq_comm, CaseRule.keys, CaseRule.keys,
    ← List.forall₂_eq_eq_eq, List.forall₂_map_left_iff, List.forall₂_map_right_iff]
  simp only [haccepts]

theorem agreesWithSet_literal {rule : CaseRule} {code c : ℕ} (hcode : code < 0x10000)
    (hlower : rule.key (rule.lower c) = rule.key c) :
    (CharTest.literal rule false code).AgreesWithSet rule c := by
  rintro _ ⟨⟩
  refine ⟨rfl, ?_⟩
  simp only [CharTest.accepts, SetItem.holds, List.any_cons, List.any_nil, Bool.or_false, hcode,
    if_true, hlower]
  rw [Bool.beq_comm]

theorem matchesAll_names {names : List (List Char)} (hne : names ≠ [])
    (hnames : ∀ name ∈ names, ∀ c ∈ name, c.toNat < 0x10000) (groups : ℕ) {text : String}
    (htext : ∀ c ∈ text.toList,
      flags.rule.key (flags.rule.lower c.toNat) = flags.rule.key c.toNat) :
    (choice (names.map (namePattern flags))).matchesAll groups text ↔
      ∃ name ∈ names, flags.rule.keys text.toList = flags.rule.keys name := by
  have hsets : ∀ ts ∈ names.map (nameTests flags), ∀ test ∈ ts, ∀ c ∈ text.toList,
      test.AgreesWithSet flags.rule c.toNat := by
    intro ts hts test htest c hc
    obtain ⟨name, hname, rfl⟩ := List.mem_map.1 hts
    obtain ⟨d, hd, rfl⟩ := List.mem_map.1 htest
    exact agreesWithSet_literal (hnames name hname d hd) (htext c hc)
  have hmatches := matchesAll_choice (by simpa using hne) groups hsets
  rw [List.map_map] at hmatches
  refine hmatches.trans ?_
  simp [acceptAll_nameTests]

end Pattern

end Outline
