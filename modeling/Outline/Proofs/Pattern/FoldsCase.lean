import Outline.Proofs.Pattern.CaseSwitch
import Outline.Proofs.Pattern.Choice

set_option autoImplicit false

/-!
# Reading without regard to case

Whatever is read with the flag `i` on ignores case, as long as no group turns the flag off. The
proof goes along with the reader, which stands at the place that the text so far leads to.
-/
namespace Outline.PatternReader

variable {given flags : Flags} {p : Spot}

/-! ## Repetition -/

theorem yields_digits (n : ℕ) :
    Yields (At given (p.within .items)) (takeWhile Char.isDigit n)
      fun _ => At given (p.within .items) :=
  yields_takeWhile (fun c hc => passesDigits_items p c (isHexDigit_of_isDigit hc)) n

theorem yields_boundDigits (n : ℕ) :
    Yields (At given (p.within .items)) (boundDigits n) fun _ => At given (p.within .items) :=
  (yields_digits n).bind fun _ => .acceptPlain (step_items_of_isPlain p rfl) fun _ =>
    .ite (fun _ => (yields_digits n).bind fun _ => .pure fun _ hs => hs)
      fun _ => .pure fun _ hs => hs

theorem yields_closedDigits (n : ℕ) :
    Yields (At given (p.within .items)) (closedDigits n) fun _ => At given (p.within .items) :=
  (yields_boundDigits n).bind fun _ => .acceptPlain (step_items_of_isPlain p rfl) fun _ =>
    .ite (fun _ => .pure fun _ hs => hs) fun _ => .pure fun _ hs => hs

theorem yields_repetitionNumber (digits : List Char) :
    Yields (At given p) (repetitionNumber digits) fun _ => At given p :=
  .ite (fun _ => .of_fails (fails_throw _)) fun _ =>
    .ite (fun _ => .of_fails (fails_throw _)) fun _ => .pure fun _ hs => hs

theorem yields_boundsOf (start : ℕ) (low high : List Char) :
    Yields (At given p) (boundsOf start low high) fun _ => At given p := by
  have hlower : Yields (At given p) (lowerBound low) fun _ => At given p :=
    .ite (fun _ => .pure fun _ hs => hs) fun _ => yields_repetitionNumber low
  refine hlower.bind fun least => .ite (fun _ => .pure fun _ hs => hs) fun _ => ?_
  exact (yields_repetitionNumber high).bind fun most =>
    .ite (fun _ => .failAt _ _) fun _ => .pure fun _ hs => hs

theorem yields_braces :
    Yields (At given (p.within .items)) braces fun _ => At given (p.within .items) := by
  intro s t x hs h
  rw [braces_eq] at h
  split_ifs at h
  · cases h
    exact hs
  obtain ⟨digits, u, hu, hbounds⟩ := bind_eq_ok h
  have hat := yields_closedDigits _ hs hu
  cases digits with
  | none =>
    -- the reader goes back to where it started
    obtain ⟨_, w, hw, hpure⟩ := bind_eq_ok hbounds
    cases hpure
    rw [moveTo_eq_ok hw]
    exact ⟨hat.1, hs.2⟩
  | some digits =>
    obtain ⟨b, w, hw, hpure⟩ := bind_eq_ok hbounds
    cases hpure
    exact yields_boundsOf _ _ _ hat hw

theorem yields_bounds {c : Char} (hc : c = '?' ∨ c = '*' ∨ c = '+' ∨ c = '{') :
    Yields (At given (p.within .items)) (bounds c) fun _ => At given (p.within .items) := by
  rcases hc with rfl | rfl | rfl | rfl
  · exact .pure fun _ hs => hs
  · exact .pure fun _ hs => hs
  · exact .pure fun _ hs => hs
  · exact yields_braces

theorem yields_greed :
    Yields (At given (p.within .items)) greed fun _ => At given (p.within .items) := by
  refine .acceptPlain (step_items_of_isPlain p rfl) fun _ => ?_
  refine .ite (fun _ => .pure fun _ hs => hs) fun _ => ?_
  refine .acceptPlain (step_items_of_isPlain p rfl) fun _ => ?_
  exact .ite (fun _ => .pure fun _ hs => hs) fun _ => .pure fun _ hs => hs

def FoldAll (found : List Item) : Prop := ∀ item ∈ found, item.pattern.foldsCase

theorem FoldAll.cons {item : Item} {found : List Item} (hitem : item.pattern.foldsCase)
    (h : FoldAll found) : FoldAll (item :: found) :=
  List.forall_mem_cons.2 ⟨hitem, h⟩

theorem yields_repeatItem (start : ℕ) (b : Bounds) {found : List Item} (h : FoldAll found) :
    Yields (At given (p.within .items)) (repeatItem start b found)
      fun done s => (FoldAll done ∧ done ≠ []) ∧ At given (p.within .items) s := by
  unfold repeatItem
  split
  · exact .failAt _ _
  · rename_i item before
    obtain ⟨hitem, hbefore⟩ := List.forall_mem_cons.1 h
    split
    · exact .failAt _ _
    · exact .failAt _ _
    · refine yields_greed.bind fun greed => .pure fun _ hs => ⟨⟨?_, List.cons_ne_nil _ _⟩, hs⟩
      exact .cons hitem hbefore

theorem foldsCase_seq (a b : Pattern) :
    (Pattern.seq a b).foldsCase ↔ a.foldsCase ∧ b.foldsCase := by
  rw [Pattern.foldsCase, Bool.and_eq_true]

theorem foldsCase_ofList {patterns : List Pattern} (h : ∀ q ∈ patterns, q.foldsCase) :
    (Pattern.ofList patterns).foldsCase :=
  Pattern.joined_induction (motive := fun q => q.foldsCase) rfl
    (fun a b ha hb => (foldsCase_seq a b).2 ⟨ha, hb⟩) h

theorem foldsCase_choice {patterns : List Pattern} (h : ∀ q ∈ patterns, q.foldsCase) :
    (Pattern.choice patterns).foldsCase := by
  refine Pattern.choice_induction (motive := fun q => q.foldsCase) rfl foldsCase_seq
    (fun a b ha hb => ?_) (fun test own items htest hitems => ?_) h
  · rw [Pattern.foldsCase, ha, hb]
    rfl
  · -- the set compares as the test does
    cases test with
    | any acceptsNewline => cases hitems
    | literal rule negated code =>
      cases negated <;> cases hitems
      exact htest
    | set rule negated items =>
      cases negated <;> cases hitems
      exact htest

theorem FoldAll.sequence {found : List Item} (h : FoldAll found) : (sequence found).foldsCase := by
  refine foldsCase_ofList fun q hq => ?_
  obtain ⟨item, hitem, rfl⟩ := List.mem_map.1 hq
  exact h item (List.mem_reverse.1 hitem)

/-! ## Inline flags -/

theorem verbose_set (value : Bool) (flags : Flags) (c : Char) :
    (flags.set value c).verbose = if c = 'x' then value else flags.verbose := by
  unfold Flags.set
  split <;> simp_all

theorem ignoreCase_set (value : Bool) (flags : Flags) (c : Char) :
    (flags.set value c).ignoreCase = if c = 'i' then value else flags.ignoreCase := by
  unfold Flags.set
  split <;> simp_all

/-- What inline flags do to a flag with a letter of its own. -/
theorem apply_applyFlags {g : Flags → Bool} {letter : Char}
    (h : ∀ value flags c, g (Flags.set value flags c) = if c = letter then value else g flags)
    (flags : Flags) (on off : List Char) :
    g (applyFlags flags on off) =
      if letter ∈ off then false else if letter ∈ on then true else g flags := by
  have hfold : ∀ (value : Bool) (letters : List Char) (flags : Flags),
      g (letters.foldl (Flags.set value) flags) = if letter ∈ letters then value else g flags := by
    intro value letters
    induction letters with
    | nil => exact fun _ => rfl
    | cons c letters ih =>
      intro flags
      rw [List.foldl_cons, ih, h]
      by_cases hc : c = letter
      · simp [hc]
      · simp [hc, Ne.symm hc]
  rw [applyFlags, hfold, hfold]

theorem verbose_applyFlags_off (flags : Flags) (on off : List Char) (c : Char) :
    (applyFlags flags on (c :: off)).verbose =
      if c = 'x' then !true else (applyFlags flags on off).verbose := by
  simp only [apply_applyFlags (g := Flags.verbose) verbose_set, List.mem_cons, @eq_comm _ 'x' c]
  by_cases hc : c = 'x' <;> simp [hc]

theorem verbose_applyFlags_on (flags : Flags) (on : List Char) (c : Char) :
    (applyFlags flags (c :: on) []).verbose =
      if c = 'x' then !false else (applyFlags flags on []).verbose := by
  simp only [apply_applyFlags (g := Flags.verbose) verbose_set, List.mem_cons, List.not_mem_nil,
    if_false, @eq_comm _ 'x' c]
  by_cases hc : c = 'x' <;> simp [hc]

theorem ignoreCase_applyFlags (hflags : flags.ignoreCase) (on : List Char) {off : List Char}
    (hoff : 'i' ∉ off) : (applyFlags flags on off).ignoreCase := by
  rw [apply_applyFlags (g := Flags.ignoreCase) ignoreCase_set, if_neg hoff, hflags, ite_self]

theorem ignoreCase_scopedFlags (hflags : flags.ignoreCase) (on : List Char) {off : List Char}
    (hoff : 'i' ∉ off) : (scopedFlags flags on off).ignoreCase := by
  refine ignoreCase_applyFlags ?_ on hoff
  split_ifs <;> exact hflags

theorem verbose_scopedFlags (flags : Flags) (on off : List Char) :
    (scopedFlags flags on off).verbose = (applyFlags flags on off).verbose := by
  rw [scopedFlags, apply_applyFlags (g := Flags.verbose) verbose_set,
    apply_applyFlags (g := Flags.verbose) verbose_set]
  split_ifs <;> rfl

theorem ne_of_isFlag {c d : Char} (hc : isFlag c) (hd : isFlag d = false) : c ≠ d := by
  rintro rfl
  rw [hc] at hd
  cases hd

theorem step_flags {q : Spot} {off verbose : Bool} {c : Char} (hc : isFlag c)
    (h : (p.within (.flags off verbose)).step (.char c) = some q) :
    (off → c ≠ 'i') ∧ q = p.within (.flags off (if c = 'x' then !off else verbose)) := by
  have hflag : (Token.char c).isChar isFlag = true := hc
  have hcolon := ne_of_isFlag hc (d := ':') rfl
  have hclose := ne_of_isFlag hc (d := ')') rfl
  have hminus := ne_of_isFlag hc (d := '-') rfl
  change (p.within (.flags off verbose)).behindFlag off verbose (.char c) = some q at h
  simp only [Spot.behindFlag, Token.char.injEq, hcolon, hclose, hminus, hflag, decide_false,
    Bool.false_and, Bool.false_eq_true, if_false, if_true] at h
  generalize (if c = 'x' then !off else verbose) = verbose' at h ⊢
  split_ifs at h with hi
  cases h
  refine ⟨fun hoff => ?_, rfl⟩
  simpa [hoff] using hi

/-- After inline flags: the flag `i` has not been turned off, and those for a group lead into it. -/
def AfterFlags (given flags : Flags) (p : Spot) : FlagChange → State → Prop
  | .global _, _ => True
  | .scoped on off, s =>
    'i' ∉ off ∧ At given (p.enter .items (applyFlags flags on off).verbose) s

theorem yields_flagsOff (on : List Char) (n : ℕ) {off : List Char} {c : Char}
    (hoff : 'i' ∉ c :: off) :
    Yields (At given (p.within (.flags true (applyFlags flags on (c :: off)).verbose)))
      (flagsOff on n off c) (AfterFlags given flags p) := by
  induction n generalizing off c with
  | zero => exact .failBack _ _
  | succ n ih =>
    refine .ite (fun _ => .failBack _ _) fun _ => .take (.failBack _ _) fun k q hq => ?_
    split
    · exact .failBack _ _
    · rename_i heq
      cases heq
      cases hq
      exact .ite (fun _ => .failBack _ _) fun _ => .ite (fun _ => .failBack _ _) fun _ =>
        .pure fun _ hs => ⟨hoff, hs⟩
    · rename_i heq
      cases heq
      split
      · rename_i d _
        refine .ite (fun hd => ?_) fun _ => .failBack _ _
        obtain ⟨hi, rfl⟩ := step_flags hd hq
        rw [← verbose_applyFlags_off]
        exact ih (List.not_mem_cons_of_ne_of_not_mem (hi rfl).symm hoff)
      · exact .failBack _ _

theorem yields_flagsAfterMinus (on : List Char) :
    Yields (At given (p.within (.flags true (applyFlags flags on []).verbose)))
      (flagsAfterMinus on) (AfterFlags given flags p) := by
  refine .ite (fun _ => .failBack _ _) fun _ => .take (.failBack _ _) fun k q hq => ?_
  cases k with
  | escape d => exact .failBack _ _
  | char d =>
    refine .ite (fun hd => .get fun s => ?_) fun _ => .failBack _ _
    obtain ⟨hi, rfl⟩ := step_flags hd hq
    rw [← verbose_applyFlags_off]
    exact yields_flagsOff on _ (List.not_mem_cons_of_ne_of_not_mem (hi rfl).symm List.not_mem_nil)

theorem yields_flagsOn (n : ℕ) (on : List Char) (c : Char) :
    Yields (At given (p.within (.flags false (applyFlags flags (c :: on) []).verbose)))
      (flagsOn n on c) (AfterFlags given flags p) := by
  induction n generalizing on c with
  | zero => exact .failBack _ _
  | succ n ih =>
    unfold flagsOn
    refine .ite (fun _ => .failBack _ _) fun _ => .ite (fun _ => .failBack _ _) fun _ => ?_
    refine .take (.failBack _ _) fun k q hq => ?_
    split
    · exact .failBack _ _
    · exact .pure fun _ _ => trivial
    · rename_i heq
      cases heq
      cases hq
      exact yields_flagsAfterMinus _
    · rename_i heq
      cases heq
      cases hq
      exact .ite (fun _ => .failBack _ _) fun _ => .pure fun _ hs => ⟨List.not_mem_nil, hs⟩
    · rename_i heq
      cases heq
      split
      · rename_i d _ _ _
        refine .ite (fun hd => ?_) fun _ => .failBack _ _
        obtain ⟨-, rfl⟩ := step_flags hd hq
        rw [← verbose_applyFlags_on]
        exact ih _ _
      · exact .failBack _ _

/-- Behind a question mark a flag counts as one among flags. -/
theorem step_extension_of_isFlag {c : Char} (hc : isFlag c || c == '-') :
    (p.within .extension).step (.char c) = (p.within (.flags false p.verbose)).step (.char c) := by
  have hne : ∀ d, (isFlag d || d == '-') = false → c ≠ d := by
    rintro d hd rfl
    rw [hc] at hd
    cases hd
  change (p.within .extension).behindExtension (.char c) = _
  simp only [Spot.behindExtension, Token.char.injEq, hne '#' rfl, hne 'P' rfl, hne '(' rfl,
    if_false, Token.isChar, hc, if_true]
  rfl

theorem yields_inlineFlags (hverbose : flags.verbose = p.verbose) {c : Char}
    (hc : isFlag c || c == '-') {q : Spot} (hq : (p.within .extension).step (.char c) = some q) :
    Yields (At given q) (inlineFlags c) (AfterFlags given flags p) := by
  rw [step_extension_of_isFlag hc] at hq
  refine .ite (fun hminus => ?_) fun hminus => .get fun s => ?_
  · rw [beq_iff_eq] at hminus
    subst hminus
    cases hq
    rw [← hverbose]
    exact yields_flagsAfterMinus []
  · have hflag : isFlag c := by simpa [hminus] using hc
    obtain ⟨-, rfl⟩ := step_flags hflag hq
    have hon := verbose_applyFlags_on flags [] c
    rw [show (applyFlags flags [] []).verbose = p.verbose from hverbose] at hon
    rw [← hon]
    exact yields_flagsOn _ _ _

/-! ## Brackets -/

theorem yields_namedReference (hflags : flags.ignoreCase) :
    Yields (At given (p.within (.skipped ')' .items))) (namedReference flags)
      (Folded given p) := by
  refine (yields_nameUntil _ _).bind fun name => (yields_checkGroupName name).bind fun _ => ?_
  refine .get fun s => ?_
  split
  · exact .failBack _ _
  · exact yields_reference hflags _ _

theorem yields_conditionIndex (name : String) :
    Yields (At given p) (conditionIndex name) fun _ => At given p := by
  refine .ite (fun _ => .get fun s => ?_) fun _ => ?_
  · cases s.names.lookup name with
    | none => exact .failBack _ _
    | some index => exact .pure fun _ hs => hs
  · split
    · refine .ite (fun _ => .failBack _ _) fun _ => .ite (fun _ => .failBack _ _) fun _ => ?_
      refine Yields.bind (.modify fun s hs => ?_) fun _ => .pure fun _ hs => hs
      split_ifs
      · exact hs
      · exact hs
    · exact .failBack _ _

theorem yields_conditionGroup :
    Yields (At given (p.within (.skipped ')' .items))) conditionGroup
      fun _ => At given (p.within .items) :=
  (yields_nameUntil _ _).bind fun name => (yields_conditionIndex name).bind fun index =>
    (yields_checkLookBehind index).bind fun _ => .pure fun _ hs => hs

theorem yields_openGroup (name : Option String) :
    Yields (At given p) (openGroup name) fun _ => At given p := by
  refine .get fun s => ?_
  split
  · exact Yields.bind (.modify fun _ hs => hs) fun _ => .pure fun _ hs => hs
  · refine .get fun s => ?_
    split
    · exact .failBack _ _
    · exact Yields.bind (.modify fun _ hs => hs) fun _ => .pure fun _ hs => hs

theorem yields_closeGroup (index : ℕ) (body : Pattern) :
    Yields (At given p) (closeGroup index body) fun _ => At given p :=
  .modify fun _ hs => hs

/-- After the opening of a group, inside of it. -/
def AfterOpening (given : Flags) (p : Spot) : Opening → State → Prop
  | .flagged flags, s => flags.ignoreCase ∧ At given (p.enter .items flags.verbose) s
  | .condition, s => At given (p.enter (.skipped ')' .items) p.verbose) s
  | .reference, _ | .comment, _ | .global _, _ => False
  | _, s => At given (p.enter .items p.verbose) s

/-- After a question mark and what belongs to it. -/
def AfterExtension (given : Flags) (p : Spot) : Opening → State → Prop
  | .reference, s | .comment, s => At given (p.within (.skipped ')' .items)) s
  | .global _, _ => True
  | opening, s => AfterOpening given p opening s

theorem yields_extension (hflags : flags.ignoreCase) (hverbose : flags.verbose = p.verbose) :
    Yields (At given (p.within .extension)) (extension flags) (AfterExtension given p) := by
  refine .take (.failBack _ _) fun k q hq => ?_
  dsimp only
  split
  · cases hq
    have hname : Yields (At given (p.enter (.skipped '>' .items) p.verbose))
        (nameUntil '>' "group name") fun _ => At given (p.enter .items p.verbose) :=
      @yields_nameUntil given (p.enter .items p.verbose) _ _ _
    refine .accept rfl ?_ ?_
    · exact hname.bind fun name => (yields_checkGroupName name).bind fun _ =>
        .pure fun _ hs => hs
    · refine .of_imp ?_ fun _ hs => hs.1
      refine .accept rfl (.pure fun _ hs => hs) (.of_imp ?_ fun _ hs => hs.1)
      exact .take (.failBack _ _) fun _ _ _ => .failBack _ _
  · cases hq
    exact .pure fun _ hs => hs
  · cases hq
    exact .pure fun _ hs => hs
  · cases hq
    exact .pure fun _ hs => hs
  · cases hq
    exact .pure fun _ hs => hs
  · cases hq
    refine .take (.failBack _ _) fun l q hq => ?_
    split
    · exact .failBack _ _
    · rename_i heq
      cases heq
      cases hq
      exact .pure fun _ hs => hs
    · rename_i heq
      cases heq
      cases hq
      exact .pure fun _ hs => hs
    · exact .failBack _ _
  · cases hq
    exact .pure fun _ hs => hs
  · cases hq
    exact .pure fun _ hs => hs
  · refine .ite (fun hc => (yields_inlineFlags hverbose hc hq).bind fun change => ?_)
      fun _ => .failBack _ _
    cases change with
    | global on => exact .pure fun _ _ => trivial
    | _ on off =>
      refine .pure fun _ hs => ⟨ignoreCase_scopedFlags hflags on hs.1, ?_⟩
      rw [verbose_scopedFlags]
      exact hs.2
  · exact .failBack _ _

theorem yields_close (start : ℕ) (verbose : Bool) :
    Yields (At given (p.enter .items verbose)) (close start) fun _ => At given (p.within .items) :=
  .accept rfl (.pure fun _ hs => hs) (.failAt _ _)

/-- After a token and what belongs to it. -/
def AfterToken (given : Flags) (p : Spot) : Piece → State → Prop
  | .nothing, s | .repetition _, s => At given (p.within .items) s
  | .item item, s => Folded given p item.pattern s
  | .globalFlags _, _ => True
  | .group opening, s => AfterOpening given p opening s

theorem yields_bracketPiece (hflags : flags.ignoreCase) (hverbose : flags.verbose = p.verbose)
    (start : ℕ) :
    Yields (At given (p.within .opened)) (bracketPiece flags start) (AfterToken given p) := by
  have hopening : Yields (At given (p.within .opened)) (do
      if ← accept '?' then extension flags else return .capture none)
      (AfterExtension given p) := by
    refine .accept rfl (yields_extension hflags hverbose) (.pure ?_)
    rintro s ⟨hs, hquestion⟩
    refine hs.of_ne hquestion fun k hk => ?_
    change some (if k = .char '?' then _ else _) = _
    rw [if_neg hk]
    rfl
  rw [bracketPiece, ← bind_assoc]
  refine hopening.bind fun opening => ?_
  cases opening with
  | comment => exact .get fun s => (yields_skipComment _ _).bind fun _ => .pure fun _ hs => hs
  | reference => exact (yields_namedReference hflags).bind fun _ => .pure fun _ hs => hs
  | global on => exact .pure fun _ _ => trivial
  | _ => exact .pure fun _ hs => hs

theorem behindItem_of_ne {c : Char} (hset : c ≠ '[') (hopen : c ≠ '(') (hclose : c ≠ ')')
    (hcomment : (c == '#' && p.verbose) = false) :
    (p.within .items).behindItem (.char c) = p.within .items := by
  have hline : (decide (c = '#') && (p.within .items).verbose) = false := hcomment
  simp only [Spot.behindItem, hset, hopen, hclose, hline, if_false, Bool.false_eq_true]
  rfl

theorem behindItem_comment (h : p.verbose) :
    (p.within .items).behindItem (.char '#') = p.within (.skipped '\n' .items) := by
  have hverbose : (p.within .items).verbose = true := h
  simp only [Spot.behindItem, hverbose, Bool.and_true, decide_true, if_true]
  rfl

theorem yields_characterPiece [CharacterNames] (hflags : flags.ignoreCase)
    (hverbose : flags.verbose = p.verbose) (start : ℕ) {c : Char} (hclose : c ≠ ')') :
    Yields (At given ((p.within .items).behindItem (.char c))) (characterPiece flags start c)
      (AfterToken given p) := by
  unfold characterPiece
  by_cases hline : flags.verbose && c == '#'
  · rw [if_pos hline]
    rw [Bool.and_eq_true, beq_iff_eq] at hline
    obtain ⟨hon, rfl⟩ := hline
    rw [behindItem_comment (hverbose ▸ hon), if_neg (by simp [isIgnoredSpace])]
    intro s t x hs h
    have hskip : Yields
        (fun t => At given (p.within (.skipped '\n' .items)) t ∧ t.rest.length < s.rest.length + 1)
        (do
          skipLine (s.rest.length + 1)
          return .nothing) (AfterToken given p) :=
      (yields_skipLine _).bind fun _ => .pure fun _ ht => ht
    exact hskip ⟨hs, Nat.lt_succ_self _⟩ h
  rw [if_neg hline]
  have hcomment : (c == '#' && p.verbose) = false := by
    rw [Bool.and_comm, ← hverbose]
    exact Bool.eq_false_iff.2 hline
  by_cases hset : c = '['
  · subst hset
    refine .ite (fun hspace => ?_) fun _ => ?_
    · simp [isIgnoredSpace] at hspace
    · exact (yields_characterSet hflags).bind fun _ => .pure fun _ hs => hs
  by_cases hopen : c = '('
  · subst hopen
    refine .ite (fun hspace => ?_) fun _ => ?_
    · simp [isIgnoredSpace] at hspace
    · exact yields_bracketPiece hflags hverbose start
  rw [behindItem_of_ne hset hopen hclose hcomment]
  have hliteral : Yields (At given (p.within .items))
      (return .item ⟨.other, literal flags c.toNat⟩) (AfterToken given p) :=
    .pure fun _ hs => ⟨foldsCase_literal hflags _, hs⟩
  refine .ite (fun _ => .pure fun _ hs => hs) fun _ => ?_
  refine .ite (fun hc => absurd (beq_iff_eq.1 hc) hset) fun _ => ?_
  refine .ite (fun hc => ?_) fun _ => ?_
  · refine (yields_bounds (by simpa [or_assoc] using hc)).bind fun b => ?_
    cases b with
    | none => exact hliteral
    | some b => exact .pure fun _ hs => hs
  refine .ite (fun _ => .pure fun _ hs => ⟨rfl, hs⟩) fun _ => ?_
  refine .ite (fun _ => .pure fun _ hs => ⟨rfl, hs⟩) fun _ => ?_
  refine .ite (fun _ => .pure fun _ hs => ⟨rfl, hs⟩) fun _ => ?_
  exact .ite (fun hc => absurd (beq_iff_eq.1 hc) hopen) fun _ => hliteral

theorem yields_piece [CharacterNames] (hflags : flags.ignoreCase)
    (hverbose : flags.verbose = p.verbose) (start : ℕ) {k : Token} (hclose : k ≠ .char ')') :
    Yields (At given ((p.within .items).behindItem k)) (piece flags start k)
      (AfterToken given p) := by
  cases k with
  | escape c => exact (yields_escape hflags c).bind fun item => .pure fun _ hs => hs
  | char c => exact yields_characterPiece hflags hverbose start fun hc => hclose (hc ▸ rfl)

/-! ## Sequences and groups -/

theorem Yields.next {β : Type} {R : β → State → Prop} {f : Option (ℕ × Token) → Reader β}
    (hnone : Yields (At given (p.within .items)) (f none) R)
    (hsome : ∀ start k, k ≠ .char ')' →
      Yields (At given ((p.within .items).behindItem k)) (f (some (start, k))) R) :
    Yields (At given (p.within .items)) (next >>= f) R := by
  rw [next_bind]
  refine .get fun s => .takeIf (hnone.of_imp fun _ hs => hs.1) fun k q hk hq => ?_
  cases hq
  refine hsome _ k ?_
  rintro rfl
  cases hk

theorem yields_withinLookBehind {q : Spot} {body : Reader Pattern}
    (h : Yields (At given q) body (Folded given p)) :
    Yields (At given q) (withinLookBehind body) (Folded given p) :=
  .get fun _ => Yields.bind (.modify fun _ hs => hs) fun _ => h.bind fun _ =>
    Yields.bind (.modify fun _ hs => hs) fun _ => .pure fun _ hs => hs

/-- What the readers yield with some fuel. Flags for the whole pattern are refused, as something
stands in front of them. -/
structure FoldsWith [CharacterNames] (given : Flags) (n : ℕ) : Prop where
  alternatives : ∀ {p : Spot} {top : Bool} {flags : Flags} {found : List Pattern},
    flags.ignoreCase → flags.verbose = p.verbose → (∀ q ∈ found, q.foldsCase) →
    (top → flags = given ∧ found ≠ []) →
    Yields (At given (p.within .items)) (alternatives n top flags found) (Folded given p)
  items : ∀ {p : Spot} {first : Bool} {flags : Flags} {found : List Item},
    flags.ignoreCase → flags.verbose = p.verbose → FoldAll found → (first → found ≠ []) →
    Yields (At given (p.within .items)) (items n first flags found)
      fun done s => FoldAll done ∧ At given (p.within .items) s
  group : ∀ {p : Spot} {flags : Flags} {start : ℕ} {opening : Opening},
    flags.ignoreCase → flags.verbose = p.verbose →
    Yields (AfterOpening given p opening) (group n flags start opening) (Folded given p)

theorem foldsWith_zero [CharacterNames] : FoldsWith given 0 where
  alternatives _ _ _ _ := .failBack _ _
  items _ _ _ _ := .failBack _ _
  group _ _ := .failBack _ _

variable {n : ℕ}

theorem yields_alternatives_succ [CharacterNames] (ih : FoldsWith given n) {top : Bool}
    {found : List Pattern} (hflags : flags.ignoreCase) (hverbose : flags.verbose = p.verbose)
    (hfound : ∀ q ∈ found, q.foldsCase) (htop : top → flags = given ∧ found ≠ []) :
    Yields (At given (p.within .items)) (alternatives (n + 1) top flags found)
      (Folded given p) := by
  have hitems : Yields (At given (p.within .items)) (do
      let items ← items n (top && found.isEmpty) flags []
      let found := sequence items :: found
      if ← accept '|' then alternatives n top flags found
      else return .choice found.reverse) (Folded given p) := by
    refine (ih.items hflags hverbose (by simp [FoldAll]) fun hfirst => ?_).bind fun items => ?_
    · rw [Bool.and_eq_true, List.isEmpty_iff] at hfirst
      exact absurd hfirst.2 (htop hfirst.1).2
    refine .of_and fun hall => .acceptPlain (step_items_of_isPlain p rfl) fun b => ?_
    have hmore : ∀ q ∈ sequence items :: found, q.foldsCase :=
      List.forall_mem_cons.2 ⟨hall.sequence, hfound⟩
    refine .ite (fun _ => ?_) fun _ => .pure fun _ hs => ⟨?_, hs⟩
    · exact ih.alternatives hflags hverbose hmore fun h => ⟨(htop h).1, List.cons_ne_nil _ _⟩
    · exact foldsCase_choice fun q hq => hmore q (List.mem_reverse.1 hq)
  -- at the top the flags are those of the state, which are still the given ones
  intro s t pattern hs h
  rw [alternatives, get_bind] at h
  have hsame : (if top then s.flags else flags) = flags := by
    split_ifs with hon
    · rw [hs.1, (htop hon).1]
    · rfl
  rw [hsame] at h
  exact hitems hs h

theorem yields_items_succ [CharacterNames] (ih : FoldsWith given n) {first : Bool}
    {found : List Item} (hflags : flags.ignoreCase) (hverbose : flags.verbose = p.verbose)
    (hfound : FoldAll found) (hfirst : first → found ≠ []) :
    Yields (At given (p.within .items)) (items (n + 1) first flags found)
      fun done s => FoldAll done ∧ At given (p.within .items) s := by
  rw [items]
  refine .next (.pure fun _ hs => ⟨hfound, hs⟩) fun start k hk => ?_
  refine (yields_piece hflags hverbose start hk).bind fun piece => ?_
  cases piece with
  | nothing => exact ih.items hflags hverbose hfound hfirst
  | item item =>
    exact .of_and fun hitem =>
      ih.items hflags hverbose (.cons hitem hfound) fun _ => List.cons_ne_nil _ _
  | repetition b =>
    exact (yields_repeatItem start b hfound).bind fun done => .of_and fun hdone =>
      ih.items hflags hverbose hdone.1 fun _ => hdone.2
  | globalFlags on =>
    -- these may stand in front of everything only
    refine .ite (fun hallowed => ?_) fun _ => .failAt _ _
    rw [Bool.and_eq_true, List.isEmpty_iff] at hallowed
    exact absurd hallowed.2 (hfirst hallowed.1)
  | group opening =>
    exact (ih.group hflags hverbose).bind fun body => .of_and fun hbody =>
      ih.items hflags hverbose (.cons hbody hfound) fun _ => List.cons_ne_nil _ _

theorem yields_group_succ [CharacterNames] (ih : FoldsWith given n) {start : ℕ} {opening : Opening}
    (hflags : flags.ignoreCase) (hverbose : flags.verbose = p.verbose) :
    Yields (AfterOpening given p opening) (group (n + 1) flags start opening) (Folded given p) := by
  have hbody : ∀ {flags : Flags} {verbose : Bool}, flags.ignoreCase → flags.verbose = verbose →
      Yields (At given (p.enter .items verbose)) (alternatives n false flags [])
        (Folded given (p.enter .items verbose)) := fun {flags verbose} hi hv =>
    @FoldsWith.alternatives _ given n ih (p.enter .items verbose) false flags [] hi hv (by simp)
      (by simp)
  have hclosed : ∀ {flags : Flags} {verbose : Bool} {f : Pattern → Pattern},
      flags.ignoreCase → flags.verbose = verbose → (∀ q, (f q).foldsCase = q.foldsCase) →
      Yields (At given (p.enter .items verbose)) (do
        let body ← alternatives n false flags []
        close start
        return f body) (Folded given p) := fun hi hv hf =>
    (hbody hi hv).bind fun body => .of_and fun hfolds => (yields_close start _).bind fun _ =>
      .pure fun _ hs => ⟨(hf body).trans hfolds, hs⟩
  rw [group.eq_def]
  cases opening with
  | capture name =>
    refine (yields_openGroup name).bind fun index => (hbody hflags hverbose).bind fun body => ?_
    refine .of_and fun hfolds => (yields_close start _).bind fun _ => ?_
    exact (yields_closeGroup _ _).bind fun _ => .pure fun _ hs => ⟨hfolds, hs⟩
  | flagged flags => exact .of_and fun hi => hclosed hi rfl (f := .flagged) fun _ => rfl
  | atomic => exact hclosed hflags hverbose (f := .atomic) fun _ => rfl
  | ahead negative => exact hclosed hflags hverbose (f := .look negative none) fun _ => rfl
  | behind negative =>
    refine (yields_withinLookBehind (hbody hflags hverbose)).bind fun body => ?_
    exact .of_and fun hfolds => (yields_close start _).bind fun _ =>
      .pure fun _ hs => ⟨hfolds, hs⟩
  | condition =>
    have hitems : Yields (At given (p.enter .items p.verbose)) (items n false flags [])
        fun done s => FoldAll done ∧ At given (p.enter .items p.verbose) s :=
      @FoldsWith.items _ given n ih (p.enter .items p.verbose) false flags [] hflags hverbose
        (by simp [FoldAll]) (by simp)
    have hgroup : Yields (At given (p.enter (.skipped ')' .items) p.verbose)) conditionGroup
        fun _ => At given (p.enter .items p.verbose) :=
      @yields_conditionGroup given (p.enter .items p.verbose)
    refine hgroup.bind fun index => hitems.bind fun present => .of_and fun hpresent => ?_
    refine .acceptPlain (step_items_of_isPlain (p.enter .items p.verbose) rfl) fun b => ?_
    refine .ite (fun _ => ?_) fun _ => ?_
    · refine hitems.bind fun absent => .of_and fun habsent => .get fun s => ?_
      refine .ite (fun _ => .failBack _ _) fun _ => (yields_close start _).bind fun _ => ?_
      refine .pure fun _ hs => ⟨?_, hs⟩
      rw [Pattern.foldsCase, hpresent.sequence, habsent.sequence]
      rfl
    · refine (yields_close start _).bind fun _ => .pure fun _ hs => ⟨?_, hs⟩
      rw [Pattern.foldsCase, hpresent.sequence]
      rfl
  | plain => exact hclosed hflags hverbose (f := id) fun _ => rfl
  | reference => exact fun _ _ _ hs => hs.elim
  | comment => exact fun _ _ _ hs => hs.elim
  | global on => exact fun _ _ _ hs => hs.elim

theorem foldsWith [CharacterNames] (given : Flags) (n : ℕ) : FoldsWith given n := by
  induction n with
  | zero => exact foldsWith_zero
  | succ n ih =>
    exact ⟨yields_alternatives_succ ih, yields_items_succ ih, yields_group_succ ih⟩

/-! ## The whole pattern -/

theorem finish_eq_ok {pattern done : Pattern} {s t : State} (h : finish pattern s = .ok (done, t)) :
    done = pattern := by
  cases hkinds : s.flags.conflict with
  | true =>
    rw [finish, get_bind, if_pos hkinds] at h
    cases h
  | false =>
    by_cases hnil : s.rest = []
    · have hfinish := @finish_of_nil pattern s hkinds hnil
      split_ifs at hfinish
      · rw [hfinish] at h
        cases h
        rfl
      · obtain ⟨e, he⟩ := hfinish
        rw [he] at h
        cases h
    · rw [finish_of_ne_nil hkinds hnil] at h
      cases h

theorem yields_behindGroup [CharacterNames] (hflags : flags.ignoreCase)
    (hverbose : flags.verbose = p.verbose) (n : ℕ) {body : Pattern} (hbody : body.foldsCase) :
    Yields (At flags (p.within .items)) (behindGroup n flags body)
      fun pattern _ => pattern.foldsCase := by
  have hfound : FoldAll [⟨.other, body⟩] := .cons hbody (by simp [FoldAll])
  have hfinish : ∀ pattern, Yields (Folded flags p pattern) (finish pattern)
      fun pattern _ => pattern.foldsCase := by
    intro pattern s t done hs h
    rw [finish_eq_ok h]
    exact hs.1
  refine ((foldsWith flags n).items hflags hverbose hfound (by simp)).bind fun items => ?_
  refine .of_and fun hall => .acceptPlain (step_items_of_isPlain p rfl) fun more => ?_
  refine Yields.bind (.ite (fun _ => ?_) fun _ => ?_) hfinish
  · refine (foldsWith flags (n + 1)).alternatives hflags hverbose ?_ fun _ => ⟨rfl, by simp⟩
    exact List.forall_mem_singleton.2 hall.sequence
  · exact .pure fun _ hs => ⟨hall.sequence, hs⟩

theorem foldsCase_of_whole [CharacterNames] (hflags : flags.ignoreCase)
    (hverbose : flags.verbose = false) {r : List Char} {pattern : Pattern} {t : State}
    (hstays : staysOn ⟨.items, false, [false]⟩ (tokens (r ++ [')'])))
    (h : whole { rest := '(' :: '?' :: ':' :: (r ++ [')']), offset := 0, flags := flags } =
      .ok (pattern, t)) : pattern.foldsCase := by
  rw [whole_bracketed hverbose] at h
  have hread : Yields (At flags ⟨.items, false, [false]⟩) (do
      let body ← alternatives (4 * r.length + 21) false flags []
      close 0
      behindGroup (4 * r.length + 22) flags body) fun pattern _ => pattern.foldsCase := by
    have hbody : Yields (At flags ⟨.items, false, [false]⟩)
        (alternatives (4 * r.length + 21) false flags [])
        (Folded flags ⟨.items, false, [false]⟩) :=
      @FoldsWith.alternatives _ flags _ (foldsWith flags _) ⟨.items, false, [false]⟩ _ _ _ hflags
        hverbose (by simp) (by simp)
    refine hbody.bind fun body => .of_and fun hfolds => ?_
    refine (@yields_close flags ⟨.items, false, []⟩ 0 false).bind fun _ => ?_
    exact @yields_behindGroup flags ⟨.items, false, []⟩ _ hflags hverbose _ _ hfolds
  exact hread ⟨rfl, hstays⟩ h

/-! ## The pattern on its own -/

theorem behindFlag_ne_none {off verbose : Bool} {k : Token} (h : k ≠ .char 'i') :
    p.behindFlag off verbose k ≠ none := by
  simp only [Spot.behindFlag, h, decide_false, Bool.false_and, Bool.false_eq_true, if_false]
  split_ifs <;> simp

/-- Only the letter of the flag can turn it off. -/
theorem step_ne_none {k : Token} (h : k ≠ .char 'i') : p.step k ≠ none := by
  unfold Spot.step
  split
  case h_3 =>
    unfold Spot.behindExtension
    split_ifs
    · simp
    · simp
    · simp
    · exact behindFlag_ne_none h
    · simp
  case h_5 => exact behindFlag_ne_none h
  all_goals simp

theorem staysOn_singleton {k : Token} (h : k ≠ .char 'i') : staysOn p [k] := by
  obtain ⟨q, hq⟩ := Option.ne_none_iff_exists'.1 (@step_ne_none p k h)
  exact staysOn_cons.2 ⟨q, hq, rfl⟩

theorem staysOn_append_close {r : List Char} (h : staysOn p (tokens r)) :
    staysOn p (tokens (r ++ [')'])) := by
  induction r using tokens.induct generalizing p with
  | case1 c rest ih =>
    rw [tokens, staysOn_cons] at h
    obtain ⟨q, hq, hrest⟩ := h
    exact staysOn_cons.2 ⟨q, hq, ih hrest⟩
  | case2 c rest hslash ih =>
    rw [tokens, staysOn_cons] at h
    · obtain ⟨q, hq, hrest⟩ := h
      by_cases hc : c = '\\'
      · -- a backslash at the end takes the bracket with it
        have hnil : rest = [] := by
          cases rest with
          | nil => rfl
          | cons d rest => exact (hslash d rest hc rfl).elim
        subst hc hnil
        exact staysOn_singleton (by decide)
      · rw [List.cons_append, tokens, staysOn_cons]
        · exact ⟨q, hq, ih hrest⟩
        · exact fun _ _ heq => absurd heq hc
    · exact hslash
  | case3 => exact staysOn_singleton (by decide)

/-- The same place with one more group around all others. -/
def Spot.grouped (p : Spot) : Spot := { p with outer := p.outer ++ [false] }

theorem leave_grouped (p : Spot) :
    p.grouped.leave = p.leave.grouped ∨ p.grouped.leave = p.leave := by
  obtain ⟨region, verbose, outer⟩ := p
  cases outer with
  | nil => exact .inr rfl
  | cons v outer => exact .inl rfl

theorem behindItem_grouped (p : Spot) (k : Token) :
    p.grouped.behindItem k = (p.behindItem k).grouped ∨
      p.grouped.behindItem k = p.behindItem k := by
  cases k with
  | escape c => exact .inl rfl
  | char c =>
    unfold Spot.behindItem
    dsimp only
    have hverbose : p.grouped.verbose = p.verbose := rfl
    rw [hverbose]
    split_ifs
    · exact .inl rfl
    · exact .inl rfl
    · exact leave_grouped p
    · exact .inl rfl
    · exact .inl rfl

theorem behindFlag_grouped (p : Spot) (off verbose : Bool) (k : Token) :
    p.grouped.behindFlag off verbose k = (p.behindFlag off verbose k).map Spot.grouped := by
  unfold Spot.behindFlag
  split_ifs <;> rfl

theorem behindSetItem_grouped (p : Spot) (k : Token) :
    p.grouped.behindSetItem k = (p.behindSetItem k).grouped := by
  cases k <;> rfl

theorem behindExtension_grouped (p : Spot) (k : Token) :
    p.grouped.behindExtension k = (p.behindExtension k).map Spot.grouped := by
  have hverbose : p.grouped.verbose = p.verbose := rfl
  unfold Spot.behindExtension
  rw [hverbose]
  split_ifs
  · rfl
  · rfl
  · rfl
  · exact behindFlag_grouped p _ _ k
  · rfl

theorem step_grouped (p : Spot) (k : Token) :
    p.grouped.step k = (p.step k).map Spot.grouped ∨ p.grouped.step k = p.step k := by
  -- only a bracket that closes the group around all others leads to the same place
  have hregion : p.grouped.region = p.region := rfl
  unfold Spot.step
  rw [hregion]
  split
  · exact (behindItem_grouped p k).imp (congrArg some) (congrArg some)
  · split_ifs
    · exact .inl rfl
    · exact (behindItem_grouped (p.enter .items p.verbose) k).imp (congrArg some) (congrArg some)
  · exact .inl (behindExtension_grouped p k)
  · split_ifs <;> exact .inl rfl
  · exact .inl (behindFlag_grouped p _ _ k)
  · rw [behindSetItem_grouped]
    split_ifs <;> exact .inl rfl
  · exact .inl (congrArg some (behindSetItem_grouped p k))
  · rw [behindSetItem_grouped]
    split_ifs <;> exact .inl rfl
  · split_ifs <;> exact .inl rfl

theorem staysOn_grouped (p : Spot) (ks : List Token) : staysOn p.grouped ks = staysOn p ks := by
  induction ks generalizing p with
  | nil => rfl
  | cons k ks ih =>
    rw [staysOn, staysOn]
    rcases step_grouped p k with h | h
    · rw [h]
      cases p.step k with
      | none => rfl
      | some q => exact ih q
    · rw [h]

/-- A pattern that is read inside of a group folds case, if the flag `i` is on in front of it and
the pattern does not turn it off. -/
theorem foldsCase_of_turnsCaseOff [CharacterNames] (hflags : flags.ignoreCase)
    (hverbose : flags.verbose = false) {r : List Char} {pattern : Pattern} {t : State}
    (hr : turnsCaseOff r = false)
    (h : whole { rest := '(' :: '?' :: ':' :: (r ++ [')']), offset := 0, flags := flags } =
      .ok (pattern, t)) : pattern.foldsCase := by
  rw [turnsCaseOff, Bool.not_eq_false', ← staysOn_grouped] at hr
  exact foldsCase_of_whole hflags hverbose (staysOn_append_close hr) h

end Outline.PatternReader
