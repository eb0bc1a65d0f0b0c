import Outline.Proofs.Pattern.Bracketed

set_option autoImplicit false

/-!
# Groups that turn the flag `i` off

Whether a group of a pattern turns the flag `i` off can be seen from the text alone, token by token:
what looks like inline flags counts only where a group can begin, and so not in sets, comments and
names, nor behind a backslash. A reader goes along with the tokens, and what it makes of escapes and
sets ignores case if the flag is on.
-/
namespace Outline

/-- The test does not depend on case. -/
def CharTest.foldsCase : CharTest → Bool
  | literal rule _ _ => rule != .exact
  | any _ => true
  | set rule _ _ => rule != .exact

/-- No part of the pattern compares characters exactly. -/
def Pattern.foldsCase : Pattern → Bool
  | empty | anchor _ => true
  | one test => test.foldsCase
  | seq a b | alt a b | cond _ a b => a.foldsCase && b.foldsCase
  | group _ p | loop _ _ _ p | look _ _ p | atomic p | flagged p => p.foldsCase
  | backref _ rule _ => rule != .exact

namespace PatternReader

/-! ## Regions of a pattern -/

def tokens : List Char → List Token
  | '\\' :: c :: rest => .escape c :: tokens rest
  | c :: rest => .char c :: tokens rest
  | [] => []

/-- What the next token belongs to. -/
inductive Region where
  /-- The items of a sequence. -/
  | items
  /-- What follows an opening bracket. -/
  | opened
  /-- What follows an opening bracket and a question mark. -/
  | extension
  /-- What follows these and the letter `P`. -/
  | named
  /-- Inline flags, those behind a minus sign or those before; and whether white space and comments
  are left out with the flags so far. -/
  | flags (off verbose : Bool)
  /-- What follows the opening bracket of a set. -/
  | setOpened
  /-- The first item of a set, which may be a closing bracket. -/
  | setFirst
  | set
  /-- A comment or a name up to its end, and what follows it. -/
  | skipped (close : Char) (behind : Region)

/-- A place among tokens: whether white space and comments are left out here, and for each group
around the place whether they are outside of it. -/
structure Spot where
  region : Region
  verbose : Bool
  outer : List Bool

namespace Spot

def within (p : Spot) (region : Region) : Spot := { p with region := region }

def enter (p : Spot) (region : Region) (verbose : Bool) : Spot :=
  ⟨region, verbose, p.verbose :: p.outer⟩

def leave (p : Spot) : Spot :=
  match p.outer with
  | [] => ⟨.items, false, []⟩
  | verbose :: outer => ⟨.items, verbose, outer⟩

/-- An escape may go on with a name in braces. -/
def behindEscape (p : Spot) (region : Region) (c : Char) : Spot :=
  p.within (if c = 'N' then .skipped '}' region else region)

def behindItem (p : Spot) : Token → Spot
  | .escape c => p.behindEscape .items c
  | .char c =>
    if c = '[' then p.within .setOpened
    else if c = '(' then p.within .opened
    else if c = ')' then p.leave
    else if c = '#' && p.verbose then p.within (.skipped '\n' .items)
    else p.within .items

def behindSetItem (p : Spot) : Token → Spot
  | .escape c => p.behindEscape .set c
  | .char _ => p.within .set

/-- Behind a token among inline flags; nothing if it turns the flag `i` off. -/
def behindFlag (p : Spot) (off verbose : Bool) (t : Token) : Option Spot :=
  if t = .char ':' then some (p.enter .items verbose)
  else if t = .char ')' then some ⟨.items, verbose, p.outer⟩
  else if t = .char '-' && !off then some (p.within (.flags true verbose))
  else if t.isChar isFlag then
    if t = .char 'i' && off then none
    else some (p.within (.flags off (if t = .char 'x' then !off else verbose)))
  else some (p.within .items)

/-- Behind a token behind an opening bracket and a question mark. -/
def behindExtension (p : Spot) (t : Token) : Option Spot :=
  if t = .char '#' then some (p.within (.skipped ')' .items))
  else if t = .char 'P' then some (p.within .named)
  else if t = .char '(' then some (p.enter (.skipped ')' .items) p.verbose)
  else if t.isChar fun c => isFlag c || c == '-' then p.behindFlag false p.verbose t
  else some (p.enter .items p.verbose)

/-- One token further; nothing if it turns the flag `i` off. -/
def step (p : Spot) (t : Token) : Option Spot :=
  match p.region with
  | .items => some (p.behindItem t)
  | .opened =>
    some (if t = .char '?' then p.within .extension
      else (p.enter .items p.verbose).behindItem t)
  | .extension => p.behindExtension t
  | .named =>
    some (if t = .char '<' then p.enter (.skipped '>' .items) p.verbose
      else p.within (.skipped ')' .items))
  | .flags off verbose => p.behindFlag off verbose t
  | .setOpened => some (if t = .char '^' then p.within .setFirst else p.behindSetItem t)
  | .setFirst => some (p.behindSetItem t)
  | .set => some (if t = .char ']' then p.within .items else p.behindSetItem t)
  | .skipped close behind =>
    some (if t = .char close then p.within behind else p)

end Spot

/-- Whether no token turns the flag `i` off from a place on. -/
def staysOn : Spot → List Token → Bool
  | _, [] => true
  | p, t :: rest =>
    match p.step t with
    | none => false
    | some q => staysOn q rest

theorem staysOn_cons {p : Spot} {k : Token} {rest : List Token} :
    staysOn p (k :: rest) ↔ ∃ q, p.step k = some q ∧ staysOn q rest := by
  rw [staysOn]
  cases p.step k <;> simp

/-- Whether a group of the pattern turns the flag `i` off. -/
def turnsCaseOff (text : List Char) : Bool := !staysOn ⟨.items, false, []⟩ (tokens text)

/-! ## What turns the flag off -/

/-- An opening bracket, a question mark, flags, a minus sign, and the flag `i` among flags. -/
def SpellsOff (text : List Char) : Prop :=
  ∃ front on off back, text = front ++ '(' :: '?' :: (on ++ '-' :: (off ++ 'i' :: back)) ∧
    on.all isFlag ∧ off.all isFlag

/-- What a text ends with that leads to a region. -/
def Region.EndsAt (text : List Char) : Region → Prop
  | opened => ∃ front, text = front ++ ['(']
  | extension => ∃ front, text = front ++ ['(', '?']
  | flags false _ => ∃ front on, text = front ++ '(' :: '?' :: on ∧ on.all isFlag
  | flags true _ => ∃ front on off, text = front ++ '(' :: '?' :: (on ++ '-' :: off) ∧
      on.all isFlag ∧ off.all isFlag
  | skipped _ behind => behind = items ∨ behind = set
  | _ => True

theorem SpellsOff.append {text : List Char} (h : SpellsOff text) (more : List Char) :
    SpellsOff (text ++ more) := by
  obtain ⟨front, on, off, back, rfl, hon, hoff⟩ := h
  exact ⟨front, on, off, back ++ more, by simp, hon, hoff⟩

/-- A token completes the spelling, or the text ends as its region says. -/
def StepsTo (text : List Char) : Option Spot → Prop
  | none => SpellsOff text
  | some q => q.region.EndsAt text

theorem endsAt_behindEscape (text : List Char) (p : Spot) (c : Char) :
    (p.behindEscape .items c).region.EndsAt text ∧ (p.behindEscape .set c).region.EndsAt text := by
  by_cases hc : c = 'N' <;> simp [Spot.behindEscape, hc, Spot.within, Region.EndsAt]

theorem endsAt_behindItem (text : List Char) (p : Spot) (k : Token) :
    (p.behindItem k).region.EndsAt (text ++ k.chars) := by
  cases k with
  | escape c => exact (endsAt_behindEscape _ p c).1
  | char c =>
    unfold Spot.behindItem
    dsimp only
    split_ifs with hset hopen hclose hcomment
    · trivial
    · exact ⟨text, by rw [hopen]; rfl⟩
    · unfold Spot.leave
      split <;> trivial
    · exact .inl rfl
    · trivial

theorem endsAt_behindSetItem (text : List Char) (p : Spot) (k : Token) :
    (p.behindSetItem k).region.EndsAt text := by
  cases k with
  | escape c => exact (endsAt_behindEscape text p c).2
  | char c => trivial

theorem stepsTo_behindFlag {text : List Char} {off verbose : Bool} (p : Spot) (k : Token)
    (h : (Region.flags off verbose).EndsAt text) :
    StepsTo (text ++ k.chars) (p.behindFlag off verbose k) := by
  unfold Spot.behindFlag
  generalize (if k = .char 'x' then !off else verbose) = verbose'
  split_ifs with hcolon hclose hminus hflag hi
  · trivial
  · trivial
  · simp only [Bool.and_eq_true, decide_eq_true_eq, Bool.not_eq_true'] at hminus
    obtain ⟨rfl, rfl⟩ := hminus
    obtain ⟨front, on, rfl, hon⟩ := h
    exact ⟨front, on, [], by simp [Token.chars], hon, rfl⟩
  · simp only [Bool.and_eq_true, decide_eq_true_eq] at hi
    obtain ⟨rfl, rfl⟩ := hi
    obtain ⟨front, on, off, rfl, hon, hoff⟩ := h
    exact ⟨front, on, off, [], by simp [Token.chars], hon, hoff⟩
  · cases k with
    | escape c => cases hflag
    | char c =>
      have hmore : ∀ letters : List Char, letters.all isFlag → (letters ++ [c]).all isFlag :=
        fun letters hall => by simp [hall, show isFlag c = true from hflag]
      cases off with
      | false =>
        obtain ⟨front, on, rfl, hon⟩ := h
        exact ⟨front, on ++ [c], by simp [Token.chars], hmore on hon⟩
      | true =>
        obtain ⟨front, on, off, rfl, hon, hoff⟩ := h
        exact ⟨front, on, off ++ [c], by simp [Token.chars], hon, hmore off hoff⟩
  · trivial

theorem stepsTo_step {text : List Char} (p : Spot) (k : Token) (h : p.region.EndsAt text) :
    StepsTo (text ++ k.chars) (p.step k) := by
  unfold Spot.step
  split
  case h_1 => exact endsAt_behindItem text p k
  case h_2 hregion =>
    split_ifs with hk
    · rw [hregion] at h
      obtain ⟨front, rfl⟩ := h
      exact ⟨front, by simp [hk, Token.chars]⟩
    · exact endsAt_behindItem text _ k
  case h_3 hregion =>
    rw [hregion] at h
    obtain ⟨front, rfl⟩ := h
    unfold Spot.behindExtension
    split_ifs
    · exact .inl rfl
    · trivial
    · exact .inl rfl
    · exact stepsTo_behindFlag p k ⟨front, [], rfl, rfl⟩
    · trivial
  case h_4 =>
    split_ifs
    · exact .inl rfl
    · exact .inl rfl
  case h_5 hregion =>
    rw [hregion] at h
    exact stepsTo_behindFlag p k h
  case h_6 =>
    split_ifs
    · trivial
    · exact endsAt_behindSetItem _ p k
  case h_7 => exact endsAt_behindSetItem _ p k
  case h_8 =>
    split_ifs
    · trivial
    · exact endsAt_behindSetItem _ p k
  case h_9 close behind hregion =>
    -- comments and names are only ever followed by items or by the rest of a set
    rw [hregion] at h
    split_ifs
    · change behind.EndsAt _
      rcases h with rfl | rfl <;> trivial
    · change p.region.EndsAt _
      rw [hregion]
      exact h

theorem spellsOff_of_not_staysOn {text : List Char} {p : Spot} {ks : List Token}
    (hp : p.region.EndsAt text) (h : staysOn p ks = false) :
    SpellsOff (text ++ ks.flatMap Token.chars) := by
  induction ks generalizing text p with
  | nil => cases h
  | cons k ks ih =>
    have hstep := stepsTo_step p k hp
    rw [List.flatMap_cons, ← List.append_assoc]
    rw [staysOn] at h
    split at h
    · rename_i hnone
      rw [hnone] at hstep
      exact SpellsOff.append hstep _
    · rename_i q hq
      rw [hq] at hstep
      exact ih hstep h

theorem flatMap_tokens (text : List Char) : (tokens text).flatMap Token.chars = text := by
  fun_induction tokens text with
  | case1 c rest ih => simp [ih, Token.chars]
  | case2 c rest hslash ih => simp [ih, Token.chars]
  | case3 => rfl

/-- Where no bracket is followed by flags that turn `i` off, no group does so. -/
theorem spellsOff_of_turnsCaseOff {text : List Char} (h : turnsCaseOff text) : SpellsOff text := by
  rw [turnsCaseOff, Bool.not_eq_true'] at h
  simpa [flatMap_tokens] using @spellsOff_of_not_staysOn [] ⟨.items, false, []⟩ _ trivial h

example : turnsCaseOff "bin|(?x-i:obj)".toList := by decide

example : turnsCaseOff "[(?-i:]|\\(?-i:|(?#(?-i:)".toList = false := by decide

theorem tokens_of_tokenOf {r : List Char} {k : Token} (h : tokenOf r = some k) :
    tokens r = k :: tokens (r.drop k.chars.length) := by
  unfold tokenOf at h
  split at h
  · cases h
    rw [tokens]
    rfl
  · rename_i c rest hslash
    cases h
    rw [tokens]
    · rfl
    · exact fun d rest' hc hrest => hslash d rest' hc hrest
  · cases h

/-! ## Readers -/

variable {α β : Type} {given : Flags} {p q : Spot}

/-- A reader that starts in a state with a property and succeeds gives a result and a state with
another one. -/
def Yields (P : State → Prop) (m : Reader α) (Q : α → State → Prop) : Prop :=
  ∀ ⦃s t : State⦄ ⦃a : α⦄, P s → m s = .ok (a, t) → Q a t

/-- The reader stands at a place from which on the flag `i` is not turned off; the flags for the
whole pattern are still the given ones. -/
def At (given : Flags) (p : Spot) (s : State) : Prop := s.flags = given ∧ staysOn p (tokens s.rest)

namespace Yields

variable {P P' : State → Prop} {Q : α → State → Prop} {R : β → State → Prop}

theorem pure {a : α} (h : ∀ s, P s → Q a s) : Yields P (pure a) Q := by
  rintro s t b hs ⟨⟩
  exact h s hs

theorem bind {m : Reader α} {f : α → Reader β} (hm : Yields P m Q)
    (hf : ∀ a, Yields (Q a) (f a) R) : Yields P (m >>= f) R := by
  intro s u b hs h
  obtain ⟨a, t, hst, htu⟩ := bind_eq_ok h
  exact hf a (hm hs hst) htu

theorem of_imp {m : Reader α} (h : Yields P m Q) (hP : ∀ s, P' s → P s) : Yields P' m Q :=
  fun s _ _ hs hm => h (hP s hs) hm

theorem of_fails {m : Reader α} (h : Fails m) : Yields P m Q := by
  intro s t a _ hm
  obtain ⟨e, he⟩ := h s
  rw [he] at hm
  cases hm

theorem failAt (cause : PatternCause) (offset : ℕ) :
    Yields P (PatternReader.failAt cause offset : Reader α) Q :=
  of_fails (fails_failAt cause offset)

theorem failBack (cause : PatternCause) (back : ℕ) :
    Yields P (PatternReader.failBack cause back : Reader α) Q :=
  of_fails (fails_failBack cause back)

theorem ite {c : Prop} [Decidable c] {m n : Reader α} (hm : c → Yields P m Q)
    (hn : ¬ c → Yields P n Q) : Yields P (if c then m else n) Q := by
  split_ifs with hc
  · exact hm hc
  · exact hn hc

theorem get {f : State → Reader α} (hf : ∀ s, Yields P (f s) Q) : Yields P (get >>= f) Q :=
  fun s _ _ hs h => hf s hs h

theorem modify {g : State → State} (h : ∀ s, P s → P (g s)) :
    Yields P (modify g : Reader PUnit) fun _ => P := by
  rintro s t _ hs ⟨⟩
  exact h s hs

/-- What does not depend on the state holds on the way, too. -/
theorem of_and {F : Prop} {m : Reader α} (h : F → Yields P m Q) :
    Yields (fun s => F ∧ P s) m Q :=
  fun _ _ _ hs => h hs.1 hs.2

end Yields

theorem At.take {s t : State} {k : Token} (hs : At given p s) (h : take s = .ok (some k, t)) :
    ∃ q, p.step k = some q ∧ At given q t := by
  rcases take_eq_ok h with ⟨hnone, -, -⟩ | ⟨_, hsome, hk, hrest⟩
  · cases hnone
  · cases hsome
    have hstays := hs.2
    rw [tokens_of_tokenOf hk, hrest, List.drop_left, staysOn_cons] at hstays
    obtain ⟨q, hq, hq'⟩ := hstays
    exact ⟨q, hq, (flags_of_take h).trans hs.1, hq'⟩

/-- Two places that only one character tells apart are the same where it is not next. -/
theorem At.of_ne {s : State} {c : Char} (h : At given p s) (hc : tokenOf s.rest ≠ some (.char c))
    (hstep : ∀ k, k ≠ .char c → p.step k = q.step k) : At given q s := by
  refine ⟨h.1, ?_⟩
  have hstays := h.2
  cases hk : tokenOf s.rest with
  | none =>
    rw [tokenOf_eq_none_iff.1 hk]
    rfl
  | some k =>
    have hne : k ≠ .char c := fun heq => hc (hk.trans (congrArg some heq))
    rw [tokens_of_tokenOf hk, staysOn_cons, hstep k hne] at hstays
    rwa [tokens_of_tokenOf hk, staysOn_cons]

namespace Yields

variable {R : β → State → Prop}

theorem take {f : Option Token → Reader β} (hnone : Yields (At given p) (f none) R)
    (hsome : ∀ k q, p.step k = some q → Yields (At given q) (f (some k)) R) :
    Yields (At given p) (take >>= f) R := by
  intro s u b hs h
  obtain ⟨x, t, ht, hu⟩ := bind_eq_ok h
  cases x with
  | none =>
    rcases take_eq_ok ht with ⟨-, -, rfl⟩ | ⟨_, hsome, -⟩
    · exact hnone hs hu
    · cases hsome
  | some k =>
    obtain ⟨q, hq, htq⟩ := hs.take ht
    exact hsome k q hq htq hu

theorem takeIf {wanted : Token → Bool} {f : Option Token → Reader β}
    (hnone : Yields (fun s => At given p s ∧ (tokenOf s.rest).any wanted = false) (f none) R)
    (hsome : ∀ k q, wanted k → p.step k = some q → Yields (At given q) (f (some k)) R) :
    Yields (At given p) (takeIf wanted >>= f) R := by
  intro s u b hs h
  obtain ⟨x, t, ht, hu⟩ := bind_eq_ok h
  rcases takeIf_eq_ok ht with ⟨rfl, hno, rfl⟩ | ⟨k, rfl, hk, -, htake⟩
  · exact hnone ⟨hs, hno⟩ hu
  · obtain ⟨q, hq, htq⟩ := hs.take htake
    exact hsome k q hk hq htq hu

theorem accept {c : Char} {f : Bool → Reader β} (hstep : p.step (.char c) = some q)
    (hyes : Yields (At given q) (f true) R)
    (hno : Yields (fun s => At given p s ∧ tokenOf s.rest ≠ some (.char c)) (f false) R) :
    Yields (At given p) (accept c >>= f) R := by
  have hbind : (PatternReader.accept c >>= f) =
      PatternReader.takeIf (· == .char c) >>= fun x => f x.isSome := by
    simp only [PatternReader.accept, bind_assoc, pure_bind]
  rw [hbind]
  refine .takeIf (hno.of_imp fun s hs => ⟨hs.1, ?_⟩) fun k q' hk hq' => ?_
  · intro heq
    have hfound := hs.2
    simp [heq] at hfound
  · rw [beq_iff_eq] at hk
    rw [hk, hstep, Option.some_inj] at hq'
    exact hq' ▸ hyes

/-- A character that means nothing here may be there or not. -/
theorem acceptPlain {c : Char} {f : Bool → Reader β} (hstep : p.step (.char c) = some p)
    (hf : ∀ b, Yields (At given p) (f b) R) :
    Yields (At given p) (PatternReader.accept c >>= f) R :=
  .accept hstep (hf true) ((hf false).of_imp fun _ hs => hs.1)

end Yields

theorem yields_takeWhile {allowed : Char → Bool}
    (h : ∀ c, allowed c → p.step (.char c) = some p) (n : ℕ) :
    Yields (At given p) (takeWhile allowed n) fun _ => At given p := by
  induction n with
  | zero => exact .pure fun _ hs => hs
  | succ n ih =>
    refine .takeIf (.pure fun _ hs => hs.1) fun k q hk hq => ?_
    cases k with
    | escape c => cases hk
    | char c =>
      rw [h c hk, Option.some_inj] at hq
      exact hq ▸ ih.bind fun _ => .pure fun _ hs => hs

/-! ## Comments and names -/

variable {region : Region}

theorem step_skipped (p : Spot) (close : Char) (region : Region) (t : Token) :
    (p.within (.skipped close region)).step t =
      some (p.within (if t = .char close then region else .skipped close region)) := by
  change some (if t = .char close then p.within region else p.within (.skipped close region)) = _
  split_ifs <;> rfl

theorem yields_takeName (terminator : Char) (what : String) (n : ℕ) (name : List Char) :
    Yields (At given (p.within (.skipped terminator region))) (takeName terminator what n name)
      fun _ => At given (p.within region) := by
  induction n generalizing name with
  | zero => exact .failBack _ _
  | succ n ih =>
    refine .take (.ite (fun _ => .failBack _ _) fun _ => .failBack _ _) fun k q hq => ?_
    rw [step_skipped, Option.some_inj] at hq
    subst hq
    refine .ite (fun hk => ?_) fun hk => ?_
    · rw [if_pos (beq_iff_eq.1 hk)]
      exact .ite (fun _ => .failBack _ _) fun _ => .pure fun _ hs => hs
    · rw [if_neg (by simpa using hk)]
      exact ih _

theorem yields_nameUntil (terminator : Char) (what : String) :
    Yields (At given (p.within (.skipped terminator region))) (nameUntil terminator what)
      fun _ => At given (p.within region) :=
  .get fun _ => yields_takeName _ _ _ _

theorem yields_skipComment (start n : ℕ) :
    Yields (At given (p.within (.skipped ')' region))) (skipComment start n)
      fun _ => At given (p.within region) := by
  induction n with
  | zero => exact .failAt _ _
  | succ n ih =>
    refine .take (.failAt _ _) fun k q hq => ?_
    rw [step_skipped, Option.some_inj] at hq
    subst hq
    refine .ite (fun hk => ?_) fun hk => ?_
    · rw [if_pos (beq_iff_eq.1 hk)]
      exact .pure fun _ hs => hs
    · rw [if_neg (by simpa using hk)]
      exact ih

theorem yields_skipLine (n : ℕ) :
    Yields (fun s => At given (p.within (.skipped '\n' region)) s ∧ s.rest.length < n) (skipLine n)
      fun _ => At given (p.within region) := by
  induction n with
  | zero => exact fun s _ _ hs => absurd hs.2 (Nat.not_lt_zero _)
  | succ n ih =>
    rintro s u _ ⟨hs, hlength⟩ h
    obtain ⟨x, t, ht, hu⟩ := bind_eq_ok h
    cases x with
    | none =>
      -- the end of the text ends a comment, too, and nothing is left to turn the flag off
      cases hu
      rcases take_eq_ok ht with ⟨-, hnil, rfl⟩ | ⟨_, hsome, -⟩
      · refine ⟨hs.1, ?_⟩
        rw [hnil]
        rfl
      · cases hsome
    | some k =>
      obtain ⟨q, hq, htq⟩ := hs.take ht
      rw [step_skipped, Option.some_inj] at hq
      subst hq
      simp only [beq_iff_eq] at hu
      split_ifs at hu with hk
      · cases hu
        rwa [if_pos hk] at htq
      · rw [if_neg hk] at htq
        refine ih ⟨htq, ?_⟩ hu
        have hrest := congrArg List.length (rest_of_take ht)
        have hpos := List.length_pos_iff.2 (chars_ne_nil k)
        rw [List.length_append] at hrest
        omega

theorem yields_checkGroupName (name : String) :
    Yields (At given p) (checkGroupName name) fun _ => At given p :=
  .ite (fun _ => .pure fun _ hs => hs) fun _ => .failBack _ _

/-! ## Escapes -/

/-- Digits mean nothing at this place. -/
def Spot.PassesDigits (p : Spot) : Prop := ∀ c, isHexDigit c → p.step (.char c) = some p

theorem isHexDigit_of_isDigit {c : Char} (h : c.isDigit) : isHexDigit c := by
  simp [isHexDigit, h]

theorem isHexDigit_of_isOctalDigit {c : Char} (h : isOctalDigit c) : isHexDigit c := by
  apply isHexDigit_of_isDigit
  simp only [isOctalDigit, Bool.and_eq_true, decide_eq_true_eq, Char.le_def,
    UInt32.le_iff_toNat_le] at h
  simp only [Char.isDigit, Bool.and_eq_true, decide_eq_true_eq, ge_iff_le, UInt32.le_iff_toNat_le]
  change 48 ≤ c.toNat ∧ c.toNat ≤ 55 at h
  change 48 ≤ c.toNat ∧ c.toNat ≤ 57
  omega

theorem yields_hexEscape (h : p.PassesDigits) (letter : Char) (count : ℕ) :
    Yields (At given p) (hexEscape letter count) fun _ => At given p := by
  refine (yields_takeWhile h count).bind fun digits => ?_
  refine .ite (fun _ => .failBack _ _) fun _ => ?_
  refine .ite (fun _ => .of_fails (fails_throw _)) fun _ => ?_
  exact .ite (fun _ => .failBack _ _) fun _ => .pure fun _ hs => hs

theorem yields_namedEscape [CharacterNames] :
    Yields (At given (p.within (.skipped '}' region))) namedEscape
    fun _ => At given (p.within region) := by
  refine .acceptPlain (step_skipped p _ _ _) fun b => .ite (fun _ => ?_) fun _ => .failBack _ _
  refine (yields_nameUntil _ _).bind fun name => ?_
  cases CharacterNames.named? name with
  | none => exact .failBack _ _
  | some code => exact .pure fun _ hs => hs

theorem behindEscape_of_ne {c : Char} (hc : c ≠ 'N') :
    p.behindEscape region c = p.within region := by
  rw [Spot.behindEscape, if_neg hc]

theorem yields_characterEscape [CharacterNames] (h : (p.within region).PassesDigits) (c : Char) :
    Yields (At given (p.behindEscape region c)) (characterEscape c)
      fun _ => At given (p.within region) := by
  unfold characterEscape
  by_cases hc : c = 'N'
  · subst hc
    exact yields_namedEscape
  · rw [behindEscape_of_ne hc]
    refine .ite (fun _ => yields_hexEscape h _ _) fun _ => ?_
    refine .ite (fun _ => yields_hexEscape h _ _) fun _ => ?_
    refine .ite (fun _ => yields_hexEscape h _ _) fun _ => ?_
    refine .ite (fun hN => absurd (by simpa using hN) hc) fun _ => ?_
    exact .ite (fun _ => .failBack _ _) fun _ => .pure fun _ hs => hs

/-! ## Items -/

/-- Characters that mean nothing among the items of a sequence. -/
def isPlain (c : Char) : Bool := c != '[' && c != '(' && c != ')' && c != '#'

theorem step_items (p : Spot) (t : Token) :
    (p.within .items).step t = some ((p.within .items).behindItem t) := rfl

theorem step_items_of_isPlain (p : Spot) {c : Char} (h : isPlain c) :
    (p.within .items).step (.char c) = some (p.within .items) := by
  simp only [isPlain, Bool.and_eq_true, bne_iff_ne] at h
  obtain ⟨⟨⟨hset, hopen⟩, hclose⟩, hcomment⟩ := h
  rw [step_items]
  simp only [Spot.behindItem, hset, hopen, hclose, hcomment, if_false, decide_false,
    Bool.false_and, Bool.false_eq_true]
  rfl

theorem isPlain_of_isHexDigit {c : Char} (h : isHexDigit c) : isPlain c := by
  have hne : ∀ d : Char, isHexDigit d = false → c ≠ d := by
    rintro d hd rfl
    rw [h] at hd
    cases hd
  simp [isPlain, hne '[' rfl, hne '(' rfl, hne ')' rfl, hne '#' rfl]

theorem passesDigits_items (p : Spot) : (p.within .items).PassesDigits := fun _ hc =>
  step_items_of_isPlain p (isPlain_of_isHexDigit hc)

theorem step_set_of_ne (p : Spot) {t : Token} (h : t ≠ .char ']') :
    (p.within .set).step t = some (p.behindSetItem t) := by
  change some (if t = .char ']' then _ else (p.within .set).behindSetItem t) = _
  rw [if_neg h]
  cases t <;> rfl

theorem passesDigits_set (p : Spot) : (p.within .set).PassesDigits := by
  intro c hc
  rw [step_set_of_ne p]
  · rfl
  · rintro ⟨⟩
    exact absurd hc (by decide)

/-- What has been read folds case, and the reader stands among items again. -/
def Folded (given : Flags) (p : Spot) (pattern : Pattern) (s : State) : Prop :=
  pattern.foldsCase ∧ At given (p.within .items) s

variable {flags : Flags}

theorem rule_ne_exact (h : flags.ignoreCase) : flags.rule ≠ .exact := by
  unfold Flags.rule
  rw [if_pos h]
  split_ifs <;> simp

theorem foldsCase_literal (h : flags.ignoreCase) (code : ℕ) : (literal flags code).foldsCase := by
  simp [literal, Pattern.foldsCase, CharTest.foldsCase, rule_ne_exact h]

theorem yields_checkLookBehind (index : ℕ) :
    Yields (At given p) (checkLookBehind index) fun _ => At given p := by
  refine .get fun s => ?_
  cases s.lookBehindGroups with
  | none => exact .pure fun _ hs => hs
  | some first =>
    exact .ite (fun _ => .failBack _ _) fun _ => .ite (fun _ => .failBack _ _) fun _ =>
      .pure fun _ hs => hs

theorem yields_reference (hflags : flags.ignoreCase) (index back : ℕ) :
    Yields (At given (p.within .items)) (reference flags index back) (Folded given p) := by
  refine .get fun s => ?_
  cases s.closedWidth? index with
  | none => exact .failBack _ _
  | some width =>
    refine (yields_checkLookBehind index).bind fun _ => .pure fun _ hs => ⟨?_, hs⟩
    simp [Pattern.foldsCase, rule_ne_exact hflags]

theorem yields_thirdDigit (h : p.PassesDigits) (c : Char) (second : List Char) :
    Yields (At given p) (thirdDigit c second) fun _ => At given p :=
  .ite (fun _ => yields_takeWhile (fun d hd => h d (isHexDigit_of_isOctalDigit hd)) _)
    fun _ => .pure fun _ hs => hs

theorem yields_numberEscape (hflags : flags.ignoreCase) (c : Char) :
    Yields (At given (p.within .items)) (numberEscape flags c) (Folded given p) := by
  have hdigits := passesDigits_items p
  refine (yields_takeWhile (fun d hd => hdigits d (isHexDigit_of_isDigit hd)) _).bind ?_
  intro second
  refine (yields_thirdDigit hdigits c second).bind fun third => ?_
  refine .ite (fun _ => ?_) fun _ => .get fun s => ?_
  · exact .ite (fun _ => .failBack _ _) fun _ =>
      .pure fun _ hs => ⟨foldsCase_literal hflags _, hs⟩
  · exact .ite (fun _ => yields_reference hflags _ _) fun _ => .failBack _ _

theorem yields_escape [CharacterNames] (hflags : flags.ignoreCase) (c : Char) :
    Yields (At given (p.behindEscape .items c)) (escape flags c)
      fun item => Folded given p item.pattern := by
  have hrule := rule_ne_exact hflags
  have hdigits := passesDigits_items p
  unfold escape
  by_cases hN : c = 'N'
  · subst hN
    exact (yields_characterEscape hdigits 'N').bind fun code =>
      .pure fun _ hs => ⟨foldsCase_literal hflags _, hs⟩
  · rw [behindEscape_of_ne hN]
    split
    · exact .pure fun _ hs => ⟨rfl, hs⟩
    · refine .pure fun _ hs => ⟨?_, hs⟩
      simp [Pattern.foldsCase, CharTest.foldsCase, hrule]
    · exact .pure fun _ hs => ⟨foldsCase_literal hflags _, hs⟩
    · refine .ite (fun _ => ?_) fun _ => .ite (fun _ => ?_) fun _ => ?_
      · refine (yields_takeWhile (fun d hd => hdigits d (isHexDigit_of_isOctalDigit hd)) _).bind ?_
        exact fun digits => .pure fun _ hs => ⟨foldsCase_literal hflags _, hs⟩
      · exact (yields_numberEscape hflags c).bind fun _ => .pure fun _ hs => hs
      · have hcharacter := @yields_characterEscape given _ _ _ hdigits c
        rw [behindEscape_of_ne hN] at hcharacter
        exact hcharacter.bind fun code => .pure fun _ hs => ⟨foldsCase_literal hflags _, hs⟩

/-! ## Sets -/

theorem yields_setEscape [CharacterNames] (flags : Flags) (c : Char) :
    Yields (At given (p.behindEscape .set c)) (setEscape flags c)
      fun _ => At given (p.within .set) := by
  have hdigits := passesDigits_set p
  unfold setEscape
  by_cases hN : c = 'N'
  · subst hN
    exact (yields_characterEscape hdigits 'N').bind fun code => .pure fun _ hs => hs
  · rw [behindEscape_of_ne hN]
    split
    · exact .pure fun _ hs => hs
    · exact .pure fun _ hs => hs
    · refine .ite (fun _ => .pure fun _ hs => hs) fun _ => .ite (fun _ => ?_) fun _ => ?_
      · refine (yields_takeWhile (fun d hd => hdigits d (isHexDigit_of_isOctalDigit hd)) _).bind ?_
        exact fun digits => .ite (fun _ => .failBack _ _) fun _ => .pure fun _ hs => hs
      · refine .ite (fun _ => .failBack _ _) fun _ => ?_
        have hcharacter := @yields_characterEscape given _ _ _ hdigits c
        rw [behindEscape_of_ne hN] at hcharacter
        exact hcharacter.bind fun code => .pure fun _ hs => hs

theorem yields_setItem [CharacterNames] (flags : Flags) (k : Token) :
    Yields (At given (p.behindSetItem k)) (setItem flags k) fun _ => At given (p.within .set) := by
  cases k with
  | escape c => exact yields_setEscape flags c
  | char c => exact .pure fun _ hs => hs

theorem yields_rangeOf (this that : Token) (first last : SetItem) :
    Yields (At given p) (rangeOf this that first last) fun _ => At given p := by
  unfold rangeOf
  split
  · exact .ite (fun _ => .failBack _ _) fun _ => .pure fun _ hs => hs
  · exact .failBack _ _

theorem yields_setItems [CharacterNames] (flags : Flags) (start n : ℕ) (items : List SetItem) :
    Yields (At given (p.within (if items.isEmpty then .setFirst else .set)))
      (setItems flags start n items) fun _ => At given (p.within .items) := by
  induction n generalizing items with
  | zero => exact .failAt _ _
  | succ n ih =>
    refine .take (.failAt _ _) fun this q hq => ?_
    have hmore : ∀ items : List SetItem, items ≠ [] → Yields (At given (p.within .set))
        (setItems flags start n items) fun _ => At given (p.within .items) := by
      intro items hitems
      have hregion := ih items
      rwa [if_neg (by simpa using hitems)] at hregion
    -- before its first item a set cannot end, and a closing bracket is that item
    refine .ite (fun hend => ?_) fun hend => ?_
    · rw [Bool.and_eq_true, beq_iff_eq, Bool.not_eq_true'] at hend
      rw [hend.1, hend.2, if_neg Bool.false_ne_true] at hq
      cases hq
      exact .pure fun _ hs => hs
    · have hq' : q = p.behindSetItem this := by
        split_ifs at hq with hempty
        · cases this <;> cases hq <;> rfl
        · rw [step_set_of_ne p (by simpa [hempty] using hend), Option.some_inj] at hq
          exact hq.symm
      subst hq'
      refine (yields_setItem flags this).bind fun first => ?_
      refine .acceptPlain (step_set_of_ne p (by decide)) fun b => ?_
      refine .ite (fun _ => .take (.failAt _ _) fun that q hq => ?_) fun _ => hmore _ (by simp)
      refine .ite (fun hclose => ?_) fun hclose => ?_
      · rw [beq_iff_eq] at hclose
        subst hclose
        cases hq
        exact .pure fun _ hs => hs
      · rw [step_set_of_ne p (by simpa using hclose), Option.some_inj] at hq
        subst hq
        refine (yields_setItem flags that).bind fun last => ?_
        exact (yields_rangeOf _ _ _ _).bind fun range => hmore _ (by simp)

theorem foldsCase_setPattern (h : flags.ignoreCase) (negated : Bool) (items : List SetItem) :
    (setPattern flags negated items).foldsCase := by
  unfold setPattern
  split <;> simp [Pattern.foldsCase, CharTest.foldsCase, rule_ne_exact h]

theorem yields_characterSet [CharacterNames] (hflags : flags.ignoreCase) :
    Yields (At given (p.within .setOpened)) (characterSet flags) (Folded given p) := by
  refine .get fun s => ?_
  have hitems : ∀ negated : Bool, Yields (At given (p.within .setFirst)) (do
      let items ← setItems flags (s.offset - 1) ((← get).rest.length + 1) []
      return setPattern flags negated items) (Folded given p) := fun negated => .get fun t =>
    (yields_setItems flags _ _ []).bind fun items => .pure fun _ hs =>
      ⟨foldsCase_setPattern hflags _ _, hs⟩
  refine .accept rfl (hitems true) ((hitems false).of_imp ?_)
  rintro t ⟨ht, hcaret⟩
  refine ht.of_ne hcaret fun k hk => ?_
  change some (if k = .char '^' then _ else _) = _
  rw [if_neg hk]
  cases k <;> rfl

end PatternReader
end Outline
