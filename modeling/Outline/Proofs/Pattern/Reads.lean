import Mathlib.Algebra.Ring.Nat
import Mathlib.Data.List.Infix
import Mathlib.Logic.Relation
import Mathlib.Tactic.Common
import Outline.Pattern.Reader

set_option autoImplicit false

/-!
# What readers of patterns do

A reader goes forward by whole tokens and leaves the flags for the whole pattern as they are, unless
it may still read such flags. If it refuses a pattern, a rule is broken, unless the pattern holds a
number that is too large.
-/
namespace Outline.PatternReader

/-! ## Going forward -/

/-- One token further. -/
def IsNext (r t : List Char) : Prop := ∃ k, tokenOf r = some k ∧ t = r.drop k.chars.length

/-- Any number of tokens further. -/
def Later : List Char → List Char → Prop := Relation.ReflTransGen IsNext

theorem chars_append_of_tokenOf {r : List Char} {k : Token} (h : tokenOf r = some k) :
    r = k.chars ++ r.drop k.chars.length := by
  unfold tokenOf at h
  split at h
  · cases h
    rfl
  · cases h
    rfl
  · cases h

theorem chars_ne_nil (k : Token) : k.chars ≠ [] := by
  cases k <;> simp [Token.chars]

theorem Later.suffix {r t : List Char} (h : Later r t) : t <:+ r := by
  induction h with
  | refl => exact List.suffix_rfl
  | tail _ hnext ih =>
    obtain ⟨k, -, rfl⟩ := hnext
    exact (List.drop_suffix _ _).trans ih

/-! ## Numbers that are too large -/

/-- Whether a repetition number is too large to be read. -/
def isOversize (digits : List Char) : Bool :=
  Text.maxDigits < digits.length || Width.unlimited ≤ valueOf 10 digits

/-- Whether a code point or the bounds of a repetition stand at the front and are too large to be
read. -/
def startsOversize : List Char → Bool
  | '\\' :: 'U' :: rest =>
    let digits := rest.take 8
    digits.length == 8 && digits.all isHexDigit && 0x80000000 ≤ valueOf 16 digits
  | '{' :: rest =>
    let low := rest.takeWhile Char.isDigit
    match rest.drop low.length with
    | '}' :: _ => isOversize low
    | ',' :: more =>
      let high := more.takeWhile Char.isDigit
      (more.drop high.length).head? == some '}' && (isOversize low || isOversize high)
    | _ => false
  | _ => false

def hasOversize (chars : List Char) : Bool := chars.tails.any startsOversize

theorem hasOversize_of_suffix {r t : List Char} (hsuffix : t <:+ r) (h : hasOversize t) :
    hasOversize r := by
  obtain ⟨u, hu, hstarts⟩ := List.any_eq_true.1 h
  rw [List.mem_tails] at hu
  exact List.any_eq_true.2 ⟨u, (List.mem_tails _ _).2 (hu.trans hsuffix), hstarts⟩

theorem hasOversize_of_starts {r : List Char} (h : startsOversize r) : hasOversize r :=
  List.any_eq_true.2 ⟨r, (List.mem_tails _ _).2 List.suffix_rfl, h⟩

def isBroken : PatternRefusal → Bool
  | .broken .. => true
  | _ => false

/-! ## Readers -/

variable {α β : Type} {front : List Char}

def Moves (m : Reader α) : Prop := ∀ ⦃s t : State⦄ ⦃a : α⦄, m s = .ok (a, t) → Later s.rest t.rest

def KeepsFlags (m : Reader α) : Prop :=
  ∀ ⦃s t : State⦄ ⦃a : α⦄, m s = .ok (a, t) → t.flags = s.flags

/-- A reader that stands behind the given characters. -/
structure Reads (front : List Char) (m : Reader α) : Prop where
  moves : Moves m
  keepsFlags : KeepsFlags m
  refuses : ∀ ⦃s : State⦄ ⦃e : PatternRefusal⦄, m s = .error e →
    isBroken e ∨ hasOversize (front ++ s.rest)

theorem bind_eq (m : Reader α) (f : α → Reader β) (s : State) :
    (m >>= f) s = match m s with
      | .ok (a, t) => f a t
      | .error e => .error e := by
  change (m s >>= fun p => f p.1 p.2) = _
  cases m s <;> rfl

theorem get_bind (f : State → Reader β) (s : State) : (get >>= f) s = f s s := rfl

theorem bind_of_ok {m : Reader α} {s t : State} {a : α} (h : m s = .ok (a, t))
    (f : α → Reader β) : (m >>= f) s = f a t := by
  rw [bind_eq, h]

theorem bind_of_error {m : Reader α} {s : State} {e : PatternRefusal} (h : m s = .error e)
    (f : α → Reader β) : (m >>= f) s = .error e := by
  rw [bind_eq, h]

theorem bind_congr_state {m m' : Reader α} {s s' : State} (h : m s = m' s') (f : α → Reader β) :
    (m >>= f) s = (m' >>= f) s' := by
  rw [bind_eq, h, ← bind_eq]

theorem bind_eq_ok {m : Reader α} {f : α → Reader β} {s u : State} {b : β}
    (h : (m >>= f) s = .ok (b, u)) : ∃ a t, m s = .ok (a, t) ∧ f a t = .ok (b, u) := by
  rw [bind_eq] at h
  cases hs : m s with
  | error e =>
    rw [hs] at h
    cases h
  | ok p =>
    rw [hs] at h
    exact ⟨p.1, p.2, rfl, h⟩

theorem bind_eq_error {m : Reader α} {f : α → Reader β} {s : State} {e : PatternRefusal}
    (h : (m >>= f) s = .error e) :
    m s = .error e ∨ ∃ a t, m s = .ok (a, t) ∧ f a t = .error e := by
  rw [bind_eq] at h
  cases hs : m s with
  | error e' =>
    rw [hs] at h
    cases h
    exact .inl rfl
  | ok p =>
    rw [hs] at h
    exact .inr ⟨p.1, p.2, rfl, h⟩

theorem Moves.bind {m : Reader α} {f : α → Reader β} (hm : Moves m) (hf : ∀ a, Moves (f a)) :
    Moves (m >>= f) := by
  intro s u b h
  obtain ⟨a, t, hs, ht⟩ := bind_eq_ok h
  exact (hm hs).trans (hf a ht)

theorem moves_pure (a : α) : Moves (pure a : Reader α) := by
  intro s t b h
  cases h
  exact .refl

theorem moves_modify {g : State → State} (hg : ∀ s, (g s).rest = s.rest) :
    Moves (modify g : Reader PUnit) := by
  intro s t _ h
  cases h
  rw [hg]
  exact .refl

theorem Moves.ite {p : Prop} [Decidable p] {m n : Reader α} (hm : Moves m) (hn : Moves n) :
    Moves (if p then m else n) := by
  split_ifs
  · exact hm
  · exact hn

theorem KeepsFlags.bind {m : Reader α} {f : α → Reader β} (hm : KeepsFlags m)
    (hf : ∀ a, KeepsFlags (f a)) : KeepsFlags (m >>= f) := by
  intro s u b h
  obtain ⟨a, t, hs, ht⟩ := bind_eq_ok h
  exact (hf a ht).trans (hm hs)

theorem keepsFlags_pure (a : α) : KeepsFlags (pure a : Reader α) := by
  intro s t b h
  cases h
  rfl

theorem KeepsFlags.ite {p : Prop} [Decidable p] {m n : Reader α} (hm : KeepsFlags m)
    (hn : KeepsFlags n) : KeepsFlags (if p then m else n) := by
  split_ifs
  · exact hm
  · exact hn

/-- A reader that always refuses. -/
def Fails (m : Reader α) : Prop := ∀ s, ∃ e, m s = .error e

theorem Fails.moves {m : Reader α} (h : Fails m) : Moves m := by
  intro s t a hs
  obtain ⟨e, he⟩ := h s
  rw [he] at hs
  cases hs

theorem Fails.keepsFlags {m : Reader α} (h : Fails m) : KeepsFlags m := by
  intro s t a hs
  obtain ⟨e, he⟩ := h s
  rw [he] at hs
  cases hs

theorem fails_throw (e : PatternRefusal) : Fails (throw e : Reader α) := fun _ => ⟨e, rfl⟩

theorem fails_failAt (cause : PatternCause) (offset : ℕ) :
    Fails (failAt cause offset : Reader α) :=
  fails_throw _

theorem fails_failBack (cause : PatternCause) (back : ℕ) :
    Fails (failBack cause back : Reader α) :=
  fun s => ⟨.broken cause (some (s.offset - back)), rfl⟩

theorem Fails.ite {p : Prop} [Decidable p] {m n : Reader α} (hm : Fails m) (hn : Fails n) :
    Fails (if p then m else n) := by
  split_ifs
  · exact hm
  · exact hn

theorem Fails.of_ite {p : Prop} [Decidable p] {m n : Reader α} (hm : Fails m) {s t : State} {a : α}
    (h : (if p then m else n) s = .ok (a, t)) : n s = .ok (a, t) := by
  split_ifs at h
  · obtain ⟨e, he⟩ := hm s
    rw [he] at h
    cases h
  · exact h

namespace Reads

theorem pure (a : α) : Reads front (pure a : Reader α) where
  moves := moves_pure a
  keepsFlags := keepsFlags_pure a
  refuses s e h := by cases h

theorem broken (cause : PatternCause) (offset : Option ℕ) :
    Reads front (throw (.broken cause offset) : Reader α) where
  moves s t a h := by cases h
  keepsFlags s t a h := by cases h
  refuses s e h := by
    cases h
    exact .inl rfl

theorem failAt (cause : PatternCause) (offset : ℕ) :
    Reads front (PatternReader.failAt cause offset : Reader α) :=
  broken _ _

theorem failBack (cause : PatternCause) (back : ℕ) :
    Reads front (PatternReader.failBack cause back : Reader α) where
  moves s t a h := by cases h
  keepsFlags s t a h := by cases h
  refuses s e h := by
    cases h
    exact .inl rfl

/-- What follows a reader need be known only of the values that the reader gives. -/
theorem bind_of {m : Reader α} {f : α → Reader β} (hm : Reads front m)
    (hf : ∀ a s t, m s = .ok (a, t) → Reads [] (f a)) : Reads front (m >>= f) where
  moves s u b h := by
    obtain ⟨a, t, hs, ht⟩ := bind_eq_ok h
    exact (hm.moves hs).trans ((hf a s t hs).moves ht)
  keepsFlags s u b h := by
    obtain ⟨a, t, hs, ht⟩ := bind_eq_ok h
    exact ((hf a s t hs).keepsFlags ht).trans (hm.keepsFlags hs)
  refuses s e h := by
    rcases bind_eq_error h with hs | ⟨a, t, hs, ht⟩
    · exact hm.refuses hs
    · -- a number that is too large for what follows stands ahead of the first reader as well
      refine ((hf a s t hs).refuses ht).imp_right (hasOversize_of_suffix ?_)
      exact (hm.moves hs).suffix.trans (List.suffix_append _ _)

theorem bind {m : Reader α} {f : α → Reader β} (hm : Reads front m)
    (hf : ∀ a, Reads [] (f a)) : Reads front (m >>= f) :=
  hm.bind_of fun a _ _ _ => hf a

/-- A reader may ask where it stands. -/
theorem get {f : State → Reader β} (hf : ∀ s, Reads front (f s)) : Reads front (get >>= f) where
  moves s _ _ h := (hf s).moves h
  keepsFlags s _ _ h := (hf s).keepsFlags h
  refuses s _ h := (hf s).refuses h

theorem ite {p : Prop} [Decidable p] {m n : Reader α} (hm : Reads front m) (hn : Reads front n) :
    Reads front (if p then m else n) := by
  split_ifs
  · exact hm
  · exact hn

theorem modify {g : State → State} (hg : ∀ s, (g s).rest = s.rest ∧ (g s).flags = s.flags) :
    Reads front (modify g : Reader PUnit) where
  moves := moves_modify fun s => (hg s).1
  keepsFlags s t _ h := by
    cases h
    exact (hg s).2
  refuses s e h := by cases h

end Reads

/-! ## Tokens -/

theorem tokenOf_eq_none_iff {r : List Char} : tokenOf r = none ↔ r = [] := by
  unfold tokenOf
  split <;> simp

theorem tokenOf_cons_of_ne {c : Char} (hc : c ≠ '\\') (r : List Char) :
    tokenOf (c :: r) = some (.char c) := by
  unfold tokenOf
  split <;> simp_all

theorem take_eq (s : State) : take s = match tokenOf s.rest with
    | none => .ok (none, s)
    | some k =>
      if s.rest.drop k.chars.length == ['\\'] then
        .error (.broken .loneBackslash (some (s.offset + k.chars.length)))
      else .ok (some k, { s with
        rest := s.rest.drop k.chars.length, offset := s.offset + k.chars.length }) := by
  change (match tokenOf s.rest with
    | none => pure none
    | some t => do
      moveTo (s.rest.drop t.chars.length) (s.offset + t.chars.length)
      return some t : Reader (Option Token)) s = _
  cases tokenOf s.rest with
  | none => rfl
  | some k =>
    simp only [moveTo, bind_eq]
    split_ifs <;> rfl

theorem flags_of_take {s t : State} {x : Option Token} (h : take s = .ok (x, t)) :
    t.flags = s.flags := by
  rw [take_eq] at h
  split at h
  · cases h
    rfl
  · split_ifs at h
    cases h
    rfl

theorem take_eq_ok {s t : State} {x : Option Token} (h : take s = .ok (x, t)) :
    (x = none ∧ s.rest = [] ∧ t = s) ∨
      ∃ k, x = some k ∧ tokenOf s.rest = some k ∧ s.rest = k.chars ++ t.rest := by
  rw [take_eq] at h
  cases hk : tokenOf s.rest with
  | none =>
    rw [hk] at h
    cases h
    exact .inl ⟨rfl, tokenOf_eq_none_iff.1 hk, rfl⟩
  | some k =>
    rw [hk] at h
    simp only at h
    split_ifs at h with hslash
    cases h
    exact .inr ⟨k, rfl, rfl, chars_append_of_tokenOf hk⟩

theorem rest_of_take {s t : State} {k : Token} (h : take s = .ok (some k, t)) :
    s.rest = k.chars ++ t.rest := by
  rcases take_eq_ok h with ⟨hk, -, -⟩ | ⟨_, hk, -, hrest⟩
  · cases hk
  · cases hk
    exact hrest

theorem isBroken_of_take {s : State} {e : PatternRefusal} (h : take s = .error e) :
    isBroken e := by
  rw [take_eq] at h
  split at h
  · cases h
  · split_ifs at h
    cases h
    rfl

theorem reads_take : Reads front take where
  moves s t x h := by
    rcases take_eq_ok h with ⟨-, -, rfl⟩ | ⟨k, -, hk, hrest⟩
    · exact .refl
    · refine .single ⟨k, hk, ?_⟩
      rw [hrest, List.drop_left]
  keepsFlags s t x h := flags_of_take h
  refuses s e h := .inl (isBroken_of_take h)

/-- What follows a token may complain about it as well. -/
theorem Reads.take {f : Option Token → Reader β} (hnone : Reads front (f none))
    (hsome : ∀ k, Reads k.chars (f (some k))) : Reads front (take >>= f) where
  moves := by
    refine Moves.bind (@reads_take []).moves fun x => ?_
    cases x with
    | none => exact hnone.moves
    | some k => exact (hsome k).moves
  keepsFlags := by
    refine KeepsFlags.bind (@reads_take []).keepsFlags fun x => ?_
    cases x with
    | none => exact hnone.keepsFlags
    | some k => exact (hsome k).keepsFlags
  refuses s e h := by
    rcases bind_eq_error h with hs | ⟨x, t, hs, ht⟩
    · exact reads_take.refuses hs
    · rcases take_eq_ok hs with ⟨rfl, -, rfl⟩ | ⟨k, rfl, -, hrest⟩
      · exact hnone.refuses ht
      · rw [hrest]
        exact ((hsome k).refuses ht).imp_right (hasOversize_of_suffix (List.suffix_append _ _))

theorem Reads.peek {f : Option Token → Reader β} (hf : ∀ x, Reads front (f x)) :
    Reads front (peek >>= f) where
  moves s _ _ h := (hf (tokenOf s.rest)).moves h
  keepsFlags s _ _ h := (hf (tokenOf s.rest)).keepsFlags h
  refuses s _ h := (hf (tokenOf s.rest)).refuses h

theorem takeIf_eq (wanted : Token → Bool) (s : State) :
    takeIf wanted s = if (tokenOf s.rest).any wanted then take s else .ok (none, s) := by
  change (if (tokenOf s.rest).any wanted then take else pure none : Reader _) s = _
  split_ifs <;> rfl

theorem takeIf_eq_ok {wanted : Token → Bool} {s t : State} {x : Option Token}
    (h : takeIf wanted s = .ok (x, t)) :
    (x = none ∧ (tokenOf s.rest).any wanted = false ∧ t = s) ∨
      ∃ k, x = some k ∧ wanted k ∧ s.rest = k.chars ++ t.rest ∧ take s = .ok (some k, t) := by
  rw [takeIf_eq] at h
  split_ifs at h with hwanted
  · rcases take_eq_ok h with ⟨-, hnil, -⟩ | ⟨k, rfl, hk, hrest⟩
    · simp [hnil, tokenOf] at hwanted
    · rw [hk] at hwanted
      exact .inr ⟨k, rfl, by simpa using hwanted, hrest, h⟩
  · cases h
    exact .inl ⟨rfl, by simpa using hwanted, rfl⟩

theorem isBroken_of_takeIf {wanted : Token → Bool} {s : State} {e : PatternRefusal}
    (h : takeIf wanted s = .error e) : isBroken e := by
  rw [takeIf_eq] at h
  split_ifs at h
  exact isBroken_of_take h

theorem moves_takeIf (wanted : Token → Bool) : Moves (takeIf wanted) := by
  intro s t x h
  rcases takeIf_eq_ok h with ⟨-, -, rfl⟩ | ⟨k, rfl, -, -, htake⟩
  · exact .refl
  · exact (@reads_take []).moves htake

theorem keepsFlags_takeIf (wanted : Token → Bool) : KeepsFlags (takeIf wanted) := by
  intro s t x h
  rcases takeIf_eq_ok h with ⟨-, -, rfl⟩ | ⟨k, rfl, -, -, htake⟩
  · rfl
  · exact flags_of_take htake

theorem Reads.takeIf {wanted : Token → Bool} {f : Option Token → Reader β}
    (hnone : Reads front (f none)) (hsome : ∀ k, Reads k.chars (f (some k))) :
    Reads front (takeIf wanted >>= f) where
  moves := by
    refine (moves_takeIf wanted).bind fun x => ?_
    cases x with
    | none => exact hnone.moves
    | some k => exact (hsome k).moves
  keepsFlags := by
    refine (keepsFlags_takeIf wanted).bind fun x => ?_
    cases x with
    | none => exact hnone.keepsFlags
    | some k => exact (hsome k).keepsFlags
  refuses s e h := by
    rcases bind_eq_error h with hs | ⟨x, t, ht, hf⟩
    · exact .inl (isBroken_of_takeIf hs)
    rcases takeIf_eq_ok ht with ⟨rfl, -, rfl⟩ | ⟨k, rfl, -, hrest, -⟩
    · exact hnone.refuses hf
    · rw [hrest]
      exact ((hsome k).refuses hf).imp_right (hasOversize_of_suffix (List.suffix_append _ _))

theorem reads_accept (c : Char) : Reads front (accept c) :=
  .takeIf (.pure _) fun _ => .pure _

theorem accept_eq_ok {c : Char} {s t : State} {b : Bool} (h : accept c s = .ok (b, t)) :
    (b = true ∧ s.rest = c :: t.rest) ∨
      (b = false ∧ tokenOf s.rest ≠ some (.char c) ∧ t = s) := by
  obtain ⟨x, u, hu, hpure⟩ := bind_eq_ok h
  cases hpure
  rcases takeIf_eq_ok hu with ⟨rfl, hnot, rfl⟩ | ⟨k, rfl, hk, hrest, -⟩
  · refine .inr ⟨rfl, fun heq => ?_, rfl⟩
    simp [heq] at hnot
  · rw [beq_iff_eq] at hk
    subst hk
    exact .inl ⟨rfl, hrest⟩

theorem reads_takeWhile (allowed : Char → Bool) (n : ℕ) : Reads front (takeWhile allowed n) := by
  induction n generalizing front with
  | zero => exact .pure _
  | succ n ih => exact .takeIf (.pure _) fun _ => ih.bind fun _ => .pure _

theorem isBroken_of_takeWhile {allowed : Char → Bool} {n : ℕ} {s : State} {e : PatternRefusal}
    (h : takeWhile allowed n s = .error e) : isBroken e := by
  induction n generalizing s with
  | zero => cases h
  | succ n ih =>
    rcases bind_eq_error h with hs | ⟨x, t, ht, hf⟩
    · exact isBroken_of_takeIf hs
    · cases x with
      | none => cases hf
      | some k =>
        rcases bind_eq_error hf with hs | ⟨_, _, -, hpure⟩
        · exact ih hs
        · cases hpure

theorem chars_of_isChar {allowed : Char → Bool} {k : Token} (h : k.isChar allowed) :
    k.chars.length = 1 ∧ k.chars.all allowed := by
  cases k with
  | char c => exact ⟨rfl, by simpa [Token.chars, Token.isChar] using h⟩
  | escape c => cases h

theorem takeWhile_eq_ok {allowed : Char → Bool} {n : ℕ} {s t : State} {chars : List Char}
    (h : takeWhile allowed n s = .ok (chars, t)) :
    s.rest = chars ++ t.rest ∧ chars.all allowed ∧ chars.length ≤ n ∧
      (chars.length < n → (tokenOf t.rest).any (·.isChar allowed) = false) := by
  induction n generalizing s chars with
  | zero =>
    cases h
    simp
  | succ n ih =>
    obtain ⟨x, u, hu, hf⟩ := bind_eq_ok h
    rcases takeIf_eq_ok hu with ⟨rfl, hstop, rfl⟩ | ⟨k, rfl, hk, hrest, -⟩
    · cases hf
      exact ⟨rfl, rfl, by simp, fun _ => hstop⟩
    · obtain ⟨more, v, hv, hpure⟩ := bind_eq_ok hf
      cases hpure
      obtain ⟨hmore, hall, hlength, hend⟩ := ih hv
      obtain ⟨hone, hallowed⟩ := chars_of_isChar hk
      refine ⟨?_, ?_, ?_, fun hshort => hend ?_⟩
      · rw [hrest, hmore, List.append_assoc]
      · rw [List.all_append, hallowed, hall, Bool.and_self]
      · rw [List.length_append]
        omega
      · rw [List.length_append] at hshort
        omega

theorem reads_takeName (terminator : Char) (what : String) (n : ℕ) (name : List Char) :
    Reads front (takeName terminator what n name) := by
  induction n generalizing front name with
  | zero => exact .failBack _ _
  | succ n ih =>
    unfold takeName
    refine reads_take.bind fun x => ?_
    cases x with
    | none => exact .ite (.failBack _ _) (.failBack _ _)
    | some k => exact .ite (.ite (.failBack _ _) (.pure _)) (ih _)

theorem reads_nameUntil (terminator : Char) (what : String) :
    Reads front (nameUntil terminator what) :=
  .get fun _ => reads_takeName _ _ _ _

theorem reads_checkGroupName (name : String) : Reads front (checkGroupName name) :=
  .ite (.pure _) (.failBack _ _)

/-! ## Escapes -/

theorem valueOf_lt {digits : List Char} (h : digits.all isHexDigit) :
    valueOf 16 digits < 16 ^ digits.length := by
  have hfold : ∀ n, digits.foldl (fun n c =>
      16 * n + (if c.isDigit then c.toNat - 0x30
        else if c.toNat < 0x61 then c.toNat - 0x37 else c.toNat - 0x57)) n <
      (n + 1) * 16 ^ digits.length := by
    induction digits with
    | nil => simp
    | cons c rest ih =>
      intro n
      rw [List.all_cons, Bool.and_eq_true] at h
      have hdigit : (if c.isDigit then c.toNat - 0x30
          else if c.toNat < 0x61 then c.toNat - 0x37 else c.toNat - 0x57) < 16 := by
        have hc := h.1
        simp only [isHexDigit, Bool.or_eq_true, Bool.and_eq_true, decide_eq_true_eq, Char.isDigit,
          Char.le_def, UInt32.le_iff_toNat_le] at hc
        simp only [Char.isDigit, Bool.and_eq_true, decide_eq_true_eq, ge_iff_le,
          UInt32.le_iff_toNat_le]
        change ((48 ≤ c.toNat ∧ c.toNat ≤ 57) ∨ (97 ≤ c.toNat ∧ c.toNat ≤ 102)) ∨
          65 ≤ c.toNat ∧ c.toNat ≤ 70 at hc
        change (if 48 ≤ c.toNat ∧ c.toNat ≤ 57 then _ else _) < 16
        split_ifs <;> omega
      rw [List.foldl_cons]
      refine (ih h.2 _).trans_le ?_
      rw [List.length_cons, Nat.pow_succ', ← Nat.mul_assoc]
      exact Nat.mul_le_mul_right _ (by omega)
  simpa [valueOf] using hfold 0

theorem reads_hexEscape {letter : Char} {count : ℕ} (h : count < 8 ∨ letter = 'U' ∧ count = 8) :
    Reads ['\\', letter] (hexEscape letter count) where
  moves := by
    refine (@reads_takeWhile [] _ _).moves.bind fun digits => ?_
    exact .ite (fails_failBack _ _).moves (.ite (fails_throw _).moves
      (.ite (fails_failBack _ _).moves (moves_pure _)))
  keepsFlags := by
    refine (@reads_takeWhile [] _ _).keepsFlags.bind fun digits => ?_
    exact .ite (fails_failBack _ _).keepsFlags (.ite (fails_throw _).keepsFlags
      (.ite (fails_failBack _ _).keepsFlags (keepsFlags_pure _)))
  refuses s e he := by
    rcases bind_eq_error he with hs | ⟨digits, t, hs, ht⟩
    · exact .inl (isBroken_of_takeWhile hs)
    · obtain ⟨hrest, hall, -, -⟩ := takeWhile_eq_ok hs
      dsimp only at ht
      split_ifs at ht with hlength hlarge
      · cases ht
        exact .inl rfl
      · have hcount : digits.length = count := by simpa using hlength
        have hlt := valueOf_lt hall
        rcases h with hshort | ⟨rfl, rfl⟩
        · -- seven digits do not reach the limit
          have hpow : 16 ^ digits.length ≤ 16 ^ 7 := Nat.pow_le_pow_right (by omega) (by omega)
          omega
        · refine .inr (hasOversize_of_starts ?_)
          simp [startsOversize, hrest, ← hcount, hall, hlarge]
      · cases ht
        exact .inl rfl
      · cases ht

theorem reads_namedEscape [CharacterNames] : Reads front namedEscape := by
  refine (reads_accept _).bind fun b => .ite ?_ (.failBack _ _)
  refine (reads_nameUntil _ _).bind fun name => ?_
  cases CharacterNames.named? name with
  | none => exact .failBack _ _
  | some code => exact .pure _

theorem reads_characterEscape [CharacterNames] (c : Char) :
    Reads ['\\', c] (characterEscape c) := by
  unfold characterEscape
  split_ifs with hx hu hU hN
  · exact reads_hexEscape (.inl (by omega))
  · exact reads_hexEscape (.inl (by omega))
  · exact reads_hexEscape (.inr ⟨by simpa using hU, rfl⟩)
  · exact reads_namedEscape
  · exact .failBack _ _
  · exact .pure _

theorem reads_setEscape [CharacterNames] (flags : Flags) (c : Char) :
    Reads ['\\', c] (setEscape flags c) := by
  unfold setEscape
  split
  · exact .pure _
  · exact .pure _
  · refine .ite (.pure _) (.ite ?_ (.ite (.failBack _ _)
      ((reads_characterEscape c).bind fun _ => .pure _)))
    exact (reads_takeWhile _ _).bind fun digits => .ite (.failBack _ _) (.pure _)

theorem reads_checkLookBehind (index : ℕ) : Reads front (checkLookBehind index) := by
  refine .get fun s => ?_
  cases s.lookBehindGroups with
  | none => exact .pure _
  | some first => exact .ite (.failBack _ _) (.ite (.failBack _ _) (.pure _))

theorem reads_reference (flags : Flags) (index back : ℕ) :
    Reads front (reference flags index back) := by
  refine .get fun s => ?_
  cases s.closedWidth? index with
  | none => exact .failBack _ _
  | some width => exact (reads_checkLookBehind _).bind fun _ => .pure _

theorem reads_thirdDigit (c : Char) (second : List Char) : Reads front (thirdDigit c second) :=
  .ite (reads_takeWhile _ _) (.pure _)

theorem reads_numberEscape (flags : Flags) (c : Char) : Reads front (numberEscape flags c) := by
  refine (reads_takeWhile _ _).bind fun second => (reads_thirdDigit _ _).bind fun third => ?_
  exact .ite (.ite (.failBack _ _) (.pure _))
    (.get fun s => .ite (reads_reference _ _ _) (.failBack _ _))

theorem reads_escape [CharacterNames] (flags : Flags) (c : Char) :
    Reads ['\\', c] (escape flags c) := by
  unfold escape
  split
  · exact .pure _
  · exact .pure _
  · exact .pure _
  · exact .ite ((reads_takeWhile _ _).bind fun _ => .pure _)
      (.ite ((reads_numberEscape _ _).bind fun _ => .pure _)
        ((reads_characterEscape c).bind fun _ => .pure _))

/-! ## Sets -/

theorem reads_setItem [CharacterNames] (flags : Flags) (k : Token) :
    Reads k.chars (setItem flags k) := by
  cases k with
  | escape c => exact reads_setEscape flags c
  | char c => exact .pure _

theorem reads_rangeOf (this that : Token) (first last : SetItem) :
    Reads front (rangeOf this that first last) := by
  unfold rangeOf
  split
  · exact .ite (.failBack _ _) (.pure _)
  · exact .failBack _ _

theorem reads_setItems [CharacterNames] (flags : Flags) (start n : ℕ) (items : List SetItem) :
    Reads front (setItems flags start n items) := by
  induction n generalizing front items with
  | zero => exact .failAt _ _
  | succ n ih =>
    unfold setItems
    refine .take (.failAt _ _) fun this => ?_
    refine .ite (.pure _) ((reads_setItem flags this).bind fun first => ?_)
    refine (reads_accept _).bind fun b => .ite (.take (.failAt _ _) fun that => ?_) (ih _)
    exact .ite (.pure _) ((reads_setItem flags that).bind fun last =>
      (reads_rangeOf _ _ _ _).bind fun _ => ih _)

theorem reads_characterSet [CharacterNames] (flags : Flags) : Reads front (characterSet flags) :=
  .get fun _ => (reads_accept _).bind fun _ => .get fun _ =>
    (reads_setItems _ _ _ _).bind fun _ => .pure _

/-! ## Repetition -/

theorem takeWhile_eq_nil {allowed : Char → Bool} {r : List Char} (hslash : allowed '\\' = false)
    (h : (tokenOf r).any (·.isChar allowed) = false) : r.takeWhile allowed = [] := by
  cases r with
  | nil => rfl
  | cons c rest =>
    refine List.takeWhile_cons_of_neg ?_
    by_cases hc : c = '\\'
    · simp [hc, hslash]
    · rw [tokenOf_cons_of_ne hc] at h
      simpa [Token.isChar] using h

/-- With enough fuel, all characters of a kind are taken. -/
theorem takeWhile_eq_ok_of_le {allowed : Char → Bool} {n : ℕ} {s t : State} {chars : List Char}
    (hslash : allowed '\\' = false) (hn : s.rest.length ≤ n)
    (h : takeWhile allowed n s = .ok (chars, t)) :
    chars = s.rest.takeWhile allowed ∧ s.rest = chars ++ t.rest := by
  obtain ⟨hrest, hall, -, hend⟩ := takeWhile_eq_ok h
  refine ⟨?_, hrest⟩
  have hstop : t.rest.takeWhile allowed = [] := by
    by_cases hshort : chars.length < n
    · exact takeWhile_eq_nil hslash (hend hshort)
    · have hnil : t.rest.length = 0 := by
        rw [hrest, List.length_append] at hn
        omega
      rw [List.eq_nil_of_length_eq_zero hnil]
      rfl
  rw [hrest, List.takeWhile_append_of_pos (by simpa using hall), hstop, List.append_nil]

theorem reads_boundDigits (fuel : ℕ) : Reads front (boundDigits fuel) :=
  (reads_takeWhile _ _).bind fun _ => (reads_accept _).bind fun _ =>
    .ite ((reads_takeWhile _ _).bind fun _ => .pure _) (.pure _)

theorem repetitionNumber_eq_error {digits : List Char} {s : State} {e : PatternRefusal}
    (h : repetitionNumber digits s = .error e) : isOversize digits := by
  unfold repetitionNumber at h
  dsimp only at h
  split_ifs at h with hlength hvalue
  · simp [isOversize, hlength]
  · simp [isOversize, hvalue]
  · cases h

theorem boundsOf_eq_error {start : ℕ} {low high : List Char} {s : State} {e : PatternRefusal}
    (h : boundsOf start low high s = .error e) :
    isBroken e ∨ isOversize low ∨ isOversize high := by
  rcases bind_eq_error h with hs | ⟨least, t, -, ht⟩
  · unfold lowerBound at hs
    split_ifs at hs
    · cases hs
    · exact .inr (.inl (repetitionNumber_eq_error hs))
  · split_ifs at ht
    · cases ht
    · rcases bind_eq_error ht with hs | ⟨most, u, -, hu⟩
      · exact .inr (.inr (repetitionNumber_eq_error hs))
      · split_ifs at hu
        · cases hu
          exact .inl rfl
        · cases hu

theorem moves_repetitionNumber (digits : List Char) : Moves (repetitionNumber digits) :=
  .ite (fails_throw _).moves (.ite (fails_throw _).moves (moves_pure _))

theorem moves_boundsOf (start : ℕ) (low high : List Char) : Moves (boundsOf start low high) := by
  have hlower : Moves (lowerBound low) := .ite (moves_pure _) (moves_repetitionNumber low)
  exact hlower.bind fun least => .ite (moves_pure _)
    ((moves_repetitionNumber high).bind fun most => .ite (fails_failAt _ _).moves (moves_pure _))

theorem keepsFlags_boundsOf (start : ℕ) (low high : List Char) :
    KeepsFlags (boundsOf start low high) := by
  have hnumber : ∀ digits, KeepsFlags (repetitionNumber digits) := fun digits =>
    .ite (fails_throw _).keepsFlags (.ite (fails_throw _).keepsFlags (keepsFlags_pure _))
  have hlower : KeepsFlags (lowerBound low) := .ite (keepsFlags_pure _) (hnumber low)
  exact hlower.bind fun least => .ite (keepsFlags_pure _)
    ((hnumber high).bind fun most => .ite (fails_failAt _ _).keepsFlags (keepsFlags_pure _))

theorem reads_closedDigits (fuel : ℕ) : Reads front (closedDigits fuel) :=
  (reads_boundDigits fuel).bind fun _ => (reads_accept _).bind fun _ => .ite (.pure _) (.pure _)

theorem boundDigits_eq_ok {k : ℕ} {s t : State} {low high : List Char}
    (hk : s.rest.length ≤ k) (h : boundDigits k s = .ok ((low, high), t)) :
    low = s.rest.takeWhile Char.isDigit ∧
      ((high = low ∧ s.rest = low ++ t.rest) ∨
        ∃ more, s.rest = low ++ ',' :: more ∧ high = more.takeWhile Char.isDigit ∧
          more = high ++ t.rest) := by
  obtain ⟨low', u, hlow, hmore⟩ := bind_eq_ok h
  obtain ⟨b, v, hcomma, hhigh⟩ := bind_eq_ok hmore
  obtain ⟨htake, hrest⟩ := takeWhile_eq_ok_of_le (by decide) hk hlow
  rcases accept_eq_ok hcomma with ⟨rfl, hu⟩ | ⟨rfl, -, hu⟩
  · obtain ⟨high', w, htake', hpure⟩ := bind_eq_ok hhigh
    cases hpure
    have hk' : v.rest.length ≤ k := by
      rw [hrest, hu, List.length_append, List.length_cons] at hk
      omega
    refine ⟨htake, .inr ⟨v.rest, ?_, takeWhile_eq_ok_of_le (by decide) hk' htake'⟩⟩
    rw [hrest, hu]
  · cases hhigh
    exact ⟨htake, .inl ⟨rfl, hu ▸ hrest⟩⟩

theorem closedDigits_eq_ok {k : ℕ} {s t : State} {digits : Option (List Char × List Char)}
    (h : closedDigits k s = .ok (digits, t)) :
    ∃ read u, boundDigits k s = .ok (read, u) ∧
      ((digits = some read ∧ u.rest = '}' :: t.rest) ∨ (digits = none ∧ t = u)) := by
  obtain ⟨read, u, hu, hmore⟩ := bind_eq_ok h
  obtain ⟨b, v, hclose, hpure⟩ := bind_eq_ok hmore
  refine ⟨read, u, hu, ?_⟩
  rcases accept_eq_ok hclose with ⟨rfl, hv⟩ | ⟨rfl, -, rfl⟩
  · cases hpure
    exact .inl ⟨rfl, hv⟩
  · cases hpure
    exact .inr ⟨rfl, rfl⟩

/-- The digits are those that `startsOversize` looks at. -/
theorem startsOversize_of_closedDigits {k : ℕ} {s t : State} {low high : List Char}
    (hk : s.rest.length ≤ k) (hdigits : closedDigits k s = .ok (some (low, high), t))
    (h : isOversize low ∨ isOversize high) : startsOversize ('{' :: s.rest) := by
  obtain ⟨_, u, hu, ⟨heq, hclose⟩ | ⟨heq, -⟩⟩ := closedDigits_eq_ok hdigits
  · cases heq
    obtain ⟨htake, ⟨rfl, hrest⟩ | ⟨more, hrest, htake', hmore⟩⟩ := boundDigits_eq_ok hk hu
    · have hdrop : s.rest.drop high.length = '}' :: t.rest := by
        rw [hrest, List.drop_left, hclose]
      simp only [startsOversize, ← htake, hdrop]
      simpa using h
    · have hdrop : s.rest.drop low.length = ',' :: more := by
        rw [hrest, List.drop_left]
      have hdrop' : more.drop high.length = '}' :: t.rest := by
        conv_lhs => rw [hmore]
        rw [List.drop_left, hclose]
      simp only [startsOversize, ← htake, hdrop, ← htake', hdrop']
      simpa using h
  · cases heq

theorem moveTo_eq_ok {s t : State} {rest : List Char} {offset : ℕ} {x : Unit}
    (h : moveTo rest offset s = .ok (x, t)) : t = { s with rest := rest, offset := offset } := by
  unfold moveTo at h
  split_ifs at h
  · cases h
  · cases h
    rfl

theorem isBroken_of_moveTo {s : State} {rest : List Char} {offset : ℕ} {e : PatternRefusal}
    (h : moveTo rest offset s = .error e) : isBroken e := by
  unfold moveTo at h
  split_ifs at h
  · cases h
    rfl
  · cases h

theorem braces_eq (s : State) :
    braces s = if tokenOf s.rest == some (.char '}') then .ok (none, s) else
      (do
        match ← closedDigits (s.rest.length + 1) with
        | some (low, high) => return some (← boundsOf s.offset low high)
        | none =>
          moveTo s.rest s.offset
          return none : Reader (Option Bounds)) s := by
  change (if tokenOf s.rest == some (.char '}') then pure none else _ : Reader _) s = _
  split_ifs <;> rfl

theorem reads_braces : Reads ['{'] braces where
  moves s t x h := by
    rw [braces_eq] at h
    split_ifs at h
    · cases h
      exact .refl
    obtain ⟨digits, u, hu, hbounds⟩ := bind_eq_ok h
    cases digits with
    | none =>
      obtain ⟨_, w, hw, hpure⟩ := bind_eq_ok hbounds
      cases hpure
      rw [moveTo_eq_ok hw]
      exact .refl
    | some digits =>
      obtain ⟨b, w, hw, hpure⟩ := bind_eq_ok hbounds
      cases hpure
      exact ((@reads_closedDigits [] _).moves hu).trans (moves_boundsOf _ _ _ hw)
  keepsFlags s t x h := by
    rw [braces_eq] at h
    split_ifs at h
    · cases h
      rfl
    obtain ⟨digits, u, hu, hbounds⟩ := bind_eq_ok h
    have hflags := (@reads_closedDigits [] _).keepsFlags hu
    cases digits with
    | none =>
      obtain ⟨_, w, hw, hpure⟩ := bind_eq_ok hbounds
      cases hpure
      rw [moveTo_eq_ok hw]
      exact hflags
    | some digits =>
      obtain ⟨b, w, hw, hpure⟩ := bind_eq_ok hbounds
      cases hpure
      exact (keepsFlags_boundsOf _ _ _ hw).trans hflags
  refuses s e h := by
    rw [braces_eq] at h
    split_ifs at h
    rcases bind_eq_error h with hs | ⟨digits, t, ht, hbounds⟩
    · exact (reads_closedDigits _).refuses hs
    cases digits with
    | none =>
      rcases bind_eq_error hbounds with hs | ⟨_, _, -, hpure⟩
      · exact .inl (isBroken_of_moveTo hs)
      · cases hpure
    | some digits =>
      rcases bind_eq_error hbounds with hs | ⟨_, _, -, hpure⟩
      · refine (boundsOf_eq_error hs).imp_right fun hoversize => hasOversize_of_starts ?_
        exact startsOversize_of_closedDigits (Nat.le_succ _) ht hoversize
      · cases hpure

theorem reads_bounds {c : Char} (hc : c = '?' ∨ c = '*' ∨ c = '+' ∨ c = '{') :
    Reads [c] (bounds c) := by
  rcases hc with rfl | rfl | rfl | rfl
  · exact .pure _
  · exact .pure _
  · exact .pure _
  · exact reads_braces

theorem reads_greed : Reads front greed :=
  (reads_accept _).bind fun _ => .ite (.pure _)
    ((reads_accept _).bind fun _ => .ite (.pure _) (.pure _))

theorem reads_repeatItem (start : ℕ) (b : Bounds) (items : List Item) :
    Reads front (repeatItem start b items) := by
  unfold repeatItem
  split
  · exact .failAt _ _
  · split
    · exact .failAt _ _
    · exact .failAt _ _
    · exact reads_greed.bind fun _ => .pure _

/-! ## Brackets -/

theorem reads_flagsOff (on : List Char) (n : ℕ) (off : List Char) (c : Char) :
    Reads front (flagsOff on n off c) := by
  induction n generalizing front off c with
  | zero => exact .failBack _ _
  | succ n ih =>
    refine .ite (.failBack _ _) (reads_take.bind fun x => ?_)
    split
    · exact .failBack _ _
    · exact .ite (.failBack _ _) (.ite (.failBack _ _) (.pure _))
    · split
      · exact .ite (ih _ _) (.failBack _ _)
      · exact .failBack _ _

theorem reads_flagsAfterMinus (on : List Char) : Reads front (flagsAfterMinus on) := by
  refine .ite (.failBack _ _) (reads_take.bind fun x => ?_)
  split
  · exact .failBack _ _
  · split
    · exact .ite (.get fun s => reads_flagsOff _ _ _ _) (.failBack _ _)
    · exact .failBack _ _

theorem reads_flagsOn (n : ℕ) (on : List Char) (c : Char) : Reads front (flagsOn n on c) := by
  induction n generalizing front on c with
  | zero => exact .failBack _ _
  | succ n ih =>
    unfold flagsOn
    refine .ite (.failBack _ _) (.ite (.failBack _ _) (reads_take.bind fun x => ?_))
    split
    · exact .failBack _ _
    · exact .pure _
    · exact reads_flagsAfterMinus _
    · exact .ite (.failBack _ _) (.pure _)
    · split
      · exact .ite (ih _ _) (.failBack _ _)
      · exact .failBack _ _

theorem reads_inlineFlags (c : Char) : Reads front (inlineFlags c) :=
  .ite (reads_flagsAfterMinus _) (.get fun _ => reads_flagsOn _ _ _)

theorem reads_skipLine (n : ℕ) : Reads front (skipLine n) := by
  induction n generalizing front with
  | zero => exact .pure _
  | succ n ih =>
    refine reads_take.bind fun x => ?_
    cases x with
    | none => exact .pure _
    | some k => exact .ite (.pure _) ih

theorem reads_skipComment (start n : ℕ) : Reads front (skipComment start n) := by
  induction n generalizing front with
  | zero => exact .failAt _ _
  | succ n ih =>
    refine reads_take.bind fun x => ?_
    cases x with
    | none => exact .failAt _ _
    | some k => exact .ite (.pure _) ih

theorem reads_namedReference (flags : Flags) : Reads front (namedReference flags) := by
  refine (reads_nameUntil _ _).bind fun name => (reads_checkGroupName _).bind fun _ => ?_
  refine .get fun s => ?_
  split
  · exact .failBack _ _
  · exact reads_reference _ _ _

theorem reads_conditionIndex (name : String) : Reads front (conditionIndex name) := by
  refine .ite (.get fun s => ?_) ?_
  · cases s.names.lookup name with
    | none => exact .failBack _ _
    | some index => exact .pure _
  · split
    · refine .ite (.failBack _ _)
        (.ite (.failBack _ _) (.bind (.modify fun s => ?_) fun _ => .pure _))
      split_ifs <;> exact ⟨rfl, rfl⟩
    · exact .failBack _ _

theorem reads_conditionGroup : Reads front conditionGroup :=
  (reads_nameUntil _ _).bind fun _ => (reads_conditionIndex _).bind fun _ =>
    (reads_checkLookBehind _).bind fun _ => .pure _

theorem reads_openGroup (name : Option String) : Reads front (openGroup name) := by
  refine .get fun s => ?_
  split
  · exact Reads.bind (.modify fun _ => ⟨rfl, rfl⟩) fun _ => .pure _
  · refine .get fun s => ?_
    split
    · exact .failBack _ _
    · exact Reads.bind (.modify fun _ => ⟨rfl, rfl⟩) fun _ => .pure _

theorem reads_closeGroup (index : ℕ) (body : Pattern) : Reads front (closeGroup index body) :=
  .modify fun _ => ⟨rfl, rfl⟩

theorem reads_extension (flags : Flags) : Reads front (extension flags) := by
  refine reads_take.bind fun x => ?_
  split
  · exact .failBack _ _
  · split
    · refine (reads_accept _).bind fun b => .ite ?_ ?_
      · exact (reads_nameUntil _ _).bind fun _ => (reads_checkGroupName _).bind fun _ => .pure _
      · refine (reads_accept _).bind fun b => .ite (.pure _) (reads_take.bind fun x => ?_)
        cases x with
        | none => exact .failBack _ _
        | some k => exact .failBack _ _
    · exact .pure _
    · exact .pure _
    · exact .pure _
    · exact .pure _
    · refine reads_take.bind fun x => ?_
      split
      · exact .failBack _ _
      · exact .pure _
      · exact .pure _
      · exact .failBack _ _
    · exact .pure _
    · exact .pure _
    · refine .ite ((reads_inlineFlags _).bind fun change => ?_) (.failBack _ _)
      cases change with
      | global on => exact .pure _
      | _ => exact .pure _
    · exact .failBack _ _

theorem reads_close (start : ℕ) : Reads front (close start) :=
  (reads_accept _).bind fun _ => .ite (.pure _) (.failAt _ _)

theorem reads_bracketPiece (flags : Flags) (start : ℕ) :
    Reads front (bracketPiece flags start) := by
  refine (reads_accept _).bind fun b => ?_
  have hopening : Reads [] (if b then extension flags else pure (.capture none)) :=
    .ite (reads_extension flags) (.pure _)
  refine hopening.bind fun opening => ?_
  split
  · exact .get fun s => (reads_skipComment _ _).bind fun _ => .pure _
  · exact (reads_namedReference _).bind fun _ => .pure _
  · exact .pure _
  · exact .pure _

theorem reads_characterPiece [CharacterNames] (flags : Flags) (start : ℕ) (c : Char) :
    Reads [c] (characterPiece flags start c) := by
  unfold characterPiece
  refine .ite (.pure _) ?_
  refine .ite (.get fun s => (reads_skipLine _).bind fun _ => .pure _) ?_
  refine .ite ((reads_characterSet _).bind fun _ => .pure _) ?_
  by_cases hrepeat : c == '?' || c == '*' || c == '+' || c == '{'
  · rw [if_pos hrepeat]
    refine (reads_bounds (by simpa [or_assoc] using hrepeat)).bind fun b => ?_
    split
    · exact .pure _
    · exact .pure _
  · rw [if_neg hrepeat]
    exact .ite (.pure _) (.ite (.pure _) (.ite (.pure _)
      (.ite (reads_bracketPiece _ _) (.pure _))))

theorem reads_piece [CharacterNames] (flags : Flags) (start : ℕ) (k : Token) :
    Reads k.chars (piece flags start k) := by
  cases k with
  | escape c => exact (reads_escape flags c).bind fun _ => .pure _
  | char c => exact reads_characterPiece flags start c

/-! ## Sequences and groups -/

theorem reads_withinLookBehind {body : Reader Pattern} (h : Reads [] body) :
    Reads front (withinLookBehind body) :=
  .get fun _ => Reads.bind (.modify fun _ => ⟨rfl, rfl⟩) fun _ => h.bind fun _ =>
    Reads.bind (.modify fun _ => ⟨rfl, rfl⟩) fun _ => .pure _

theorem next_bind (f : Option (ℕ × Token) → Reader β) :
    (next >>= f) = tell >>= fun start =>
      takeIf (!isEnd ·) >>= fun x => f (x.map fun k => (start, k)) := by
  simp only [next, bind_assoc, pure_bind]

theorem Reads.next {f : Option (ℕ × Token) → Reader β} (hnone : Reads front (f none))
    (hsome : ∀ start k, Reads k.chars (f (some (start, k)))) : Reads front (next >>= f) := by
  rw [next_bind]
  exact .get fun s => .takeIf hnone fun k => hsome _ k

theorem ne_nil_of_repeatItem {start : ℕ} {b : Bounds} {found done : List Item} {s t : State}
    (h : repeatItem start b found s = .ok (done, t)) : done ≠ [] := by
  rcases found with _ | ⟨⟨kind, pattern⟩, before⟩
  · cases h
  cases kind with
  | anchor => cases h
  | repetition => cases h
  | other =>
    obtain ⟨greed, u, -, hpure⟩ := bind_eq_ok h
    cases hpure
    exact List.cons_ne_nil _ _

/-- What holds of the readers with some fuel. Behind the first item no flags for the whole pattern
are read. -/
structure ReadsWith [CharacterNames] (n : ℕ) : Prop where
  alternatives : ∀ {top : Bool} {flags : Flags} {found : List Pattern}, (top → found ≠ []) →
    Reads [] (alternatives n top flags found)
  items : ∀ {first : Bool} {flags : Flags} {found : List Item}, (first → found ≠ []) →
    Reads [] (items n first flags found)
  group : ∀ {flags : Flags} {start : ℕ} {opening : Opening}, Reads [] (group n flags start opening)

theorem readsWith_zero [CharacterNames] : ReadsWith 0 where
  alternatives _ := .failBack _ _
  items _ := .failBack _ _
  group := .failBack _ _

section Fuel

variable {n : ℕ} {flags : Flags}

theorem reads_alternatives_succ [CharacterNames] (ih : ReadsWith n) {top : Bool}
    {found : List Pattern} (htop : top → found ≠ []) :
    Reads [] (alternatives (n + 1) top flags found) := by
  have hfirst : (top && found.isEmpty) = true → ([] : List Item) ≠ [] := by
    intro h
    rw [Bool.and_eq_true, List.isEmpty_iff] at h
    exact absurd h.2 (htop h.1)
  rw [alternatives]
  refine .get fun s => (ih.items hfirst).bind fun items => (reads_accept _).bind fun b => ?_
  exact .ite (ih.alternatives fun _ => List.cons_ne_nil _ _) (.pure _)

theorem reads_items_succ [CharacterNames] (ih : ReadsWith n) {first : Bool} {found : List Item}
    (hfirst : first → found ≠ []) : Reads [] (items (n + 1) first flags found) := by
  rw [items]
  refine .next (.pure _) fun start k => (reads_piece _ _ _).bind fun p => ?_
  cases p with
  | nothing => exact ih.items hfirst
  | item item => exact ih.items fun _ => List.cons_ne_nil _ _
  | repetition b =>
    exact (reads_repeatItem _ _ _).bind_of fun _ _ _ h =>
      ih.items fun _ => ne_nil_of_repeatItem h
  | globalFlags on =>
    have hlate : ¬ (first && found.isEmpty) = true := by
      intro h
      rw [Bool.and_eq_true, List.isEmpty_iff] at h
      exact hfirst h.1 h.2
    simp only [if_neg hlate]
    exact .failAt _ _
  | group opening => exact ih.group.bind fun _ => ih.items fun _ => List.cons_ne_nil _ _

theorem reads_group_succ [CharacterNames] (ih : ReadsWith n) {start : ℕ} {opening : Opening} :
    Reads [] (group (n + 1) flags start opening) := by
  have hbody : ∀ flags, Reads [] (alternatives n false flags []) := fun flags =>
    ih.alternatives (by simp)
  have hbranch : ∀ flags, Reads [] (items n false flags []) := fun flags => ih.items (by simp)
  have hclosed : ∀ flags (p : Pattern → Pattern), Reads [] (do
      let body ← alternatives n false flags []
      close start
      return p body) := fun flags p =>
    (hbody _).bind fun _ => (reads_close _).bind fun _ => .pure _
  rw [group.eq_def]
  cases opening with
  | capture name =>
    exact (reads_openGroup _).bind fun _ => (hbody _).bind fun _ =>
      (reads_close _).bind fun _ => (reads_closeGroup _ _).bind fun _ => .pure _
  | flagged flags => exact hclosed flags .flagged
  | atomic => exact hclosed flags .atomic
  | ahead negative => exact hclosed flags (.look negative none)
  | behind negative =>
    exact (reads_withinLookBehind (hbody _)).bind fun _ =>
      (reads_close _).bind fun _ => .pure _
  | condition =>
    refine reads_conditionGroup.bind fun index => (hbranch _).bind fun present =>
      (reads_accept _).bind fun b => .ite ?_ ((reads_close _).bind fun _ => .pure _)
    exact (hbranch _).bind fun absent => .peek fun x =>
      .ite (.failBack _ _) ((reads_close _).bind fun _ => .pure _)
  | plain => exact hclosed flags id
  | reference => exact hclosed flags id
  | comment => exact hclosed flags id
  | global on => exact hclosed flags id

end Fuel

theorem readsWith [CharacterNames] (n : ℕ) : ReadsWith n := by
  induction n with
  | zero => exact readsWith_zero
  | succ n ih => exact ⟨reads_alternatives_succ ih, reads_items_succ ih, reads_group_succ ih⟩

theorem reads_alternatives_inside [CharacterNames] (n : ℕ) (flags : Flags) (found : List Pattern) :
    Reads [] (alternatives n false flags found) :=
  (readsWith n).alternatives (by simp)

theorem reads_items_inside [CharacterNames] (n : ℕ) (flags : Flags) (found : List Item) :
    Reads [] (items n false flags found) :=
  (readsWith n).items (by simp)

theorem reads_complete (pattern : Pattern) : Reads front (complete pattern) := by
  refine .peek fun x => .ite (.failBack _ _) (.get fun s => ?_)
  split
  · exact .failAt _ _
  · split
    · exact .broken _ _
    · exact .pure _

theorem finish_of_not_conflict {s : State} (h : s.flags.conflict = false) (pattern : Pattern) :
    finish pattern s = complete pattern s := by
  rw [finish, get_bind, if_neg (by simp [h])]

theorem read_pattern_eq [CharacterNames] (flags : Flags) (text : String) :
    Pattern.read flags text = match whole { rest := text.toList, offset := 0, flags := flags } with
      | .ok (pattern, s) => .ok (pattern, s.widths.length)
      | .error e => .error e := by
  change (whole { rest := text.toList, offset := 0, flags := flags } >>= fun p =>
    pure (p.1, p.2.widths.length)) = _
  cases whole { rest := text.toList, offset := 0, flags := flags } <;> rfl

end Outline.PatternReader
