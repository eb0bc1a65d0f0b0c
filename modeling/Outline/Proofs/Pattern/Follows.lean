import Outline.Proofs.Pattern.Reads

set_option autoImplicit false

/-!
# Reading a pattern with and without a bracket behind it

The characters of a pattern are read once as they are and once with a closing bracket behind them.
As long as the first reading goes on, the second does the same. Where the first one refuses the
pattern, the second one does so as well, or it has used up the bracket and cannot be closed any
more.
-/
namespace Outline.PatternReader

/-! ## Places from which no bracket is closed -/

/-- No closing bracket comes up as a token. -/
def NeverCloses (r : List Char) : Prop := ∀ u, ¬ Later r (')' :: u)

theorem NeverCloses.later {r t : List Char} (h : NeverCloses r) (ht : Later r t) :
    NeverCloses t :=
  fun u hu => h u (ht.trans hu)

theorem neverCloses_of_next {r t : List Char} (hhead : r.head? ≠ some ')')
    (hnext : ∀ u, IsNext r u → u = t) (h : NeverCloses t) : NeverCloses r := by
  intro u hu
  rcases Relation.ReflTransGen.cases_head hu with rfl | ⟨v, hv, hlater⟩
  · exact hhead rfl
  · rw [hnext v hv] at hlater
    exact h u hlater

theorem neverCloses_nil : NeverCloses [] := by
  intro u hu
  rcases Relation.ReflTransGen.cases_head hu with hnil | ⟨v, ⟨k, hk, -⟩, -⟩
  · cases hnil
  · cases hk

theorem neverCloses_escape : NeverCloses ['\\', ')'] := by
  refine neverCloses_of_next (by decide) ?_ neverCloses_nil
  rintro u ⟨k, hk, rfl⟩
  cases hk
  rfl

theorem NeverCloses.append {chars r : List Char} (h : NeverCloses r)
    (hchars : ∀ c ∈ chars, c ≠ '\\' ∧ c ≠ ')') : NeverCloses (chars ++ r) := by
  induction chars with
  | nil => exact h
  | cons c rest ih =>
    rw [List.forall_mem_cons] at hchars
    refine neverCloses_of_next (by simpa using hchars.1.2) ?_ (ih hchars.2)
    rintro u ⟨k, hk, rfl⟩
    rw [List.cons_append, tokenOf_cons_of_ne hchars.1.1] at hk
    cases hk
    rfl

/-! ## Two readers -/

variable {α β : Type}

/-- Two results: where the first reader goes on, the second one does so with the same result. -/
def Matches (Q : α → State → State → Prop) :
    Except PatternRefusal (α × State) → Except PatternRefusal (α × State) → Prop
  | .ok (a, t), .ok (a', t') => a = a' ∧ Q a t t'
  | .ok _, .error _ => False
  | .error _, .ok (_, t') => NeverCloses t'.rest
  | .error _, .error _ => True

structure Follows (P : State → State → Prop) (Q : α → State → State → Prop)
    (m m' : Reader α) : Prop where
  moves : Moves m'
  matches_of : ∀ ⦃s s' : State⦄, P s s' → Matches Q (m s) (m' s')

theorem Matches.mono {Q R : α → State → State → Prop}
    {x x' : Except PatternRefusal (α × State)} (h : Matches Q x x')
    (hQ : ∀ a t t', Q a t t' → R a t t') : Matches R x x' := by
  rcases x with e | ⟨a, t⟩ <;> rcases x' with e' | ⟨a', t'⟩
  · trivial
  · exact h
  · exact h
  · exact ⟨h.1, hQ _ _ _ h.2⟩

theorem Matches.bind {Q : α → State → State → Prop} {R : β → State → State → Prop}
    {m m' : Reader α} {f f' : α → Reader β} {s s' : State} (hm : Matches Q (m s) (m' s'))
    (hmoves : ∀ a, Moves (f' a))
    (hf : ∀ a t t', m s = .ok (a, t) → Q a t t' → Matches R (f a t) (f' a t')) :
    Matches R ((m >>= f) s) ((m' >>= f') s') := by
  rw [bind_eq, bind_eq]
  rcases hs : m s with e | ⟨a, t⟩ <;> rcases hs' : m' s' with e' | ⟨a', t'⟩ <;>
    simp only [hs, hs', Matches] at hm ⊢
  · -- only the second reader goes on, and later it closes no group either
    cases hf' : f' a' t' with
    | error e' => trivial
    | ok p => exact hm.later (hmoves a' hf')
  · obtain ⟨rfl, hQ⟩ := hm
    exact hf a t t' hs hQ

namespace Follows

variable {P P' : State → State → Prop} {Q R : α → State → State → Prop}

theorem of_imp {m m' : Reader α} (h : Follows P Q m m') (hP : ∀ s s', P' s s' → P s s') :
    Follows P' Q m m' where
  moves := h.moves
  matches_of _ _ hs := h.matches_of (hP _ _ hs)

theorem mono {m m' : Reader α} (h : Follows P Q m m') (hQ : ∀ a t t', Q a t t' → R a t t') :
    Follows P R m m' where
  moves := h.moves
  matches_of _ _ hs := (h.matches_of hs).mono hQ

theorem or {m m' : Reader α} (h : Follows P Q m m') (h' : Follows P' Q m m') :
    Follows (fun s s' => P s s' ∨ P' s s') Q m m' where
  moves := h.moves
  matches_of _ _ hs := hs.elim (fun hP => h.matches_of hP) fun hP' => h'.matches_of hP'

theorem pure (a : α) (h : ∀ s s', P s s' → Q a s s') : Follows P Q (pure a) (pure a) where
  moves := moves_pure a
  matches_of _ _ hs := ⟨rfl, h _ _ hs⟩

theorem fail {m m' : Reader α} (h : Fails m) (h' : Fails m') : Follows P Q m m' where
  moves := h'.moves
  matches_of s s' _ := by
    obtain ⟨e, he⟩ := h s
    obtain ⟨e', he'⟩ := h' s'
    rw [he, he']
    trivial

theorem failAt (cause : PatternCause) (offset offset' : ℕ) :
    Follows P Q (failAt cause offset) (PatternReader.failAt cause offset' : Reader α) :=
  fail (fails_failAt _ _) (fails_failAt _ _)

theorem failBack (cause : PatternCause) (back : ℕ) :
    Follows P Q (failBack cause back) (PatternReader.failBack cause back : Reader α) :=
  fail (fails_failBack _ _) (fails_failBack _ _)

theorem bind {R : β → State → State → Prop} {m m' : Reader α} {f f' : α → Reader β}
    (hm : Follows P Q m m') (hf : ∀ a, Follows (Q a) R (f a) (f' a)) :
    Follows P R (m >>= f) (m' >>= f') where
  moves := hm.moves.bind fun a => (hf a).moves
  matches_of _ _ hs := (hm.matches_of hs).bind (fun a => (hf a).moves)
    fun a _ _ _ hQ => (hf a).matches_of hQ

/-- What is known of the first reader's result may be added. -/
theorem and_of {F : α → State → Prop} {m m' : Reader α} (h : Follows P Q m m')
    (hF : ∀ s s' a t, P s s' → m s = .ok (a, t) → F a t) :
    Follows P (fun a t t' => Q a t t' ∧ F a t) m m' where
  moves := h.moves
  matches_of s s' hs := by
    have hm := h.matches_of hs
    have hF := hF s s'
    rcases hms : m s with e | ⟨a, t⟩ <;> rcases hms' : m' s' with e' | ⟨a', t'⟩ <;>
      simp only [hms, hms', Matches] at hm ⊢
    · exact hm
    · exact ⟨hm.1, hm.2, hF a t hs hms⟩

theorem ite {p : Prop} [Decidable p] {m n m' n' : Reader α} (hm : Follows P Q m m')
    (hn : Follows P Q n n') : Follows P Q (if p then m else n) (if p then m' else n') := by
  split_ifs
  · exact hm
  · exact hn

theorem get {R : β → State → State → Prop} {f f' : State → Reader β}
    (hmoves : Moves (get >>= f'))
    (hf : ∀ ⦃s s' : State⦄, P s s' → Matches R (f s s) (f' s' s')) :
    Follows P R (get >>= f) (get >>= f') where
  moves := hmoves
  matches_of _ _ hs := hf hs

/-- The first reader may ask for what both states have in common. -/
theorem getSame {R : β → State → State → Prop} {f f' : State → Reader β}
    (hmoves : Moves (MonadState.get >>= f')) (heq : ∀ ⦃s s' : State⦄, P s s' → f' s' = f s)
    (hf : ∀ s, Follows P R (f s) (f s)) :
    Follows P R (MonadState.get >>= f) (MonadState.get >>= f') :=
  get hmoves fun s s' hs => by
    rw [heq hs]
    exact (hf s).matches_of hs

theorem tell {R : β → State → State → Prop} {f f' : ℕ → Reader β}
    (hf : ∀ offset offset', Follows P R (f offset) (f' offset')) :
    Follows P R (tell >>= f) (PatternReader.tell >>= f') where
  moves s _ _ h := (hf 0 s.offset).moves h
  matches_of s s' hs := (hf s.offset s'.offset).matches_of hs

theorem modify {Q : PUnit → State → State → Prop} {g g' : State → State}
    (hrest : ∀ s, (g' s).rest = s.rest) (h : ∀ s s', P s s' → Q ⟨⟩ (g s) (g' s')) :
    Follows P Q (modify g : Reader PUnit) (modify g') where
  moves := moves_modify hrest
  matches_of _ _ hs := ⟨rfl, h _ _ hs⟩

end Follows

/-! ## States with and without the bracket -/

/-- Two readers at the same place: the second one has a closing bracket behind its characters. Less
than the given number of characters are left of the pattern. -/
structure Aligned (given : Flags) (n : ℕ) (s s' : State) : Prop where
  rest : s'.rest = s.rest ++ [')']
  ne_slash : s.rest ≠ ['\\']
  room : s.rest.length < n
  flags : s.flags = given
  widths : s'.widths = s.widths
  names : s'.names = s.names
  lookBehindGroups : s'.lookBehindGroups = s.lookBehindGroups
  references : s'.references.map Prod.fst = s.references.map Prod.fst

abbrev Keeps (given : Flags) (n : ℕ) (m m' : Reader α) : Prop :=
  Follows (Aligned given n) (fun _ => Aligned given n) m m'

variable {given : Flags} {n : ℕ}

theorem concat_ne_slash (r : List Char) : r ++ [')'] ≠ ['\\'] := by
  intro heq
  simpa using congrArg List.getLast? heq

namespace Aligned

variable {s s' : State}

theorem mono {k : ℕ} (h : Aligned given n s s') (hk : n ≤ k) : Aligned given k s s' :=
  { h with room := h.room.trans_le hk }

theorem tight (h : Aligned given n s s') : Aligned given (s.rest.length + 1) s s' :=
  { h with room := Nat.lt_succ_self _ }

theorem groups_eq (h : Aligned given n s s') : s'.groups = s.groups := by
  rw [State.groups, State.groups, h.widths]

theorem closedWidth?_eq (h : Aligned given n s s') (index : ℕ) :
    s'.closedWidth? index = s.closedWidth? index := by
  rw [State.closedWidth?, State.closedWidth?, h.widths]

theorem length_eq (h : Aligned given n s s') : s'.rest.length = s.rest.length + 1 := by
  rw [h.rest, List.length_append, List.length_singleton]

/-- At the end of the pattern the bracket comes up, before it the same token. -/
theorem tokenOf_cases (h : Aligned given n s s') :
    (s.rest = [] ∧ tokenOf s'.rest = some (.char ')')) ∨
      ∃ k, tokenOf s.rest = some k ∧ tokenOf s'.rest = some k := by
  rw [h.rest]
  rcases hrest : s.rest with _ | ⟨c, _ | ⟨d, more⟩⟩
  · exact .inl ⟨rfl, rfl⟩
  · have hc : c ≠ '\\' := fun hc => h.ne_slash (by rw [hrest, hc])
    exact .inr ⟨.char c, tokenOf_cons_of_ne hc _, tokenOf_cons_of_ne hc _⟩
  · by_cases hc : c = '\\'
    · subst hc
      exact .inr ⟨.escape d, rfl, rfl⟩
    · exact .inr ⟨.char c, tokenOf_cons_of_ne hc _, tokenOf_cons_of_ne hc _⟩

theorem take_of_token {k : Token} (h : Aligned given (n + 1) s s') (hk : tokenOf s.rest = some k)
    (hk' : tokenOf s'.rest = some k) :
    Matches (fun x t t' => x = some k ∧ Aligned given n t t') (take s) (take s') := by
  have hlength : k.chars.length ≤ s.rest.length := by
    rw [chars_append_of_tokenOf hk, List.length_append]
    omega
  have hdrop : s'.rest.drop k.chars.length = s.rest.drop k.chars.length ++ [')'] := by
    rw [h.rest, List.drop_append_of_le_length hlength]
  simp only [take_eq, hk, hk', hdrop, beq_eq_false_iff_ne.2 (concat_ne_slash _),
    Bool.false_eq_true, if_false]
  split_ifs with hslash
  · -- the first reader stops at a lone backslash, the second one will take it with the bracket
    rw [beq_iff_eq] at hslash
    simp only [Matches, hslash]
    exact neverCloses_escape
  · refine ⟨rfl, rfl, { h with rest := rfl, ne_slash := by simpa using hslash, room := ?_ }⟩
    have hpos := List.length_pos_of_ne_nil (chars_ne_nil k)
    have hroom := h.room
    simp only [List.length_drop]
    omega

theorem take_of_nil (h : Aligned given n s s') (hnil : s.rest = []) :
    take s = .ok (none, s) ∧
      take s' = .ok (some (.char ')'), { s' with rest := [], offset := s'.offset + 1 }) := by
  rw [take_eq, take_eq, h.rest, hnil]
  exact ⟨rfl, rfl⟩

end Aligned

/-! ## Tokens -/

theorem Moves.take {f : Option Token → Reader β} (hf : ∀ x, Moves (f x)) : Moves (take >>= f) :=
  (@reads_take []).moves.bind hf

namespace Follows

variable {Q : β → State → State → Prop} {f f' : Option Token → Reader β}

/-- A token is one character less for what follows. At the end of the pattern the first reader has
to refuse, since the second one uses up the bracket. -/
theorem step (hnone : Fails (f none)) (hnone' : Fails (f' none))
    (hsome : ∀ k, Follows (Aligned given n) Q (f (some k)) (f' (some k))) :
    Follows (Aligned given (n + 1)) Q (take >>= f) (take >>= f') where
  moves := by
    refine .take fun x => ?_
    cases x with
    | none => exact hnone'.moves
    | some k => exact (hsome k).moves
  matches_of s s' h := by
    rcases h.tokenOf_cases with ⟨hnil, -⟩ | ⟨k, hk, hk'⟩
    · obtain ⟨hs, hs'⟩ := h.take_of_nil hnil
      obtain ⟨e, he⟩ := hnone s
      rw [bind_eq, bind_eq, hs, hs']
      simp only [he]
      -- the bracket has been taken, and nothing is left that could close a group
      cases hf' : f' (some (.char ')')) { s' with rest := [], offset := s'.offset + 1 } with
      | error e' => trivial
      | ok p => exact neverCloses_nil.later ((hsome _).moves hf')
    · refine (h.take_of_token hk hk').bind (fun x => ?_) fun x t t' _ hx => ?_
      · cases x with
        | none => exact hnone'.moves
        | some k => exact (hsome k).moves
      · obtain ⟨rfl, ht⟩ := hx
        exact (hsome k).matches_of ht

theorem take (hnone : Fails (f none)) (hnone' : Fails (f' none))
    (hsome : ∀ k, Follows (Aligned given n) Q (f (some k)) (f' (some k))) :
    Follows (Aligned given n) Q (take >>= f) (take >>= f') :=
  (step hnone hnone' hsome).of_imp fun _ _ h => h.mono n.le_succ

theorem peek (hsame : ∀ x, Follows (Aligned given n) Q (f x) (f' x))
    (hend : Follows (Aligned given n) Q (f none) (f' (some (.char ')')))) :
    Follows (Aligned given n) Q (peek >>= f) (peek >>= f') where
  moves s' _ _ h := (hsame (tokenOf s'.rest)).moves h
  matches_of s s' h := by
    change Matches Q (f (tokenOf s.rest) s) (f' (tokenOf s'.rest) s')
    rcases h.tokenOf_cases with ⟨hnil, hk'⟩ | ⟨k, hk, hk'⟩
    · rw [hk', hnil]
      exact hend.matches_of h
    · rw [hk, hk']
      exact (hsame (some k)).matches_of h

/-- The second reader does not want the bracket. What is known of the characters is kept. -/
theorem stepIfKnown {wanted : Token → Bool} (hwanted : wanted (.char ')') = false)
    {I : List Char → Prop}
    (hnone : Follows (fun s s' => Aligned given (n + 1) s s' ∧ I s.rest) Q (f none) (f' none))
    (hsome : ∀ k, Follows (fun s s' => Aligned given n s s' ∧ I (k.chars ++ s.rest)) Q
      (f (some k)) (f' (some k))) :
    Follows (fun s s' => Aligned given (n + 1) s s' ∧ I s.rest) Q
      (takeIf wanted >>= f) (takeIf wanted >>= f') where
  moves := by
    refine (moves_takeIf wanted).bind fun x => ?_
    cases x with
    | none => exact hnone.moves
    | some k => exact (hsome k).moves
  matches_of s s' hs := by
    obtain ⟨h, hI⟩ := hs
    rcases h.tokenOf_cases with ⟨hnil, hk'⟩ | ⟨k, hk, hk'⟩
    · have hs : takeIf wanted s = .ok (none, s) := by
        simp [takeIf_eq, hnil, tokenOf]
      have hs' : takeIf wanted s' = .ok (none, s') := by
        simp [takeIf_eq, hk', hwanted]
      rw [bind_eq, bind_eq, hs, hs']
      exact hnone.matches_of ⟨h, hI⟩
    · by_cases hw : wanted k
      · have hs : takeIf wanted s = PatternReader.take s := by simp [takeIf_eq, hk, hw]
        have hs' : takeIf wanted s' = PatternReader.take s' := by simp [takeIf_eq, hk', hw]
        have htake := h.take_of_token hk hk'
        rw [← hs, ← hs'] at htake
        refine htake.bind (fun x => ?_) fun x t t' ht hx => ?_
        · cases x with
          | none => exact hnone.moves
          | some k => exact (hsome k).moves
        · obtain ⟨rfl, halign⟩ := hx
          rcases takeIf_eq_ok ht with ⟨hnot, -, -⟩ | ⟨_, heq, -, hrest, -⟩
          · cases hnot
          · cases heq
            exact (hsome k).matches_of ⟨halign, hrest ▸ hI⟩
      · have hs : takeIf wanted s = .ok (none, s) := by simp [takeIf_eq, hk, hw]
        have hs' : takeIf wanted s' = .ok (none, s') := by simp [takeIf_eq, hk', hw]
        rw [bind_eq, bind_eq, hs, hs']
        exact hnone.matches_of ⟨h, hI⟩

theorem stepIf {wanted : Token → Bool} (hwanted : wanted (.char ')') = false)
    (hnone : Follows (Aligned given (n + 1)) Q (f none) (f' none))
    (hsome : ∀ k, Follows (Aligned given n) Q (f (some k)) (f' (some k))) :
    Follows (Aligned given (n + 1)) Q (takeIf wanted >>= f) (takeIf wanted >>= f') := by
  have hstep := stepIfKnown (I := fun _ => True) hwanted (hnone.of_imp fun _ _ h => h.1)
    fun k => (hsome k).of_imp fun _ _ h => h.1
  exact hstep.of_imp fun _ _ h => ⟨h, trivial⟩

/-- Where nothing is left to read, not even an end of the pattern. -/
theorem zero {m m' : Reader β} (hmoves : Moves m') : Follows (Aligned given 0) Q m m' where
  moves := hmoves
  matches_of _ _ h := absurd h.room (Nat.not_lt_zero _)

theorem takeIf {wanted : Token → Bool} (hwanted : wanted (.char ')') = false)
    (hnone : Follows (Aligned given n) Q (f none) (f' none))
    (hsome : ∀ k, Follows (Aligned given n) Q (f (some k)) (f' (some k))) :
    Follows (Aligned given n) Q (takeIf wanted >>= f) (takeIf wanted >>= f') := by
  cases n with
  | zero =>
    refine zero ((moves_takeIf wanted).bind fun x => ?_)
    cases x with
    | none => exact hnone.moves
    | some k => exact (hsome k).moves
  | succ n =>
    exact stepIf hwanted hnone fun k => (hsome k).of_imp fun _ _ h => h.mono n.le_succ

end Follows

theorem keeps_pure (a : α) : Keeps given n (pure a) (pure a) := .pure a fun _ _ h => h

theorem keeps_accept {c : Char} (hc : c ≠ ')') : Keeps given n (accept c) (accept c) :=
  .takeIf (by simpa using hc.symm) (keeps_pure _) fun _ => keeps_pure _

theorem keeps_takeWhile {allowed : Char → Bool} (h : allowed ')' = false) (m : ℕ) :
    Keeps given n (takeWhile allowed m) (takeWhile allowed m) := by
  induction m with
  | zero => exact keeps_pure _
  | succ m ih => exact .takeIf h (keeps_pure _) fun _ => ih.bind fun _ => keeps_pure _

theorem Keeps.loosen {m m' : Reader α} (h : Keeps given n m m') :
    Follows (Aligned given n) (fun _ => Aligned given (n + 1)) m m' :=
  h.mono fun _ _ _ ht => ht.mono n.le_succ

/-- Two readers with fuel for all that is left. -/
theorem fuel_induction {motive : (n k k' : ℕ) → n ≤ k → n ≤ k' → Prop}
    (zero : ∀ k k', motive 0 k k' k.zero_le k'.zero_le)
    (succ : ∀ n k k' hk hk', motive n k k' hk hk' →
      motive (n + 1) (k + 1) (k' + 1) (Nat.succ_le_succ hk) (Nat.succ_le_succ hk'))
    {n k k' : ℕ} (hk : n ≤ k) (hk' : n ≤ k') : motive n k k' hk hk' := by
  induction n generalizing k k' with
  | zero => exact zero k k'
  | succ n ih =>
    cases k with
    | zero => exact absurd hk (Nat.not_succ_le_zero n)
    | succ k =>
      cases k' with
      | zero => exact absurd hk' (Nat.not_succ_le_zero n)
      | succ k' =>
        exact succ n k k' _ _ (ih (Nat.le_of_succ_le_succ hk) (Nat.le_of_succ_le_succ hk'))

/-- The fuel of a reader may be what is left. -/
theorem keeps_fuelled {f f' : State → Reader β} (hmoves : Moves (get >>= f'))
    (hf : ∀ s s' : State, s'.rest.length = s.rest.length + 1 →
      Keeps given (s.rest.length + 1) (f s) (f' s')) :
    Keeps given n (get >>= f) (get >>= f') :=
  .get hmoves fun s s' h => ((hf s s' h.length_eq).matches_of h.tight).mono
    fun _ _ _ ht => ht.mono h.room

/-! ## Names -/

theorem keeps_takeName (terminator : Char) (what : String) {k k' : ℕ} (hk : n ≤ k)
    (hk' : n ≤ k') (name : List Char) :
    Keeps given n (takeName terminator what k name) (takeName terminator what k' name) := by
  induction hk, hk' using fuel_induction generalizing name with
  | zero k k' => exact .zero (@reads_takeName [] _ _ _ _).moves
  | succ n k k' hk hk' ih =>
    have hnone : Fails (if name.isEmpty then failBack (.missingName what) 0
        else failBack (.unterminatedName terminator) name.length : Reader String) :=
      .ite (fails_failBack _ _) (fails_failBack _ _)
    exact .step hnone hnone fun t => Keeps.loosen
      (.ite (.ite (.failBack _ _) (keeps_pure _)) (ih _))

theorem keeps_nameUntil (terminator : Char) (what : String) :
    Keeps given n (nameUntil terminator what) (nameUntil terminator what) :=
  keeps_fuelled (@reads_nameUntil [] _ _).moves fun _ _ hlength =>
    keeps_takeName _ _ le_rfl (by omega) _

theorem keeps_checkGroupName (name : String) :
    Keeps given n (checkGroupName name) (checkGroupName name) :=
  .ite (keeps_pure _) (.failBack _ _)

/-! ## Escapes -/

theorem keeps_hexEscape (letter : Char) (count : ℕ) :
    Keeps given n (hexEscape letter count) (hexEscape letter count) := by
  refine (keeps_takeWhile (by decide) _).bind fun digits => ?_
  refine .ite (.failBack _ _) (.ite (.fail (fails_throw _) (fails_throw _)) ?_)
  exact .ite (.failBack _ _) (keeps_pure _)

theorem keeps_namedEscape [CharacterNames] : Keeps given n namedEscape namedEscape := by
  refine (keeps_accept (by decide)).bind fun b => .ite ?_ (.failBack _ _)
  refine (keeps_nameUntil _ _).bind fun name => ?_
  cases CharacterNames.named? name with
  | none => exact .failBack _ _
  | some code => exact keeps_pure _

theorem keeps_characterEscape [CharacterNames] (c : Char) :
    Keeps given n (characterEscape c) (characterEscape c) :=
  .ite (keeps_hexEscape _ _) (.ite (keeps_hexEscape _ _) (.ite (keeps_hexEscape _ _)
    (.ite keeps_namedEscape (.ite (.failBack _ _) (keeps_pure _)))))

theorem keeps_setEscape [CharacterNames] (flags : Flags) (c : Char) :
    Keeps given n (setEscape flags c) (setEscape flags c) := by
  unfold setEscape
  split
  · exact keeps_pure _
  · exact keeps_pure _
  · refine .ite (keeps_pure _) (.ite ?_ (.ite (.failBack _ _)
      ((keeps_characterEscape c).bind fun _ => keeps_pure _)))
    exact (keeps_takeWhile (by decide) _).bind fun digits => .ite (.failBack _ _) (keeps_pure _)

theorem keeps_checkLookBehind (index : ℕ) :
    Keeps given n (checkLookBehind index) (checkLookBehind index) := by
  refine .getSame (@reads_checkLookBehind [] _).moves (fun s s' h => ?_) fun s => ?_
  · simp only [h.lookBehindGroups, h.closedWidth?_eq]
  · cases s.lookBehindGroups with
    | none => exact keeps_pure _
    | some first => exact .ite (.failBack _ _) (.ite (.failBack _ _) (keeps_pure _))

theorem keeps_reference (flags : Flags) (index back : ℕ) :
    Keeps given n (reference flags index back) (reference flags index back) := by
  refine .getSame (@reads_reference [] _ _ _).moves (fun s s' h => ?_) fun s => ?_
  · simp only [h.closedWidth?_eq]
  · cases s.closedWidth? index with
    | none => exact .failBack _ _
    | some width => exact (keeps_checkLookBehind _).bind fun _ => keeps_pure _

theorem keeps_thirdDigit (c : Char) (second : List Char) :
    Keeps given n (thirdDigit c second) (thirdDigit c second) :=
  .ite (keeps_takeWhile (by decide) _) (keeps_pure _)

theorem keeps_numberEscape (flags : Flags) (c : Char) :
    Keeps given n (numberEscape flags c) (numberEscape flags c) := by
  refine (keeps_takeWhile (by decide) _).bind fun second =>
    (keeps_thirdDigit c second).bind fun third => ?_
  refine .ite (.ite (.failBack _ _) (keeps_pure _)) (.getSame ?_ (fun s s' h => ?_) fun s => ?_)
  · exact (@Reads.get _ [] _ fun _ => .ite (reads_reference _ _ _) (.failBack _ _)).moves
  · simp only [h.groups_eq]
  · exact .ite (keeps_reference _ _ _) (.failBack _ _)

theorem keeps_escape [CharacterNames] (flags : Flags) (c : Char) :
    Keeps given n (escape flags c) (escape flags c) := by
  unfold escape
  split
  · exact keeps_pure _
  · exact keeps_pure _
  · exact keeps_pure _
  · refine .ite ?_ (.ite ((keeps_numberEscape _ _).bind fun _ => keeps_pure _)
      ((keeps_characterEscape c).bind fun _ => keeps_pure _))
    exact (keeps_takeWhile (by decide) _).bind fun _ => keeps_pure _

/-! ## Sets -/

theorem keeps_setItem [CharacterNames] (flags : Flags) (k : Token) :
    Keeps given n (setItem flags k) (setItem flags k) := by
  cases k with
  | escape c => exact keeps_setEscape flags c
  | char c => exact keeps_pure _

theorem keeps_rangeOf (this that : Token) (first last : SetItem) :
    Keeps given n (rangeOf this that first last) (rangeOf this that first last) := by
  unfold rangeOf
  split
  · exact .ite (.failBack _ _) (keeps_pure _)
  · exact .failBack _ _

theorem keeps_setItems [CharacterNames] (flags : Flags) {start start' k k' : ℕ} (hk : n ≤ k)
    (hk' : n ≤ k') (items : List SetItem) :
    Keeps given n (setItems flags start k items) (setItems flags start' k' items) := by
  induction hk, hk' using fuel_induction generalizing items with
  | zero k k' => exact .zero (@reads_setItems [] _ _ _ _ _).moves
  | succ n k k' hk hk' ih =>
    refine .step (fails_failAt _ _) (fails_failAt _ _) fun this => Keeps.loosen ?_
    refine .ite (keeps_pure _) ((keeps_setItem flags this).bind fun first => ?_)
    refine (keeps_accept (by decide)).bind fun b => .ite ?_ (ih _)
    refine .take (fails_failAt _ _) (fails_failAt _ _) fun that => ?_
    refine .ite (keeps_pure _) ((keeps_setItem flags that).bind fun last => ?_)
    exact (keeps_rangeOf _ _ _ _).bind fun _ => ih _

theorem keeps_characterSet [CharacterNames] (flags : Flags) :
    Keeps given n (characterSet flags) (characterSet flags) := by
  refine .tell fun start start' => (keeps_accept (by decide)).bind fun negated => ?_
  refine keeps_fuelled ?_ fun s s' hlength => ?_
  · exact (@Reads.get _ [] _ fun s => (reads_setItems _ _ _ _).bind fun _ => .pure _).moves
  · exact (keeps_setItems flags le_rfl (by omega) _).bind fun _ => keeps_pure _

/-! ## Repetition -/

theorem keeps_takeWhile_of_le {allowed : Char → Bool} (h : allowed ')' = false) {k k' : ℕ}
    (hk : n ≤ k) (hk' : n ≤ k') : Keeps given n (takeWhile allowed k) (takeWhile allowed k') := by
  induction hk, hk' using fuel_induction with
  | zero k k' => exact .zero (@reads_takeWhile [] _ _).moves
  | succ n k k' hk hk' ih =>
    exact .stepIf h (keeps_pure _) fun t => Keeps.loosen
      (ih.bind fun _ => keeps_pure _)

theorem keeps_boundDigits {k k' : ℕ} (hk : n ≤ k) (hk' : n ≤ k') :
    Keeps given n (boundDigits k) (boundDigits k') := by
  have htake := @keeps_takeWhile_of_le given n Char.isDigit (by decide) k k' hk hk'
  exact htake.bind fun low => (keeps_accept (by decide)).bind fun b =>
    .ite (htake.bind fun _ => keeps_pure _) (keeps_pure _)

theorem keeps_closedDigits {k k' : ℕ} (hk : n ≤ k) (hk' : n ≤ k') :
    Keeps given n (closedDigits k) (closedDigits k') :=
  (keeps_boundDigits hk hk').bind fun _ => (keeps_accept (by decide)).bind fun _ =>
    .ite (keeps_pure _) (keeps_pure _)

theorem keeps_repetitionNumber (digits : List Char) :
    Keeps given n (repetitionNumber digits) (repetitionNumber digits) :=
  .ite (.fail (fails_throw _) (fails_throw _))
    (.ite (.fail (fails_throw _) (fails_throw _)) (keeps_pure _))

theorem keeps_boundsOf (start start' : ℕ) (low high : List Char) :
    Keeps given n (boundsOf start low high) (boundsOf start' low high) := by
  have hlower : Keeps given n (lowerBound low) (lowerBound low) :=
    .ite (keeps_pure _) (keeps_repetitionNumber _)
  exact hlower.bind fun least => .ite (keeps_pure _)
    ((keeps_repetitionNumber _).bind fun most => .ite (.failAt _ _ _) (keeps_pure _))

theorem ne_of_mem_takeWhile_isDigit {r : List Char} {c : Char}
    (h : c ∈ r.takeWhile Char.isDigit) : c ≠ '\\' ∧ c ≠ ')' := by
  have hdigit := List.all_eq_true.1 List.all_takeWhile c h
  constructor <;> rintro rfl <;> cases hdigit

/-- Digits, commas and braces do not close a group. -/
theorem neverCloses_of_closedDigits {k : ℕ} {s t : State}
    {digits : Option (List Char × List Char)} (hk : s.rest.length ≤ k)
    (h : closedDigits k s = .ok (digits, t)) (ht : NeverCloses t.rest) : NeverCloses s.rest := by
  obtain ⟨⟨low, high⟩, u, hu, hclose⟩ := closedDigits_eq_ok h
  have hbrace : NeverCloses u.rest := by
    rcases hclose with ⟨-, hrest⟩ | ⟨-, rfl⟩
    · rw [hrest]
      exact @NeverCloses.append ['}'] _ ht (by simp)
    · exact ht
  obtain ⟨rfl, ⟨rfl, hrest⟩ | ⟨more, hrest, htake, hmore⟩⟩ := boundDigits_eq_ok hk hu
  · rw [hrest]
    exact hbrace.append fun c hc => ne_of_mem_takeWhile_isDigit hc
  · rw [hrest]
    refine NeverCloses.append ?_ fun c hc => ne_of_mem_takeWhile_isDigit hc
    refine @NeverCloses.append [','] _ ?_ (by simp)
    rw [hmore]
    refine hbrace.append fun c hc => ne_of_mem_takeWhile_isDigit (htake ▸ hc)

theorem Aligned.moveTo {s s' t t' : State} (h : Aligned given n s s') {k : ℕ}
    (ht : Aligned given k t t') (offset offset' : ℕ) :
    Matches (fun _ => Aligned given n) (moveTo s.rest offset t)
      (PatternReader.moveTo s'.rest offset' t') := by
  have hne : s'.rest ≠ ['\\'] := by
    rw [h.rest]
    exact concat_ne_slash _
  unfold PatternReader.moveTo
  rw [if_neg (by simpa using h.ne_slash), if_neg (by simpa using hne)]
  exact ⟨rfl, { ht with rest := h.rest, ne_slash := h.ne_slash, room := h.room }⟩

theorem keeps_braces : Keeps given n braces braces where
  moves := reads_braces.moves
  matches_of s s' h := by
    have hdigits := (@keeps_closedDigits given _ _ (s'.rest.length + 1) le_rfl (by
      rw [h.length_eq]
      omega)).matches_of h.tight
    have hpeek : (tokenOf s'.rest == some (.char '}')) = (tokenOf s.rest == some (.char '}')) := by
      rcases h.tokenOf_cases with ⟨hnil, hk'⟩ | ⟨k, hk, hk'⟩
      · rw [hk', hnil]
        rfl
      · rw [hk, hk']
    rw [braces_eq s]
    split_ifs with hbrace
    · rw [braces_eq, hpeek, if_pos hbrace]
      exact ⟨rfl, h⟩
    rcases hs : closedDigits (s.rest.length + 1) s with e | ⟨digits, t⟩
    · -- the first reader stopped at a lone backslash, which the second one takes with the bracket
      rw [bind_eq, hs]
      cases hs' : braces s' with
      | error e' => trivial
      | ok p =>
        have hlater := reads_braces.moves hs'
        rw [braces_eq, hpeek, if_neg hbrace] at hs'
        obtain ⟨digits', t', ht', -⟩ := bind_eq_ok hs'
        rw [hs, ht'] at hdigits
        exact (neverCloses_of_closedDigits (Nat.le_succ _) ht' hdigits).later hlater
    · rw [braces_eq s', hpeek, if_neg hbrace, bind_eq, bind_eq]
      rcases hs' : closedDigits (s'.rest.length + 1) s' with e' | ⟨digits', t'⟩ <;>
        rw [hs, hs'] at hdigits
      · exact hdigits.elim
      · obtain ⟨rfl, ht⟩ := hdigits
        rw [hs]
        dsimp only
        cases digits with
        | none =>
          exact (h.moveTo ht _ _).bind (fun _ => moves_pure _)
            fun _ _ _ _ hu => ⟨rfl, hu⟩
        | some digits =>
          have hbounds := (@keeps_boundsOf given (s.rest.length + 1) s.offset s'.offset digits.1
            digits.2).bind fun b => keeps_pure (some b)
          exact (hbounds.matches_of ht).mono fun _ _ _ hu => hu.mono h.room

theorem keeps_bounds (c : Char) : Keeps given n (bounds c) (bounds c) := by
  unfold bounds
  split
  · exact keeps_pure _
  · exact keeps_pure _
  · exact keeps_pure _
  · exact keeps_braces

theorem keeps_greed : Keeps given n greed greed :=
  (keeps_accept (by decide)).bind fun _ => .ite (keeps_pure _)
    ((keeps_accept (by decide)).bind fun _ => .ite (keeps_pure _) (keeps_pure _))

theorem keeps_repeatItem (start start' : ℕ) (b : Bounds) (items : List Item) :
    Keeps given n (repeatItem start b items) (repeatItem start' b items) := by
  cases items with
  | nil => exact .failAt _ _ _
  | cons item before =>
    obtain ⟨kind, pattern⟩ := item
    cases kind with
    | anchor => exact .failAt _ _ _
    | repetition => exact .failAt _ _ _
    | other => exact keeps_greed.bind fun _ => keeps_pure _

/-! ## Brackets -/

theorem keeps_flagsOff (on : List Char) {k k' : ℕ} (hk : n ≤ k) (hk' : n ≤ k') (off : List Char)
    (c : Char) : Keeps given n (flagsOff on k off c) (flagsOff on k' off c) := by
  induction hk, hk' using fuel_induction generalizing off c with
  | zero k k' => exact .zero (@reads_flagsOff [] _ _ _ _).moves
  | succ n k k' hk hk' ih =>
    refine .ite (.failBack _ _) (.step (fails_failBack _ _) (fails_failBack _ _) fun t => ?_)
    refine Keeps.loosen ?_
    split
    · exact .failBack _ _
    · exact .ite (.failBack _ _) (.ite (.failBack _ _) (keeps_pure _))
    · split
      · exact .ite (ih _ _) (.failBack _ _)
      · exact .failBack _ _

theorem keeps_flagsAfterMinus (on : List Char) :
    Keeps given n (flagsAfterMinus on) (flagsAfterMinus on) := by
  refine .ite (.failBack _ _) (.take (fails_failBack _ _) (fails_failBack _ _) fun t => ?_)
  cases t with
  | char c =>
    refine .ite (keeps_fuelled ?_ fun s s' hlength => ?_) (.failBack _ _)
    · exact (@Reads.get _ [] _ fun s => reads_flagsOff _ _ _ _).moves
    · exact keeps_flagsOff _ le_rfl (by omega) _ _
  | escape c => exact .failBack _ _

theorem keeps_flagsOn {k k' : ℕ} (hk : n ≤ k) (hk' : n ≤ k') (on : List Char) (c : Char) :
    Keeps given n (flagsOn k on c) (flagsOn k' on c) := by
  induction hk, hk' using fuel_induction generalizing on c with
  | zero k k' => exact .zero (@reads_flagsOn [] _ _ _).moves
  | succ n k k' hk hk' ih =>
    refine .ite (.failBack _ _) (.ite (.failBack _ _) ?_)
    refine .step (fails_failBack _ _) (fails_failBack _ _) fun t => Keeps.loosen ?_
    split
    · exact .failBack _ _
    · exact keeps_pure _
    · exact keeps_flagsAfterMinus _
    · exact .ite (.failBack _ _) (keeps_pure _)
    · split
      · exact .ite (ih _ _) (.failBack _ _)
      · exact .failBack _ _

theorem keeps_inlineFlags (c : Char) : Keeps given n (inlineFlags c) (inlineFlags c) := by
  refine .ite (keeps_flagsAfterMinus _) (keeps_fuelled ?_ fun s s' hlength => ?_)
  · exact (@Reads.get _ [] _ fun s => reads_flagsOn _ _ _).moves
  · exact keeps_flagsOn le_rfl (by omega) _ _

theorem keeps_skipComment {start start' k k' : ℕ} (hk : n ≤ k) (hk' : n ≤ k') :
    Keeps given n (skipComment start k) (skipComment start' k') := by
  induction hk, hk' using fuel_induction with
  | zero k k' => exact .zero (@reads_skipComment [] _ _).moves
  | succ n k k' hk hk' ih =>
    exact .step (fails_failAt _ _) (fails_failAt _ _) fun t => Keeps.loosen
      (.ite (keeps_pure _) ih)

theorem keeps_namedReference (flags : Flags) :
    Keeps given n (namedReference flags) (namedReference flags) := by
  refine (keeps_nameUntil _ _).bind fun name => (keeps_checkGroupName _).bind fun _ => ?_
  refine .getSame ?_ (fun s s' h => ?_) fun s => ?_
  · refine (@Reads.get _ [] _ fun s => ?_).moves
    split
    · exact .failBack _ _
    · exact reads_reference _ _ _
  · simp only [h.names]
  · cases s.names.lookup name with
    | none => exact .failBack _ _
    | some index => exact keeps_reference _ _ _

theorem keeps_noteReference (index back : ℕ) :
    Keeps given n (noteReference index back) (noteReference index back) := by
  refine .modify (fun s => ?_) fun s s' h => ?_
  · split_ifs <;> rfl
  · have hany : s'.references.any (·.1 == index) = s.references.any (·.1 == index) := by
      have hmap := congrArg (List.any · (· == index)) h.references
      simp only [List.any_map] at hmap
      exact hmap
    rw [hany]
    split_ifs
    · exact h
    · exact { h with references := by simp [h.references] }

theorem keeps_conditionIndex (name : String) :
    Keeps given n (conditionIndex name) (conditionIndex name) := by
  refine .ite (.getSame ?_ (fun s s' h => ?_) fun s => ?_) ?_
  · refine (@Reads.get _ [] _ fun s => ?_).moves
    split
    · exact .failBack _ _
    · exact .pure _
  · simp only [h.names]
  · cases s.names.lookup name with
    | none => exact .failBack _ _
    | some index => exact keeps_pure _
  · split
    · exact .ite (.failBack _ _) (.ite (.failBack _ _)
        ((keeps_noteReference _ _).bind fun _ => keeps_pure _))
    · exact .failBack _ _

theorem keeps_conditionGroup : Keeps given n conditionGroup conditionGroup :=
  (keeps_nameUntil _ _).bind fun _ => (keeps_conditionIndex _).bind fun _ =>
    (keeps_checkLookBehind _).bind fun _ => keeps_pure _

theorem keeps_openGroup (name : Option String) :
    Keeps given n (openGroup name) (openGroup name) := by
  refine .getSame (@reads_openGroup [] _).moves (fun s s' h => ?_) fun s => ?_
  · simp only [h.groups_eq]
  · cases name with
    | none =>
      refine Follows.bind (.modify (fun _ => rfl) fun t t' h => ?_) fun _ => keeps_pure _
      exact { h with widths := by simp only [h.widths] }
    | some name =>
      refine .getSame ?_ (fun t t' h => ?_) fun t => ?_
      · refine (@Reads.get _ [] _ fun t => ?_).moves
        split
        · exact .failBack _ _
        · exact Reads.bind (.modify fun _ => ⟨rfl, rfl⟩) fun _ => .pure _
      · simp only [h.names]
      · cases t.names.lookup name with
        | some earlier => exact .failBack _ _
        | none =>
          refine Follows.bind (.modify (fun _ => rfl) fun u u' h => ?_) fun _ => keeps_pure _
          exact { h with widths := by simp only [h.widths], names := by simp only [h.names] }

theorem keeps_closeGroup (index : ℕ) (body : Pattern) :
    Keeps given n (closeGroup index body) (closeGroup index body) :=
  .modify (fun _ => rfl) fun s s' h => { h with widths := by simp only [h.widths] }

theorem keeps_extension (flags : Flags) : Keeps given n (extension flags) (extension flags) := by
  refine .take (fails_failBack _ _) (fails_failBack _ _) fun t => ?_
  dsimp only
  split
  · refine (keeps_accept (by decide)).bind fun b => .ite ?_ ?_
    · exact (keeps_nameUntil _ _).bind fun _ => (keeps_checkGroupName _).bind fun _ =>
        keeps_pure _
    · refine (keeps_accept (by decide)).bind fun b => .ite (keeps_pure _) ?_
      exact .take (fails_failBack _ _) (fails_failBack _ _) fun u => .failBack _ _
  · exact keeps_pure _
  · exact keeps_pure _
  · exact keeps_pure _
  · exact keeps_pure _
  · refine .take (fails_failBack _ _) (fails_failBack _ _) fun u => ?_
    split
    · exact .failBack _ _
    · exact keeps_pure _
    · exact keeps_pure _
    · exact .failBack _ _
  · exact keeps_pure _
  · exact keeps_pure _
  · refine .ite ((keeps_inlineFlags _).bind fun change => ?_) (.failBack _ _)
    cases change with
    | global on => exact keeps_pure _
    | _ => exact keeps_pure _
  · exact .failBack _ _

end Outline.PatternReader
