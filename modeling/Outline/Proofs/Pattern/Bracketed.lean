import Outline.Proofs.Pattern.Follows
import Outline.Proofs.Pattern.OpeningFlags

set_option autoImplicit false

/-!
# Patterns in brackets

A pattern that is read inside of a group is read as it is on its own, unless it has flags for the
whole of it or closes the group itself.
-/
namespace Outline.PatternReader

variable {α β : Type} {given : Flags} {n : ℕ}

/-! ## Pieces -/

/-- A comment up to the end of the line has used up the bracket: nothing is left on either side. -/
def Spent (n : ℕ) (s s' : State) : Prop := 0 < n ∧ s.rest = [] ∧ s'.rest = []

/-- Where a sequence has ended. Only verbose patterns have comments up to the end of the line. -/
def Ended (given : Flags) (verbose : Bool) (n : ℕ) (s s' : State) : Prop :=
  Aligned given n s s' ∨ verbose = true ∧ Spent n s s'

theorem Spent.mono {k : ℕ} {s s' : State} (h : Spent n s s') (hk : n ≤ k) : Spent k s s' :=
  ⟨h.1.trans_le hk, h.2⟩

theorem Ended.mono {verbose : Bool} {k : ℕ} {s s' : State} (h : Ended given verbose n s s')
    (hk : n ≤ k) : Ended given verbose k s s' :=
  h.imp (fun ha => ha.mono hk) fun hs => ⟨hs.1, hs.2.mono hk⟩

theorem take_of_nil {s : State} (h : s.rest = []) : take s = .ok (none, s) := by
  rw [take_eq, h]
  rfl

theorem skipLine_of_nil {s : State} (h : s.rest = []) (k : ℕ) : skipLine k s = .ok ((), s) := by
  cases k with
  | zero => rfl
  | succ k =>
    rw [skipLine, bind_eq, take_of_nil h]
    rfl

theorem follows_skipLine {k k' : ℕ} (hk : n ≤ k) (hk' : n ≤ k') :
    Follows (Aligned given n) (fun _ s s' => Aligned given n s s' ∨ Spent n s s')
      (skipLine k) (skipLine k') := by
  induction hk, hk' using fuel_induction with
  | zero k k' => exact .zero (@reads_skipLine [] _).moves
  | succ n k k' hk hk' ih =>
    refine ⟨(@reads_skipLine [] _).moves, fun s s' h => ?_⟩
    rcases h.tokenOf_cases with ⟨hnil, -⟩ | ⟨token, htoken, htoken'⟩
    · have hs' : skipLine (k' + 1) s' =
          .ok ((), { s' with rest := [], offset := s'.offset + 1 }) := by
        rw [skipLine, bind_eq, (h.take_of_nil hnil).2]
        exact skipLine_of_nil rfl k'
      rw [skipLine_of_nil hnil, hs']
      exact ⟨rfl, .inr ⟨n.succ_pos, hnil, rfl⟩⟩
    · refine (h.take_of_token htoken htoken').bind (fun x => ?_) fun x t t' _ hx => ?_
      · cases x with
        | none => exact moves_pure _
        | some token => exact .ite (moves_pure _) (@reads_skipLine [] _).moves
      · obtain ⟨rfl, ht⟩ := hx
        have hstep := Follows.ite (p := (token == .char '\n') = true)
          (Follows.pure (P := Aligned given n) () fun _ _ hs => .inl hs) ih
        exact (hstep.matches_of ht).mono fun _ _ _ hu =>
          hu.imp (fun ha => ha.mono n.le_succ) fun hs => hs.mono n.le_succ

theorem keeps_bracketPiece (flags : Flags) (start start' : ℕ) :
    Keeps given n (bracketPiece flags start) (bracketPiece flags start') := by
  refine (keeps_accept (by decide)).bind fun b => ?_
  have hopening : Keeps given n (if b then extension flags else pure (.capture none))
      (if b then extension flags else pure (.capture none)) :=
    .ite (keeps_extension flags) (keeps_pure _)
  refine hopening.bind fun opening => ?_
  split
  · refine keeps_fuelled ?_ fun s s' hlength => ?_
    · exact (@Reads.get _ [] _ fun s => (reads_skipComment _ _).bind fun _ => .pure _).moves
    · exact (keeps_skipComment le_rfl (by omega)).bind fun _ => keeps_pure _
  · exact (keeps_namedReference _).bind fun _ => keeps_pure _
  · exact keeps_pure _
  · exact keeps_pure _

/-- After a piece: only a comment up to the end of the line can use up the bracket. -/
def AfterPiece (given : Flags) (verbose : Bool) (n : ℕ) : Piece → State → State → Prop
  | .nothing => Ended given verbose n
  | _ => Aligned given n

theorem AfterPiece.of_aligned {verbose : Bool} {p : Piece} {s s' : State}
    (h : Aligned given n s s') : AfterPiece given verbose n p s s' := by
  cases p with
  | nothing => exact .inl h
  | _ => exact h

theorem follows_characterPiece [CharacterNames] (flags : Flags) (start start' : ℕ) (c : Char) :
    Follows (Aligned given n) (AfterPiece given flags.verbose n)
      (characterPiece flags start c) (characterPiece flags start' c) := by
  have hkeeps : ∀ {m m' : Reader Piece}, Keeps given n m m' →
      Follows (Aligned given n) (AfterPiece given flags.verbose n) m m' := fun h =>
    h.mono fun _ _ _ ht => .of_aligned ht
  unfold characterPiece
  refine .ite (hkeeps (keeps_pure _)) ?_
  by_cases hline : flags.verbose && c == '#'
  · rw [if_pos hline, if_pos hline]
    refine .get ?_ fun s s' h => ?_
    · exact (@Reads.get _ [] _ fun s => (reads_skipLine _).bind fun _ => .pure _).moves
    · have hskip := (@follows_skipLine given _ _ (s'.rest.length + 1) le_rfl (by
        rw [h.length_eq]
        omega)).matches_of h.tight
      refine hskip.bind (fun _ => moves_pure _) fun _ t t' _ ht => ⟨rfl, ?_⟩
      have hverbose : flags.verbose = true := by
        rw [Bool.and_eq_true] at hline
        exact hline.1
      exact ht.imp (fun ha => ha.mono h.room) fun hs => ⟨hverbose, hs.mono h.room⟩
  rw [if_neg hline, if_neg hline]
  refine hkeeps (.ite ((keeps_characterSet _).bind fun _ => keeps_pure _) (.ite ?_ ?_))
  · refine (keeps_bounds c).bind fun b => ?_
    cases b with
    | none => exact keeps_pure _
    | some b => exact keeps_pure _
  · exact .ite (keeps_pure _) (.ite (keeps_pure _) (.ite (keeps_pure _)
      (.ite (keeps_bracketPiece _ _ _) (keeps_pure _))))

theorem follows_piece [CharacterNames] (flags : Flags) (start start' : ℕ) (k : Token) :
    Follows (Aligned given n) (AfterPiece given flags.verbose n)
      (piece flags start k) (piece flags start' k) := by
  cases k with
  | escape c =>
    exact ((keeps_escape flags c).bind fun item => keeps_pure (Piece.item item)).mono
      fun _ _ _ ht => .of_aligned ht
  | char c => exact follows_characterPiece flags start start' c

/-! ## Sequences and groups -/

theorem Follows.next {Q : β → State → State → Prop} {f f' : Option (ℕ × Token) → Reader β}
    {I : List Char → Prop}
    (hnone : Follows (fun s s' => Aligned given (n + 1) s s' ∧ I s.rest) Q (f none) (f' none))
    (hsome : ∀ start start' k,
      Follows (fun s s' => Aligned given n s s' ∧ I (k.chars ++ s.rest)) Q
        (f (some (start, k))) (f' (some (start', k)))) :
    Follows (fun s s' => Aligned given (n + 1) s s' ∧ I s.rest) Q
      (next >>= f) (PatternReader.next >>= f') := by
  rw [next_bind, next_bind]
  exact .tell fun start start' => .stepIfKnown rfl hnone fun k => hsome start start' k

/-- After a test for a character, one character less is left if it was there. -/
def AfterAccept (given : Flags) (verbose : Bool) (n : ℕ) : Bool → State → State → Prop
  | true => Aligned given n
  | false => Ended given verbose (n + 1)

theorem accept_of_ne {c : Char} {s : State} (h : tokenOf s.rest ≠ some (.char c)) :
    accept c s = .ok (false, s) := by
  have hany : (tokenOf s.rest).any (· == .char c) = false := by
    cases htoken : tokenOf s.rest with
    | none => rfl
    | some k => simpa [htoken] using h
  rw [accept, bind_eq, takeIf_eq, hany]
  rfl

theorem accept_of_token {c : Char} {s : State} (h : tokenOf s.rest = some (.char c)) :
    accept c s = (take >>= fun _ => pure true) s := by
  have hany : (tokenOf s.rest).any (· == .char c) = true := by simp [h]
  rw [accept, bind_eq, bind_eq, takeIf_eq, if_pos hany]
  rcases htake : take s with e | ⟨x, t⟩
  · rfl
  · rcases take_eq_ok htake with ⟨-, hnil, -⟩ | ⟨k, rfl, -, -⟩
    · simp [hnil, tokenOf] at h
    · rfl

theorem follows_accept {c : Char} (hc : c ≠ ')') (verbose : Bool) :
    Follows (Ended given verbose (n + 1)) (AfterAccept given verbose n) (accept c) (accept c) := by
  refine .or ?_ ⟨(@reads_accept [] c).moves, fun s s' h => ?_⟩
  · refine .stepIf (by simpa using hc.symm) ?_ fun k => ?_
    · exact .pure _ fun _ _ hs => .inl hs
    · exact .pure _ fun _ _ hs => hs
  · rw [accept_of_ne (by simp [h.2.2.1, tokenOf]), accept_of_ne (by simp [h.2.2.2, tokenOf])]
    exact ⟨rfl, .inr h⟩

theorem close_of_ne {start : ℕ} {s : State} (h : tokenOf s.rest ≠ some (.char ')')) :
    close start s = .error (.broken .unterminatedGroup (some start)) := by
  rw [close, bind_eq, accept_of_ne h]
  rfl

theorem close_of_token {start : ℕ} {s : State} (h : tokenOf s.rest = some (.char ')')) :
    close start s = (take >>= fun _ => pure ()) s := by
  rw [close, bind_eq, accept_of_token h, bind_eq, bind_eq]
  cases take s <;> rfl

/-- At the end of the pattern only the second reader finds a bracket, and nothing comes behind
it. -/
theorem follows_close (verbose : Bool) (start start' : ℕ) :
    Follows (Ended given verbose n) (fun _ => Aligned given n) (close start) (close start') := by
  refine .or ⟨(@reads_close [] start').moves, fun s s' h => ?_⟩
    ⟨(@reads_close [] start').moves, fun s s' h => ?_⟩
  · rcases h.tokenOf_cases with ⟨hnil, hk'⟩ | ⟨k, hk, hk'⟩
    · -- the first reader misses the bracket that the second one takes
      rw [close_of_ne (by simp [hnil, tokenOf]), close_of_token hk', bind_eq,
        (h.take_of_nil hnil).2]
      exact neverCloses_nil
    · by_cases hclose : k = .char ')'
      · subst hclose
        rw [close_of_token hk, close_of_token hk']
        refine ((h.mono n.le_succ).take_of_token hk hk').bind
          (fun _ => moves_pure _) fun _ t t' _ ht => ⟨rfl, ht.2⟩
      · rw [close_of_ne (by simpa [hk] using hclose), close_of_ne (by simpa [hk'] using hclose)]
        trivial
  · rw [close_of_ne (by simp [h.2.2.1, tokenOf]), close_of_ne (by simp [h.2.2.2, tokenOf])]
    trivial

theorem follows_withinLookBehind {verbose : Bool} {body body' : Reader Pattern}
    (h : Follows (Aligned given n) (fun _ => Ended given verbose n) body body')
    (hreads : Reads [] body') :
    Follows (Aligned given n) (fun _ => Ended given verbose n)
      (withinLookBehind body) (withinLookBehind body') := by
  refine .get (@reads_withinLookBehind [] _ hreads).moves fun s s' hs => ?_
  simp only [hs.lookBehindGroups]
  have houter : Follows (Aligned given n) (fun _ => Ended given verbose n)
      (do
        modify fun t => { t with lookBehindGroups := some (s.lookBehindGroups.getD t.groups) }
        let pattern ← body
        modify fun t => { t with lookBehindGroups := s.lookBehindGroups }
        return pattern)
      (do
        modify fun t => { t with lookBehindGroups := some (s.lookBehindGroups.getD t.groups) }
        let pattern ← body'
        modify fun t => { t with lookBehindGroups := s.lookBehindGroups }
        return pattern) := by
    refine Follows.bind (Q := fun _ => Aligned given n) (.modify (fun _ => rfl) fun t t' ht => ?_)
      fun _ => h.bind fun _ => Follows.bind (Q := fun _ => Ended given verbose n)
        (.modify (fun _ => rfl) fun t t' ht => ?_) fun _ => .pure _ fun _ _ ht => ht
    · exact { ht with lookBehindGroups := by simp only [ht.groups_eq] }
    · exact ht.imp (fun ha => { ha with lookBehindGroups := rfl }) fun hspent => hspent
  exact houter.matches_of hs

theorem follows_peek_ended {Q : β → State → State → Prop} {f f' : Option Token → Reader β}
    {verbose : Bool} (hsame : ∀ x, Follows (Ended given verbose n) Q (f x) (f' x))
    (hend : Follows (Aligned given n) Q (f none) (f' (some (.char ')')))) :
    Follows (Ended given verbose n) Q (peek >>= f) (peek >>= f') := by
  refine .or (.peek (fun x => (hsame x).of_imp fun _ _ h => .inl h) hend)
    ⟨fun s' _ _ h => (hsame (tokenOf s'.rest)).moves h, fun s s' h => ?_⟩
  change Matches Q (f (tokenOf s.rest) s) (f' (tokenOf s'.rest) s')
  rw [h.2.2.1, h.2.2.2]
  exact (hsame none).matches_of (.inr h)

/-- Flags for the whole pattern are not ahead as long as they would be allowed. -/
def NoFlagsAhead (first : Bool) (found : List α) (r : List Char) : Prop :=
  first = true → found = [] → opensFlags false r = false

theorem items_of_nil [CharacterNames] {k : ℕ} {first : Bool} {flags : Flags} {found : List Item}
    {s : State} (h : s.rest = []) : items (k + 1) first flags found s = .ok (found, s) := by
  have hnext : next s = .ok (none, s) := by
    cases s
    cases h
    rfl
  rw [items, bind_eq, hnext]
  rfl

/-- What the second reader, which stands inside of a group, does with the fuel that it has. -/
structure FollowsWith [CharacterNames] (given : Flags) (k : ℕ) : Prop where
  -- a token leads through all three readers at most, and the bracket is one more token
  alternatives : ∀ {n k' : ℕ} {top : Bool} {flags : Flags} {found : List Pattern},
    3 * n ≤ k + 1 → 3 * (n + 1) ≤ k' + 1 → (top = true → flags = given ∧ flags.verbose = false) →
    Follows (fun s s' => Aligned given n s s' ∧ NoFlagsAhead top found s.rest)
      (fun _ => Ended given flags.verbose n)
      (alternatives k top flags found) (alternatives k' false flags found)
  items : ∀ {n k' : ℕ} {first : Bool} {flags : Flags} {found : List Item},
    3 * n ≤ k + 2 → 3 * (n + 1) ≤ k' + 2 → (first = true → flags.verbose = false) →
    Follows (fun s s' => Aligned given n s s' ∧ NoFlagsAhead first found s.rest)
      (fun _ => Ended given flags.verbose n)
      (items k first flags found) (items k' false flags found)
  group : ∀ {n k' : ℕ} {flags : Flags} {start start' : ℕ} {opening : Opening},
    3 * n ≤ k → 3 * (n + 1) ≤ k' →
    Keeps given n (group k flags start opening) (group k' flags start' opening)

theorem followsWith_zero [CharacterNames] : FollowsWith given 0 where
  alternatives {n k' top flags found} hk hk' htop := by
    obtain rfl : n = 0 := by omega
    exact (Follows.zero (reads_alternatives_inside k' _ _).moves).of_imp
      fun _ _ h => h.1
  items {n k' first flags found} hk hk' hfirst := by
    obtain rfl : n = 0 := by omega
    exact (Follows.zero (reads_items_inside k' _ _).moves).of_imp
      fun _ _ h => h.1
  group {n k' flags start start' opening} hk hk' := by
    obtain rfl : n = 0 := by omega
    exact .zero (readsWith k').group.moves

theorem follows_items_succ [CharacterNames] {k k' : ℕ} (ih : FollowsWith given k) {first : Bool}
    {flags : Flags} {found : List Item} (hk : 3 * n ≤ k) (hk' : 3 * (n + 1) ≤ k')
    (hfirst : first = true → flags.verbose = false) :
    Follows (fun s s' => Aligned given (n + 1) s s' ∧ NoFlagsAhead first found s.rest)
      (fun _ => Ended given flags.verbose (n + 1))
      (items (k + 1) first flags found) (items (k' + 1) false flags found) := by
  rw [items, items]
  refine .next (.pure _ fun _ _ h => .inl h.1) fun start start' token => ?_
  -- the items after this piece, whatever it was
  have hitems : ∀ {found : List Item},
      Follows (fun s s' => Aligned given n s s' ∧ NoFlagsAhead first found s.rest)
        (fun _ => Ended given flags.verbose (n + 1))
        (items k first flags found) (items k' false flags found) := fun {found} =>
    (ih.items (by omega) (by omega) hfirst).mono fun _ _ _ h => h.mono n.le_succ
  have hpiece := ((follows_piece flags start start' token).of_imp
    fun _ _ (h : Aligned given n _ _ ∧ NoFlagsAhead first found (token.chars ++ _)) => h.1).and_of
    (F := fun p t => first = true → found = [] → p.opensFlags t.rest = false)
    fun s s' p t h hp hone hnil =>
      (opensFlags_of_piece (hfirst hone) hp).symm.trans (h.2 hone hnil)
  refine hpiece.bind fun p => ?_
  cases p with
  | nothing =>
    have hspent : Follows (fun s s' => flags.verbose = true ∧ Spent n s s')
        (fun _ => Ended given flags.verbose (n + 1))
        (items k first flags found) (items k' false flags found) := by
      refine ⟨(reads_items_inside k' _ _).moves, fun s s' h => ?_⟩
      have hpos := h.2.1
      obtain ⟨j, rfl⟩ : ∃ j, k = j + 1 := ⟨k - 1, by omega⟩
      obtain ⟨j', rfl⟩ : ∃ j, k' = j + 1 := ⟨k' - 1, by omega⟩
      rw [items_of_nil h.2.2.1, items_of_nil h.2.2.2]
      exact ⟨rfl, .inr ⟨h.1, h.2.mono n.le_succ⟩⟩
    exact (hitems.or hspent).of_imp fun _ _ h => h.1.imp (fun ha => ⟨ha, h.2⟩) fun hs => hs
  | item item =>
    exact hitems.of_imp fun _ _ h => ⟨h.1, fun _ hnil => absurd hnil (List.cons_ne_nil _ _)⟩
  | repetition b =>
    have hrepeat := ((@keeps_repeatItem given n start start' b found).and_of
      (F := fun done _ => done ≠ []) fun _ _ _ _ _ h => ne_nil_of_repeatItem h)
    refine Follows.bind (hrepeat.of_imp fun _ _ h => h.1) fun done => ?_
    exact hitems.of_imp fun _ _ h => ⟨h.1, fun _ hnil => absurd hnil h.2⟩
  | globalFlags on =>
    simp only [Bool.false_and, Bool.false_eq_true, if_false]
    by_cases hallowed : first && found.isEmpty
    · -- these flags are not ahead
      refine ⟨(fails_failAt _ _).moves, fun s s' h => ?_⟩
      rw [Bool.and_eq_true, List.isEmpty_iff] at hallowed
      cases h.2 hallowed.1 hallowed.2
    · rw [if_neg hallowed]
      exact .failAt _ _ _
  | group opening =>
    refine Follows.bind ((ih.group hk hk').of_imp fun _ _ h => h.1) fun body => ?_
    exact hitems.of_imp fun _ _ h => ⟨h, fun _ hnil => absurd hnil (List.cons_ne_nil _ _)⟩

theorem follows_alternatives_succ [CharacterNames] {k k' : ℕ} (ih : FollowsWith given k)
    {top : Bool} {flags : Flags} {found : List Pattern} (hk : 3 * (n + 1) ≤ k + 2)
    (hk' : 3 * (n + 2) ≤ k' + 2) (htop : top = true → flags = given ∧ flags.verbose = false) :
    Follows (fun s s' => Aligned given (n + 1) s s' ∧ NoFlagsAhead top found s.rest)
      (fun _ => Ended given flags.verbose (n + 1))
      (alternatives (k + 1) top flags found) (alternatives (k' + 1) false flags found) := by
  have hmoves := (reads_alternatives_inside (k' + 1) flags found).moves
  rw [alternatives] at hmoves ⊢
  rw [alternatives]
  refine .get hmoves fun s s' h => ?_
  have hflags : (if top then s.flags else flags) = flags := by
    split_ifs with hone
    · rw [h.1.flags, (htop hone).1]
    · rfl
  have hmore : ∀ found : List Pattern, found ≠ [] →
      Follows (Aligned given n) (fun _ => Ended given flags.verbose (n + 1))
        (alternatives k top flags found) (alternatives k' false flags found) := fun found hfound =>
    ((ih.alternatives (by omega) (by omega) htop).of_imp
      fun _ _ ha => ⟨ha, fun _ hnil => absurd hnil hfound⟩).mono fun _ _ _ he => he.mono n.le_succ
  have hfirst : (top && found.isEmpty) = true → flags.verbose = false := fun hone =>
    (htop (Bool.and_eq_true _ _ ▸ hone).1).2
  have hall : Follows
      (fun s s' => Aligned given (n + 1) s s' ∧
        @NoFlagsAhead Item (top && found.isEmpty) [] s.rest)
      (fun _ => Ended given flags.verbose (n + 1))
      (do
        let items ← items k (top && found.isEmpty) flags []
        if ← accept '|' then alternatives k top flags (sequence items :: found)
        else return .choice (sequence items :: found).reverse)
      (do
        let items ← items k' false flags []
        if ← accept '|' then alternatives k' false flags (sequence items :: found)
        else return .choice (sequence items :: found).reverse) := by
    refine (ih.items hk hk' hfirst).bind fun items => ?_
    refine (follows_accept (by decide) flags.verbose).bind fun b => ?_
    cases b with
    | true => exact hmore _ (List.cons_ne_nil _ _)
    | false => exact .pure _ fun _ _ he => he
  have hnone : @NoFlagsAhead Item (top && found.isEmpty) [] s.rest := by
    intro hone _
    rw [Bool.and_eq_true, List.isEmpty_iff] at hone
    exact h.2 hone.1 hone.2
  simp only [hflags]
  exact hall.matches_of ⟨h.1, hnone⟩

theorem keeps_group_succ [CharacterNames] {k k' : ℕ} (ih : FollowsWith given k) {flags : Flags}
    {start start' : ℕ} {opening : Opening} (hk : 3 * n ≤ k + 1) (hk' : 3 * (n + 1) ≤ k' + 1) :
    Keeps given n (group (k + 1) flags start opening) (group (k' + 1) flags start' opening) := by
  have hbody : ∀ flags : Flags, Follows (Aligned given n) (fun _ => Ended given flags.verbose n)
      (alternatives k false flags []) (alternatives k' false flags []) := fun flags =>
    (ih.alternatives hk hk' (by simp)).of_imp fun _ _ h => ⟨h, by simp [NoFlagsAhead]⟩
  have hitems : ∀ flags : Flags, Follows (Aligned given n) (fun _ => Ended given flags.verbose n)
      (items k false flags []) (items k' false flags []) := fun flags =>
    (ih.items (by omega) (by omega) (by simp)).of_imp fun _ _ h => ⟨h, by simp [NoFlagsAhead]⟩
  have hclosed : ∀ (flags : Flags) (p : Pattern → Pattern), Keeps given n
      (do
        let body ← alternatives k false flags []
        close start
        return p body)
      (do
        let body ← alternatives k' false flags []
        close start'
        return p body) := fun flags p =>
    (hbody flags).bind fun _ => (follows_close _ _ _).bind fun _ => keeps_pure _
  rw [group.eq_def, group.eq_def]
  cases opening with
  | capture name =>
    exact (keeps_openGroup _).bind fun _ => (hbody flags).bind fun _ =>
      (follows_close _ _ _).bind fun _ => (keeps_closeGroup _ _).bind fun _ => keeps_pure _
  | flagged flags => exact hclosed flags .flagged
  | atomic => exact hclosed flags .atomic
  | ahead negative => exact hclosed flags (.look negative none)
  | behind negative =>
    exact (follows_withinLookBehind (hbody flags)
      (reads_alternatives_inside k' _ _)).bind fun _ =>
        (follows_close flags.verbose _ _).bind fun _ => keeps_pure _
  | condition =>
    cases n with
    | zero =>
      have hmoves := (@ReadsWith.group _ _ (readsWith (k' + 1)) flags start' .condition).moves
      rw [group.eq_def] at hmoves
      exact .zero hmoves
    | succ n =>
      refine keeps_conditionGroup.bind fun index => (hitems flags).bind fun present => ?_
      refine (follows_accept (by decide) flags.verbose).bind fun b => ?_
      cases b with
      | false => exact (follows_close flags.verbose _ _).bind fun _ => keeps_pure _
      | true =>
        refine ((hitems flags).of_imp fun _ _ h => h.mono n.le_succ).bind
          fun absent => follows_peek_ended (fun x => ?_) ?_
        · exact .ite (.failBack _ _) ((follows_close flags.verbose _ _).bind fun _ => keeps_pure _)
        · exact ((follows_close flags.verbose _ _).bind fun _ => keeps_pure _).of_imp
            fun _ _ h => .inl h
  | plain => exact hclosed flags id
  | reference => exact hclosed flags id
  | comment => exact hclosed flags id
  | global on => exact hclosed flags id

theorem followsWith_succ [CharacterNames] {k : ℕ} (ih : FollowsWith given k) :
    FollowsWith given (k + 1) where
  alternatives {n k' top flags found} hk hk' htop := by
    obtain ⟨j', rfl⟩ : ∃ j, k' = j + 1 := ⟨k' - 1, by omega⟩
    cases n with
    | zero =>
      exact (Follows.zero (reads_alternatives_inside _ _ _).moves).of_imp
        fun _ _ h => h.1
    | succ n => exact follows_alternatives_succ ih (by omega) (by omega) htop
  items {n k' first flags found} hk hk' hfirst := by
    obtain ⟨j', rfl⟩ : ∃ j, k' = j + 1 := ⟨k' - 1, by omega⟩
    cases n with
    | zero =>
      exact (Follows.zero (reads_items_inside _ _ _).moves).of_imp
        fun _ _ h => h.1
    | succ n => exact follows_items_succ ih (by omega) (by omega) hfirst
  group {n k' flags start start' opening} hk hk' := by
    obtain ⟨j', rfl⟩ : ∃ j, k' = j + 1 := ⟨k' - 1, by omega⟩
    exact keeps_group_succ ih hk hk'

theorem followsWith [CharacterNames] (given : Flags) (k : ℕ) : FollowsWith given k := by
  induction k with
  | zero => exact followsWith_zero
  | succ k ih => exact followsWith_succ ih

/-! ## The whole pattern -/

theorem take_cons {c : Char} {r : List Char} {s : State} (hc : c ≠ '\\') (hr : r ≠ ['\\'])
    (hs : s.rest = c :: r) :
    take s = .ok (some (.char c), { s with rest := r, offset := s.offset + 1 }) := by
  have hdrop : (c :: r).drop (Token.char c).chars.length = r := rfl
  rw [take_eq, hs, tokenOf_cons_of_ne hc]
  simp only [hdrop, beq_eq_false_iff_ne.2 hr, Bool.false_eq_true, if_false]
  rfl

/-- Where the reader stands behind the opening of a group. -/
def inside (flags : Flags) (r : List Char) : State :=
  { rest := r ++ [')'], offset := 3, flags := flags }

theorem piece_opening [CharacterNames] {flags : Flags} (hverbose : flags.verbose = false)
    (r : List Char) :
    piece flags 0 (.char '(')
        { rest := '?' :: ':' :: (r ++ [')']), offset := 1, flags := flags } =
      .ok (.group .plain, inside flags r) := by
  have hpiece : piece flags 0 (.char '(') = bracketPiece flags 0 := by
    simp [piece, characterPiece, hverbose]
  have haccept : accept '?' { rest := '?' :: ':' :: (r ++ [')']), offset := 1, flags := flags } =
      .ok (true, { rest := ':' :: (r ++ [')']), offset := 2, flags := flags }) := by
    rw [accept_of_token rfl]
    exact bind_of_ok (@take_cons '?' _ _ (by decide) (by simp) rfl) _
  have hextension : extension flags
      { rest := ':' :: (r ++ [')']), offset := 2, flags := flags } =
      .ok (.plain, inside flags r) :=
    bind_of_ok (@take_cons ':' _ _ (by decide) (concat_ne_slash r) rfl) _
  rw [hpiece]
  refine (bind_of_ok haccept _).trans (bind_of_ok hextension _)

theorem next_opening (flags : Flags) (r : List Char) :
    next { rest := '(' :: '?' :: r, offset := 0, flags := flags } =
      .ok (some (0, .char '('), { rest := '?' :: r, offset := 1, flags := flags }) := by
  have htake : takeIf (!isEnd ·) { rest := '(' :: '?' :: r, offset := 0, flags := flags } =
      .ok (some (.char '('), { rest := '?' :: r, offset := 1, flags := flags }) := by
    rw [takeIf_eq]
    exact @take_cons '(' ('?' :: r) _ (by decide) (by simp) rfl
  rw [next, tell, bind_assoc, get_bind, pure_bind]
  exact bind_of_ok htake _

/-- What is read behind a group that comes first. -/
def behindGroup [CharacterNames] (fuel : ℕ) (flags : Flags) (body : Pattern) : Reader Pattern := do
  let items ← items fuel true flags [⟨.other, body⟩]
  let more ← accept '|'
  finish (← (if more then alternatives (fuel + 1) true flags [sequence items]
    else pure (sequence items)))

theorem whole_bracketed [CharacterNames] {flags : Flags} (hverbose : flags.verbose = false)
    (r : List Char) :
    whole { rest := '(' :: '?' :: ':' :: (r ++ [')']), offset := 0, flags := flags } =
      (do
        let body ← alternatives (4 * r.length + 21) false flags []
        close 0
        behindGroup (4 * r.length + 22) flags body) (inside flags r) := by
  have hitems : items (4 * r.length + 23) true flags []
        { rest := '(' :: '?' :: ':' :: (r ++ [')']), offset := 0, flags := flags } =
      (do
        let body ← alternatives (4 * r.length + 21) false flags []
        close 0
        items (4 * r.length + 22) true flags [⟨.other, body⟩]) (inside flags r) := by
    rw [items]
    refine (bind_of_ok (next_opening _ _) _).trans
      ((bind_of_ok (piece_opening hverbose r) _).trans ?_)
    simp only [group, bind_assoc, pure_bind]
  have hfuel : 4 * ('(' :: '?' :: ':' :: (r ++ [')'])).length + 8 = 4 * r.length + 23 + 1 := by
    simp
    omega
  have hmove : moveTo ('(' :: '?' :: ':' :: (r ++ [')'])) 0
      { rest := '(' :: '?' :: ':' :: (r ++ [')']), offset := 0, flags := flags } =
      .ok ((), { rest := '(' :: '?' :: ':' :: (r ++ [')']), offset := 0, flags := flags }) := by
    rw [moveTo, if_neg (by simp)]
    rfl
  rw [whole, get_bind]
  refine (bind_of_ok hmove _).trans ?_
  rw [hfuel, alternatives, bind_assoc, get_bind, bind_assoc]
  simp only [if_true]
  refine (bind_congr_state hitems _).trans ?_
  simp only [bind_assoc]
  rfl

/-- What is looked at last, for a reader that has nothing left. -/
def isComplete (pattern : Pattern) (s : State) : Bool :=
  (s.references.map Prod.fst).all (· < s.groups) && (lateFault? s.flags.template pattern).isNone

theorem finish_of_nil {pattern : Pattern} {s : State} (hkinds : s.flags.conflict = false)
    (h : s.rest = []) :
    if isComplete pattern s then finish pattern s = .ok (pattern, s)
    else ∃ e, finish pattern s = .error e := by
  have hend : ¬ (tokenOf s.rest).isSome = true := by simp [h, tokenOf]
  have hfind : (s.references.find? fun r => s.groups ≤ r.1) = none ↔
      (s.references.map Prod.fst).all (· < s.groups) = true := by
    simp [List.find?_eq_none]
  rw [finish_of_not_conflict hkinds, isComplete, complete, peek, bind_assoc, get_bind, pure_bind,
    if_neg hend, get_bind]
  cases href : s.references.find? fun r => s.groups ≤ r.1 with
  | some reference =>
    have hall : (s.references.map Prod.fst).all (· < s.groups) = false := by
      rw [Bool.eq_false_iff, ne_eq, ← hfind, href]
      simp
    rw [hall]
    exact ⟨_, rfl⟩
  | none =>
    rw [hfind.1 href]
    cases lateFault? s.flags.template pattern with
    | some cause => exact ⟨_, rfl⟩
    | none => rfl

theorem finish_of_ne_nil {pattern : Pattern} {s : State} (hkinds : s.flags.conflict = false)
    (h : s.rest ≠ []) :
    finish pattern s = .error (.broken .unbalancedGroup (some (s.offset - 0))) := by
  have hsome : (tokenOf s.rest).isSome = true := by
    rw [Option.isSome_iff_ne_none, ne_eq, tokenOf_eq_none_iff]
    exact h
  rw [finish_of_not_conflict hkinds, complete, peek, bind_assoc, get_bind, pure_bind, if_pos hsome]
  rfl

theorem Aligned.isComplete_eq {s s' : State} (h : Aligned given n s s')
    (hflags : s'.flags = given) (pattern : Pattern) :
    isComplete pattern s' = isComplete pattern s := by
  rw [isComplete, isComplete, h.references, h.groups_eq, hflags, h.flags]

theorem whole_eq [CharacterNames] (flags : Flags) {r : List Char} (hr : r ≠ ['\\']) :
    whole { rest := r, offset := 0, flags := flags } =
      (alternatives (4 * r.length + 8) true flags [] >>= finish)
        { rest := r, offset := 0, flags := flags } := by
  have hmove : moveTo r 0 { rest := r, offset := 0, flags := flags } =
      .ok ((), { rest := r, offset := 0, flags := flags }) := by
    rw [moveTo, if_neg (by simpa using hr)]
    rfl
  rw [whole, get_bind]
  exact bind_of_ok hmove _

theorem NeverCloses.close {s : State} (h : NeverCloses s.rest) (start : ℕ) :
    close start s = .error (.broken .unterminatedGroup (some start)) := by
  refine close_of_ne fun htoken => ?_
  have hrest := chars_append_of_tokenOf htoken
  rw [hrest] at h
  exact h _ .refl

/-- Two readings of a pattern, on its own and inside of a group. -/
inductive Readings : Except PatternRefusal (Pattern × State) →
    Except PatternRefusal (Pattern × State) → Prop where
  | same {pattern : Pattern} {s s' : State} (h : s'.widths = s.widths) :
      Readings (.ok (pattern, s)) (.ok (pattern, s'))
  | refused {e e' : PatternRefusal} : Readings (.error e) (.error e')
  | unbalanced {offset : Option ℕ} {x : Except PatternRefusal (Pattern × State)} :
      Readings (.error (.broken .unbalancedGroup offset)) x

/-- Both readings have found the alternatives of the pattern. -/
theorem readings_of_aligned [CharacterNames] {s s' : State} (hkinds : given.conflict = false)
    (h : Aligned given n s s') (hflags : s'.flags = given) (body : Pattern) (k : ℕ)
    (flags : Flags) :
    Readings (finish body s) ((close 0 >>= fun _ => behindGroup (k + 1) flags body) s') := by
  by_cases hnil : s.rest = []
  · -- the bracket closes the group, and behind it nothing is left
    have htoken : tokenOf s'.rest = some (.char ')') := by
      rw [h.rest, hnil]
      rfl
    have hclose : close 0 s' = .ok ((), { s' with rest := [], offset := s'.offset + 1 }) := by
      rw [close_of_token htoken]
      exact bind_of_ok (h.take_of_nil hnil).2 _
    have hbehind : behindGroup (k + 1) flags body
        { s' with rest := [], offset := s'.offset + 1 } =
        finish body { s' with rest := [], offset := s'.offset + 1 } := by
      refine (bind_of_ok (items_of_nil rfl) _).trans ?_
      exact bind_of_ok (accept_of_ne (by simp [tokenOf])) _
    have hcomplete : isComplete body { s' with rest := [], offset := s'.offset + 1 } =
        isComplete body s := h.isComplete_eq hflags body
    have hfinish := @finish_of_nil body s (h.flags ▸ hkinds) hnil
    have hfinish' := @finish_of_nil body { s' with rest := [], offset := s'.offset + 1 }
      (hflags ▸ hkinds) rfl
    rw [bind_of_ok hclose, hbehind]
    rw [hcomplete] at hfinish'
    split_ifs at hfinish hfinish'
    · rw [hfinish, hfinish']
      exact .same h.widths
    · obtain ⟨e, he⟩ := hfinish
      obtain ⟨e', he'⟩ := hfinish'
      rw [he, he']
      exact .refused
  · -- the alternatives end before the pattern does, at a bracket of its own
    rw [finish_of_ne_nil (h.flags ▸ hkinds) hnil]
    exact .unbalanced

/-- A reading inside of the group that goes on has to find a bracket. -/
theorem bracketed_fails_of_neverCloses [CharacterNames] {flags : Flags}
    (hverbose : flags.verbose = false) {r : List Char} {body : Pattern} {t : State}
    (ht : alternatives (4 * r.length + 21) false flags [] (inside flags r) = .ok (body, t))
    (hnever : NeverCloses t.rest) :
    ∃ e, whole { rest := '(' :: '?' :: ':' :: (r ++ [')']), offset := 0, flags := flags } =
      .error e := by
  rw [whole_bracketed hverbose]
  exact ⟨_, (bind_of_ok ht _).trans (bind_of_error (hnever.close 0) _)⟩

theorem bracketed_fails_of_error [CharacterNames] {flags : Flags} (hverbose : flags.verbose = false)
    {r : List Char} {e : PatternRefusal}
    (h : alternatives (4 * r.length + 21) false flags [] (inside flags r) = .error e) :
    ∃ e, whole { rest := '(' :: '?' :: ':' :: (r ++ [')']), offset := 0, flags := flags } =
      .error e := by
  rw [whole_bracketed hverbose]
  exact ⟨e, bind_of_error h _⟩

/-- Inside of a group no flags for the whole pattern are read, so they are not in conflict. -/
theorem bracketed_eq_error [CharacterNames] {flags : Flags} (hverbose : flags.verbose = false)
    (hkinds : flags.conflict = false) {r : List Char} {e : PatternRefusal}
    (h : whole { rest := '(' :: '?' :: ':' :: (r ++ [')']), offset := 0, flags := flags } =
      .error e) : isBroken e ∨ hasOversize (r ++ [')']) := by
  have hbehind : ∀ n body, Reads [] (do
      let items ← items n true flags [⟨.other, body⟩]
      let more ← accept '|'
      if more then alternatives (n + 1) true flags [sequence items]
      else pure (sequence items)) := by
    intro n body
    refine ((readsWith n).items fun _ => List.cons_ne_nil _ _).bind fun found =>
      (reads_accept _).bind fun more => ?_
    exact .ite ((readsWith _).alternatives fun _ => List.cons_ne_nil _ _) (.pure _)
  have hread := (reads_alternatives_inside (4 * r.length + 21) flags []).bind fun body =>
    (reads_close 0).bind fun _ => hbehind (4 * r.length + 22) body
  have hwhole := (whole_bracketed hverbose r).symm.trans h
  simp only [behindGroup, ← bind_assoc] at hwhole hread
  rcases bind_eq_error hwhole with hs | ⟨pattern, t, ht, hfinish⟩
  · exact hread.refuses hs
  · rw [finish_of_not_conflict (hread.keepsFlags ht ▸ hkinds)] at hfinish
    exact (hread.bind reads_complete).refuses ((bind_of_ok ht _).trans hfinish)

theorem Readings.of_error {x x' : Except PatternRefusal (Pattern × State)} {e : PatternRefusal}
    (h : x = .error e) (h' : ∃ e', x' = .error e') : Readings x x' := by
  obtain ⟨e', he'⟩ := h'
  rw [h, he']
  exact .refused

/-- A lone backslash takes the bracket with it. -/
theorem readings_of_slash [CharacterNames] {flags : Flags} (hverbose : flags.verbose = false)
    {r : List Char} (hr : r = ['\\']) :
    Readings (whole { rest := r, offset := 0, flags := flags })
      (whole { rest := '(' :: '?' :: ':' :: (r ++ [')']), offset := 0, flags := flags }) := by
  have hslash : whole { rest := r, offset := 0, flags := flags } =
      .error (.broken .loneBackslash (some 0)) := by
    subst hr
    rfl
  have hnever : NeverCloses (inside flags r).rest := by
    rw [hr]
    exact neverCloses_escape
  refine .of_error hslash ?_
  rcases ht : alternatives (4 * r.length + 21) false flags [] (inside flags r) with e | ⟨body, t⟩
  · exact bracketed_fails_of_error hverbose ht
  · have hlater := (reads_alternatives_inside _ _ _).moves ht
    exact bracketed_fails_of_neverCloses hverbose ht (hnever.later hlater)

/-- A pattern without flags for the whole of it is read alike on its own and inside of a group,
unless it closes the group itself. -/
theorem readings_of_bracketed [CharacterNames] {flags : Flags} (hverbose : flags.verbose = false)
    (hkinds : flags.conflict = false) {r : List Char} (hopens : opensFlags false r = false) :
    Readings (whole { rest := r, offset := 0, flags := flags })
      (whole { rest := '(' :: '?' :: ':' :: (r ++ [')']), offset := 0, flags := flags }) := by
  by_cases hr : r = ['\\']
  · exact readings_of_slash hverbose hr
  have haligned : Aligned flags (r.length + 1) { rest := r, offset := 0, flags := flags }
      (inside flags r) :=
    ⟨rfl, hr, Nat.lt_succ_self _, rfl, rfl, rfl, rfl, rfl⟩
  have hfollows : Follows
      (fun s s' => Aligned flags (r.length + 1) s s' ∧ @NoFlagsAhead Pattern true [] s.rest)
      (fun _ => Ended flags flags.verbose (r.length + 1))
      (alternatives (4 * r.length + 8) true flags [])
      (alternatives (4 * r.length + 21) false flags []) :=
    (followsWith flags _).alternatives (by omega) (by omega) fun _ => ⟨rfl, hverbose⟩
  have hmatches := hfollows.matches_of ⟨haligned, fun _ _ => hopens⟩
  rw [whole_eq flags hr]
  rcases ht : alternatives (4 * r.length + 8) true flags []
    { rest := r, offset := 0, flags := flags } with e | ⟨body, t⟩ <;>
  rcases ht' : alternatives (4 * r.length + 21) false flags [] (inside flags r) with
    e' | ⟨body', t'⟩ <;> rw [ht, ht'] at hmatches
  · exact .of_error (bind_of_error ht _) (bracketed_fails_of_error hverbose ht')
  · exact .of_error (bind_of_error ht _) (bracketed_fails_of_neverCloses hverbose ht' hmatches)
  · exact hmatches.elim
  · obtain ⟨rfl, hended⟩ := hmatches
    rw [whole_bracketed hverbose, bind_of_ok ht, bind_of_ok ht']
    rcases hended with halign | ⟨hspent, -⟩
    · have hflags := (reads_alternatives_inside _ _ _).keepsFlags ht'
      exact readings_of_aligned hkinds halign hflags body _ flags
    · rw [hverbose] at hspent
      cases hspent

theorem bracketed_fails_of_opensFlags [CharacterNames] {flags : Flags}
    (hverbose : flags.verbose = false) {r : List Char} (hopens : opensFlags false r) :
    ∃ e, whole { rest := '(' :: '?' :: ':' :: (r ++ [')']), offset := 0, flags := flags } =
      .error e := by
  have hinside : opensFlags false (inside flags r).rest := opensFlags_append hopens [')']
  obtain ⟨e, he⟩ := items_fails_of_opensFlags hverbose (4 * r.length + 20) hinside
  refine ⟨e, ?_⟩
  rw [whole_bracketed hverbose]
  refine bind_of_error ?_ _
  rw [alternatives, get_bind]
  exact bind_of_error he _

end Outline.PatternReader
