import Outline.Proofs.Pattern.Reads

set_option autoImplicit false

/-!
# Flags at the front of a pattern

Flags for the whole pattern may stand at its front, and only comments may stand before them. Whether
they do can be seen from the characters alone.
-/
namespace Outline.PatternReader

/-- Whether letters of flags and then a closing bracket follow. -/
def closesFlags : List Char → Bool
  | ')' :: _ => true
  | c :: rest => isFlag c && closesFlags rest
  | [] => false

/-- Whether flags for the whole pattern come first, behind any number of comments. The first
argument tells whether the characters stand inside of a comment. -/
def opensFlags : Bool → List Char → Bool
  | true, '\\' :: _ :: rest => opensFlags true rest
  | true, ')' :: rest => opensFlags false rest
  | true, _ :: rest => opensFlags true rest
  | false, '(' :: '?' :: '#' :: rest => opensFlags true rest
  | false, '(' :: '?' :: c :: rest => isFlag c && closesFlags rest
  | _, _ => false

theorem closesFlags_cons {c : Char} (hc : c ≠ ')') (rest : List Char) :
    closesFlags (c :: rest) = (isFlag c && closesFlags rest) :=
  closesFlags.eq_2 c rest hc

theorem closesFlags_append {r : List Char} (h : closesFlags r) (t : List Char) :
    closesFlags (r ++ t) := by
  fun_induction closesFlags r with
  | case1 rest => rfl
  | case2 c rest hc ih =>
    rw [Bool.and_eq_true] at h
    rw [List.cons_append, closesFlags_cons hc, h.1, ih h.2]
    rfl
  | case3 => cases h

theorem opensFlags_inside_cons {c : Char} (hslash : c ≠ '\\') (hclose : c ≠ ')')
    (rest : List Char) : opensFlags true (c :: rest) = opensFlags true rest :=
  opensFlags.eq_3 c rest (fun _ _ h => absurd h hslash) hclose

theorem opensFlags_bracket {c : Char} (hc : c ≠ '#') (rest : List Char) :
    opensFlags false ('(' :: '?' :: c :: rest) = (isFlag c && closesFlags rest) :=
  opensFlags.eq_5 c rest hc

theorem opensFlags_of_ne_bracket {c : Char} (hc : c ≠ '(') (rest : List Char) :
    opensFlags false (c :: rest) = false := by
  unfold opensFlags
  split <;> simp_all

theorem tokenOf_of_opensFlags {r : List Char} (h : opensFlags false r) :
    tokenOf r = some (.char '(') := by
  cases r with
  | nil => cases h
  | cons c rest =>
    by_cases hc : c = '('
    · subst hc
      rfl
    · rw [opensFlags_of_ne_bracket hc] at h
      cases h

theorem opensFlags_of_ne_question {r : List Char} (hr : ∀ rest, r ≠ '?' :: rest) :
    opensFlags false ('(' :: r) = false := by
  unfold opensFlags
  split <;> simp_all

theorem opensFlags_append {inside : Bool} {r : List Char} (h : opensFlags inside r)
    (t : List Char) : opensFlags inside (r ++ t) := by
  fun_induction opensFlags inside r with
  | case1 c rest ih => exact ih h
  | case2 rest ih => exact ih h
  | case3 c rest hescape hclose ih =>
    cases rest with
    | nil => cases h
    | cons d more =>
      have hslash : c ≠ '\\' := fun hc => hescape d more hc rfl
      rw [List.cons_append, opensFlags_inside_cons hslash hclose]
      exact ih h
  | case4 rest ih => exact ih h
  | case5 c rest hc =>
    rw [Bool.and_eq_true] at h
    rw [List.cons_append, List.cons_append, List.cons_append, opensFlags_bracket hc, h.1,
      closesFlags_append h.2]
    rfl
  | case6 => cases h

/-! ## Reading them -/

variable {flags : Flags} {s t : State}

theorem opensFlags_of_skipComment {start k : ℕ} {x : Unit}
    (h : skipComment start k s = .ok (x, t)) :
    opensFlags true s.rest = opensFlags false t.rest := by
  induction k generalizing s with
  | zero => cases h
  | succ k ih =>
    obtain ⟨x, u, hu, hskip⟩ := bind_eq_ok h
    rcases take_eq_ok hu with ⟨rfl, -, -⟩ | ⟨token, rfl, htoken, hrest⟩
    · cases hskip
    dsimp only at hskip
    split_ifs at hskip with hclose
    · cases hskip
      rw [beq_iff_eq] at hclose
      rw [hrest, hclose]
      rfl
    · rw [← ih hskip, hrest]
      cases token with
      | escape c => rfl
      | char c =>
        by_cases hc : c = '\\'
        · -- a backslash is a token of its own only at the end
          subst hc
          cases hmore : u.rest with
          | nil => rfl
          | cons d more =>
            rw [hrest, hmore] at htoken
            cases htoken
        · exact opensFlags_inside_cons hc (by simpa using hclose) u.rest

def FlagChange.isGlobal : FlagChange → Bool
  | .global _ => true
  | _ => false

theorem isGlobal_of_flagsOff {on off : List Char} {k : ℕ} {c : Char} {change : FlagChange}
    (h : flagsOff on k off c s = .ok (change, t)) : change.isGlobal = false := by
  induction k generalizing s off c with
  | zero => cases h
  | succ k ih =>
    unfold flagsOff at h
    split_ifs at h
    · cases h
    obtain ⟨x, u, -, hmore⟩ := bind_eq_ok h
    split at hmore
    · cases hmore
    · split_ifs at hmore
      · cases hmore
      · cases hmore
      · cases hmore
        rfl
    · split at hmore
      · split_ifs at hmore
        · exact ih hmore
        · cases hmore
      · cases hmore

theorem isGlobal_of_flagsAfterMinus {on : List Char} {change : FlagChange}
    (h : flagsAfterMinus on s = .ok (change, t)) : change.isGlobal = false := by
  unfold flagsAfterMinus at h
  split_ifs at h
  · cases h
  obtain ⟨x, u, -, hmore⟩ := bind_eq_ok h
  split at hmore
  · cases hmore
  · split at hmore
    · split_ifs at hmore
      · exact isGlobal_of_flagsOff hmore
      · cases hmore
    · cases hmore

theorem closesFlags_of_flagsOn {on : List Char} {k : ℕ} {c : Char} {change : FlagChange}
    (h : flagsOn k on c s = .ok (change, t)) : closesFlags s.rest = change.isGlobal := by
  induction k generalizing s on c with
  | zero => cases h
  | succ k ih =>
    have htake := (fails_failBack _ _).of_ite ((fails_failBack _ _).of_ite h)
    obtain ⟨x, u, hu, hmore⟩ := bind_eq_ok htake
    split at hmore
    · cases hmore
    · cases hmore
      rw [rest_of_take hu]
      rfl
    · rw [rest_of_take hu, isGlobal_of_flagsAfterMinus hmore]
      rfl
    · have hpure := (fails_failBack _ _).of_ite hmore
      cases hpure
      rw [rest_of_take hu]
      rfl
    · rename_i token hclose _ _
      rw [rest_of_take hu]
      cases token with
      | escape d => cases hmore
      | char d =>
        dsimp only at hmore
        split_ifs at hmore with hflag
        · have hd : d ≠ ')' := fun hd => hclose (by rw [hd])
          rw [← ih hmore]
          change closesFlags (d :: u.rest) = _
          rw [closesFlags_cons hd, hflag, Bool.true_and]
        · cases hmore

theorem isFlag_and_closesFlags_of_inlineFlags {c : Char} {change : FlagChange}
    (hc : (isFlag c || c == '-') = true) (h : inlineFlags c s = .ok (change, t)) :
    (isFlag c && closesFlags s.rest) = change.isGlobal := by
  unfold inlineFlags at h
  split_ifs at h with hminus
  · rw [beq_iff_eq] at hminus
    rw [hminus, isGlobal_of_flagsAfterMinus h]
    rfl
  · have hflag : isFlag c = true := by simpa [hminus] using hc
    rw [hflag, Bool.true_and]
    exact closesFlags_of_flagsOn h

/-- What an opening bracket with a question mark says about flags at the front. -/
def Opening.opensFlags : Opening → List Char → Bool
  | .comment, rest => PatternReader.opensFlags true rest
  | .global _, _ => true
  | _, _ => false

theorem opensFlags_of_extension {opening : Opening}
    (h : extension flags s = .ok (opening, t)) :
    opensFlags false ('(' :: '?' :: s.rest) = opening.opensFlags t.rest := by
  obtain ⟨x, u, hu, hmore⟩ := bind_eq_ok h
  split at hmore
  · cases hmore
  rename_i token
  rw [rest_of_take hu]
  split at hmore
  · obtain ⟨named, v, -, hmore⟩ := bind_eq_ok hmore
    cases named with
    | true =>
      obtain ⟨name, _, -, hmore⟩ := bind_eq_ok hmore
      obtain ⟨_, _, -, hmore⟩ := bind_eq_ok hmore
      cases hmore
      rfl
    | false =>
      obtain ⟨b, _, -, hmore⟩ := bind_eq_ok hmore
      cases b with
      | true =>
        cases hmore
        rfl
      | false =>
        obtain ⟨x, _, -, hmore⟩ := bind_eq_ok hmore
        cases x with
        | none => cases hmore
        | some token => cases hmore
  · cases hmore
    rfl
  · cases hmore
    rfl
  · cases hmore
    rfl
  · cases hmore
    rfl
  · obtain ⟨x, u, -, hmore⟩ := bind_eq_ok hmore
    split at hmore
    · cases hmore
    · cases hmore
      rfl
    · cases hmore
      rfl
    · cases hmore
  · cases hmore
    rfl
  · cases hmore
    rfl
  · rename_i c _ _ hcomment _ _ _ _ _
    change opensFlags false ('(' :: '?' :: c :: u.rest) = _
    rw [opensFlags_bracket fun hc => hcomment (by rw [hc])]
    split_ifs at hmore with hflag
    · obtain ⟨change, v, hchange, hmore⟩ := bind_eq_ok hmore
      rw [isFlag_and_closesFlags_of_inlineFlags hflag hchange]
      cases change with
      | global on =>
        cases hmore
        rfl
      | _ =>
        cases hmore
        rfl
    · cases hmore
  · cases hmore

/-- What a piece says about flags at the front, if it is the first one. -/
def Piece.opensFlags : Piece → List Char → Bool
  | .nothing, rest => PatternReader.opensFlags false rest
  | .globalFlags _, _ => true
  | _, _ => false

theorem opensFlags_of_bracketPiece {start : ℕ} {p : Piece}
    (h : bracketPiece flags start s = .ok (p, t)) :
    opensFlags false ('(' :: s.rest) = p.opensFlags t.rest := by
  obtain ⟨b, u, hu, hmore⟩ := bind_eq_ok h
  obtain ⟨opening, v, hv, hpiece⟩ := bind_eq_ok hmore
  rcases accept_eq_ok hu with ⟨rfl, hrest⟩ | ⟨rfl, hne, rfl⟩
  · rw [hrest, opensFlags_of_extension hv]
    split at hpiece
    · obtain ⟨_, _, hget, hskip⟩ := bind_eq_ok hpiece
      cases hget
      obtain ⟨_, w, hw, hpure⟩ := bind_eq_ok hskip
      cases hpure
      exact opensFlags_of_skipComment hw
    · obtain ⟨_, w, -, hpure⟩ := bind_eq_ok hpiece
      cases hpure
      rfl
    · cases hpiece
      rfl
    · rename_i hcomment _ hglobal
      cases hpiece
      cases opening with
      | comment => exact absurd rfl hcomment
      | global on => exact absurd rfl (hglobal on)
      | _ => rfl
  · cases hv
    cases hpiece
    refine opensFlags_of_ne_question fun rest hrest => hne ?_
    rw [hrest]
    rfl

theorem opensFlags_of_characterPiece [CharacterNames] {start : ℕ} {c : Char} {p : Piece}
    (hflags : flags.verbose = false) (h : characterPiece flags start c s = .ok (p, t)) :
    opensFlags false (c :: s.rest) = p.opensFlags t.rest := by
  unfold characterPiece at h
  simp only [hflags, Bool.false_and, Bool.false_eq_true, if_false] at h
  by_cases hc : c = '('
  · subst hc
    exact opensFlags_of_bracketPiece h
  -- no other character begins a comment or flags
  rw [opensFlags_of_ne_bracket hc]
  have hbracket : (c == '(') = false := beq_eq_false_iff_ne.2 hc
  simp only [hbracket, Bool.false_eq_true, if_false] at h
  split_ifs at h
  · obtain ⟨_, _, -, hpure⟩ := bind_eq_ok h
    cases hpure
    rfl
  · obtain ⟨b, _, -, hpure⟩ := bind_eq_ok h
    cases b with
    | none =>
      cases hpure
      rfl
    | some b =>
      cases hpure
      rfl
  all_goals
    cases h
    rfl

theorem opensFlags_of_piece [CharacterNames] {start : ℕ} {token : Token} {p : Piece}
    (hflags : flags.verbose = false) (h : piece flags start token s = .ok (p, t)) :
    opensFlags false (token.chars ++ s.rest) = p.opensFlags t.rest := by
  cases token with
  | escape c =>
    obtain ⟨item, u, -, hpure⟩ := bind_eq_ok h
    cases hpure
    rfl
  | char c => exact opensFlags_of_characterPiece hflags h

/-- Flags for the whole pattern that come first are refused where they are not allowed. -/
theorem items_fails_of_opensFlags [CharacterNames] (hflags : flags.verbose = false) (k : ℕ)
    (hopens : opensFlags false s.rest) : ∃ e, items k false flags [] s = .error e := by
  induction k generalizing s with
  | zero => exact ⟨_, rfl⟩
  | succ k ih =>
    cases hitems : items (k + 1) false flags [] s with
    | error e => exact ⟨e, rfl⟩
    | ok done =>
      exfalso
      rw [items, next_bind] at hitems
      obtain ⟨_, _, hget, hitems⟩ := bind_eq_ok hitems
      cases hget
      obtain ⟨x, u, hu, hitems⟩ := bind_eq_ok hitems
      rcases takeIf_eq_ok hu with ⟨-, hend, -⟩ | ⟨token, rfl, -, hrest, -⟩
      · simp [tokenOf_of_opensFlags hopens, isEnd] at hend
      obtain ⟨p, v, hv, hitems⟩ := bind_eq_ok hitems
      rw [hrest, opensFlags_of_piece hflags hv] at hopens
      cases p with
      | nothing =>
        obtain ⟨e, he⟩ := ih hopens
        cases he.symm.trans hitems
      | globalFlags on => cases hitems
      | item item => cases hopens
      | repetition b => cases hopens
      | group opening => cases hopens

end Outline.PatternReader
