import Mathlib.Tactic.SplitIfs
import Outline.Proofs.Pattern.Bracketed
import Outline.Proofs.Service.Agreement

set_option autoImplicit false

/-!
# Texts that are no filters

A text that is no filter is a fault of what was asked for, and the command and the service both
treat it so. The exception is a text with a number that is too large for a pattern.
-/
namespace Outline.Filter

open PatternReader

/-! ## Numbers that are too large -/

theorem takeWhile_concat {p : Char → Bool} {c : Char} (hc : p c = false) (r : List Char) :
    (r ++ [c]).takeWhile p = r.takeWhile p := by
  induction r with
  | nil => simp [hc]
  | cons d rest ih => simp [List.takeWhile_cons, ih]

theorem drop_takeWhile_concat (p : Char → Bool) (c : Char) (r : List Char) :
    (r ++ [c]).drop (r.takeWhile p).length = r.drop (r.takeWhile p).length ++ [c] :=
  List.drop_append_of_le_length (List.takeWhile_sublist p).length_le

theorem startsOversize_cases {r : List Char} (h : startsOversize r) :
    (∃ rest, r = '\\' :: 'U' :: rest) ∨ ∃ rest, r = '{' :: rest := by
  unfold startsOversize at h
  split at h
  · exact .inl ⟨_, rfl⟩
  · exact .inr ⟨_, rfl⟩
  · cases h

theorem startsOversize_code_of_concat {rest : List Char}
    (h : startsOversize ('\\' :: 'U' :: (rest ++ [')']))) :
    startsOversize ('\\' :: 'U' :: rest) := by
  simp only [startsOversize, Bool.and_eq_true, beq_iff_eq] at h ⊢
  have hlength : 8 ≤ rest.length := by
    by_contra hshort
    have hlast : ')' ∈ (rest ++ [')']).take 8 := by
      rw [List.take_of_length_le (by simp; omega)]
      simp
    have hdigit := List.all_eq_true.1 h.1.2 _ hlast
    cases hdigit
  rwa [List.take_append_of_le_length hlength] at h

theorem startsOversize_bounds_of_concat {rest : List Char}
    (h : startsOversize ('{' :: (rest ++ [')']))) : startsOversize ('{' :: rest) := by
  simp only [startsOversize] at h ⊢
  rw [takeWhile_concat (by decide), drop_takeWhile_concat] at h
  cases hrest : rest.drop (rest.takeWhile Char.isDigit).length with
  | nil =>
    rw [hrest] at h
    cases h
  | cons c more =>
    rw [hrest] at h
    simp only [List.cons_append] at h
    split at h
    · rename_i heq
      cases heq
      exact h
    · rename_i heq
      cases heq
      rw [takeWhile_concat (by decide), drop_takeWhile_concat] at h
      rw [Bool.and_eq_true, beq_iff_eq] at h
      simp only [Bool.and_eq_true, beq_iff_eq]
      refine ⟨?_, h.2⟩
      cases hmore : more.drop (more.takeWhile Char.isDigit).length with
      | nil => simp [hmore] at h
      | cons d last => simpa [hmore] using h.1
    · cases h

/-- The bracket behind a filter belongs to no number. -/
theorem startsOversize_of_concat {r : List Char} (h : startsOversize (r ++ [')'])) :
    startsOversize r := by
  rcases startsOversize_cases h with ⟨rest', hr⟩ | ⟨rest', hr⟩
  · rcases r with _ | ⟨c, _ | ⟨d, rest⟩⟩
    · cases hr
    · cases hr
    · cases hr
      exact startsOversize_code_of_concat h
  · rcases r with _ | ⟨c, rest⟩
    · cases hr
    · cases hr
      exact startsOversize_bounds_of_concat h

theorem hasOversize_of_concat {r : List Char} (h : hasOversize (r ++ [')'])) : hasOversize r := by
  obtain ⟨t, ht, hstarts⟩ := List.any_eq_true.1 h
  rw [List.mem_tails, List.suffix_concat_iff] at ht
  rcases ht with rfl | ⟨u, rfl, hu⟩
  · cases hstarts
  · exact hasOversize_of_suffix hu (hasOversize_of_starts (startsOversize_of_concat hstarts))

theorem kind_refused (text : String) (refusal : PatternRefusal) :
    (Failure.filter (.refused text refusal)).kind =
      if isBroken refusal then .configuration else .other := by
  cases refusal <;> rfl

theorem read_eq_error [CharacterNames] {text : String} {e : FilterError}
    (h : read text = .error e) :
    (Failure.filter e).kind = .configuration ∨
      (Failure.filter e).kind = .other ∧ hasOversize text.toList := by
  unfold read at h
  split_ifs at h
  · cases h
    exact .inl rfl
  rw [read_pattern_eq, toList_wrap] at h
  split at h
  · cases h
  rename_i refusal hread
  cases h
  split at hread
  · cases hread
  rename_i hwhole
  cases hread
  rw [kind_refused]
  by_cases hbroken : isBroken refusal
  · exact .inl (if_pos hbroken)
  · have hoversize := (bracketed_eq_error rfl rfl hwhole).resolve_left hbroken
    exact .inr ⟨if_neg hbroken, hasOversize_of_concat hoversize⟩

/-! ## The command and the service -/

open CommandLine (exitOf isTaken run run_untaken_filter)
open Service

variable {fs : FileSystem} {here token : String} {parse : Parser} {room : Option ℕ} {w : Wish}
  {text : String} {e : FilterError}

/-- The root folder is looked at before the filter is read. -/
theorem meet_of_read_eq_error [CharacterNames] (hfilter : w.filter = some text)
    (hread : read text = .error e) :
    (meet fs here token w parse room).1 = fs ∧
      (meet fs here token w parse room).2.result =
        (Settings.rootFolder fs here (some w.root)).bind fun _ => .error (.filter e) := by
  have hbuilt : (buildFor fs here w parse).result =
      (Settings.rootFolder fs here (some w.root)).bind fun _ => .error (.filter e) := by
    simp only [buildFor, Outcome.result_bind, Outcome.result_ofResult, Settings.make, hfilter]
    cases Settings.rootFolder fs here (some w.root) with
    | error failure => rfl
    | ok folder =>
      simp [Except.map, Except.bind, Settings.withRoot, Report.build, hread, Except.mapError]
  unfold meet
  simp only [hbuilt]
  cases Settings.rootFolder fs here (some w.root) with
  | error failure => exact ⟨rfl, rfl⟩
  | ok folder => exact ⟨rfl, rfl⟩

theorem kind_of_rootFolder_eq_error {root : Option String} {failure : Failure}
    (h : Settings.rootFolder fs here root = .error failure) : failure.kind = .configuration := by
  unfold Settings.rootFolder at h
  split at h
  · cases h
    rfl
  · simp only at h
    split_ifs at h
    cases h
    rfl

/-- With such a text the command writes nothing and counts as done, unless it takes the text for an
option, and the service answers that the request is bad. -/
structure IsRefused [CharacterNames] (text : String) : Prop where
  command : ∀ (fs : FileSystem) (here token root : String) (parse : Parser) (room : Option ℕ),
    isTaken root →
      let done := run fs here token [root, "--filter", text] parse room
      done.exit = .ok (if isTaken text then 0 else 2) ∧ done.written = none ∧ done.files = fs
  service : ∀ (fs : FileSystem) (here token : String) (r : Request) (w : Wish) (parse : Parser)
    (room : Option ℕ), States r w → w.filter = some text →
      let answer := handle fs here token r parse room
      answer.response.status = 400 ∧ answer.files = fs

/-- With such a text the command ends without an exit code once it has found the root folder, and
the service fails. -/
structure IsCrash [CharacterNames] (text : String) (e : FilterError) : Prop where
  command : ∀ (fs : FileSystem) (here token root : String) (parse : Parser) (room : Option ℕ),
    isTaken root → isTaken text →
    (Settings.rootFolder fs here (some root)).isOk →
      let done := run fs here token [root, "--filter", text] parse room
      done.exit = .error (.failure (.filter e)) ∧ done.files = fs
  service : ∀ (fs : FileSystem) (here token : String) (r : Request) (w : Wish) (parse : Parser)
    (room : Option ℕ), States r w → w.filter = some text →
    (Settings.rootFolder fs here (some w.root)).isOk →
      let answer := handle fs here token r parse room
      answer.response.status = 500 ∧ answer.files = fs

theorem run_filter [CharacterNames] (fs : FileSystem) (here token : String) (parse : Parser)
    (room : Option ℕ) {root : String} (hroot : isTaken root) (htext : isTaken text)
    (hread : read text = .error e) :
    let result := (Settings.rootFolder fs here (some root)).bind
      fun _ => (.error (.filter e) : Except Failure String)
    (run fs here token [root, "--filter", text] parse room).exit = exitOf result ∧
      (run fs here token [root, "--filter", text] parse room).written = none ∧
      (run fs here token [root, "--filter", text] parse room).files = fs := by
  obtain ⟨hfiles, hexit, hwritten⟩ :=
    @run_eq_meet parse room ⟨root, none, some text, true⟩ _ fs here token rfl
      (by simp [hroot, htext])
  obtain ⟨hsame, hresult⟩ := @meet_of_read_eq_error fs here token parse room
    ⟨root, none, some text, true⟩ text e _ rfl hread
  rw [hresult] at hexit hwritten
  refine ⟨hexit.trans ?_, hwritten.trans ?_, hfiles.trans hsame⟩
  · cases Settings.rootFolder fs here (some root) <;> rfl
  · cases Settings.rootFolder fs here (some root) <;> rfl

theorem handle_filter [CharacterNames] {r : Request} (fs : FileSystem) (here token : String)
    (parse : Parser) (room : Option ℕ) (hr : States r w)
    (hfilter : w.filter = some text) (hread : read text = .error e) :
    (handle fs here token r parse room).response = .ofResult
        ((Settings.rootFolder fs here (some w.root)).bind fun _ => .error (.filter e)) ∧
      (handle fs here token r parse room).files = fs := by
  obtain ⟨hsame, hresult⟩ :=
    @meet_of_read_eq_error fs here token parse room w text e _ hfilter hread
  rw [hr.handle_eq, fulfil_response, hresult]
  exact ⟨rfl, hsame⟩

theorem isRefused_of_kind [CharacterNames] (hread : read text = .error e)
    (hkind : (Failure.filter e).kind = .configuration) : IsRefused text where
  command fs here token root parse room hroot := by
    by_cases htext : isTaken text
    · obtain ⟨hexit, hrest⟩ := run_filter fs here token parse room hroot htext hread
      refine ⟨hexit.trans ?_, hrest⟩
      cases hfolder : Settings.rootFolder fs here (some root) with
      | error failure => simp [Except.bind, exitOf, kind_of_rootFolder_eq_error hfolder, htext]
      | ok folder => simp [Except.bind, exitOf, hkind, htext]
    · rw [Bool.not_eq_true] at htext
      obtain ⟨hfiles, hexit, hwritten⟩ := run_untaken_filter hroot htext fs here token parse room
      rw [if_neg (by simp [htext])]
      exact ⟨hexit, hwritten, hfiles⟩
  service fs here token r w parse room hr hfilter := by
    obtain ⟨hresponse, hfiles⟩ := handle_filter fs here token parse room hr hfilter hread
    refine ⟨?_, hfiles⟩
    rw [hresponse]
    cases hfolder : Settings.rootFolder fs here (some w.root) with
    | error failure =>
      simp [Except.bind, Response.ofResult, status_ofFailure, kind_of_rootFolder_eq_error hfolder]
    | ok folder => simp [Except.bind, Response.ofResult, status_ofFailure, hkind]

theorem isCrash_of_kind [CharacterNames] (hread : read text = .error e)
    (hkind : (Failure.filter e).kind = .other) : IsCrash text e where
  command fs here token root parse room hroot htext hfolder := by
    obtain ⟨hexit, -, hfiles⟩ := run_filter fs here token parse room hroot htext hread
    refine ⟨hexit.trans ?_, hfiles⟩
    obtain ⟨folder, hfolder⟩ := Except.exists_eq_ok hfolder
    simp [hfolder, Except.bind, exitOf, hkind]
  service fs here token r w parse room hr hfilter hfolder := by
    obtain ⟨hresponse, hfiles⟩ := handle_filter fs here token parse room hr hfilter hread
    refine ⟨?_, hfiles⟩
    obtain ⟨folder, hfolder⟩ := Except.exists_eq_ok hfolder
    simp [hresponse, hfolder, Except.bind, Response.ofResult, status_ofFailure, hkind]

/-- Every text is a filter, or it is refused as a fault of what was asked for, or it holds a number
that is too large; only then is it not recognised as such a fault. The stack limit of an interpreter
is left out: where there is one, some 500 opening brackets exceed it, and that is not recognised as
such a fault either. -/
theorem unusable_filter_refused [CharacterNames] (text : String) :
    (∃ f, read text = .ok f) ∨
    (∃ e, read text = .error e ∧ (Failure.filter e).kind = .configuration ∧ IsRefused text) ∨
    ∃ e, read text = .error e ∧ (Failure.filter e).kind = .other ∧
      hasOversize text.toList ∧ IsCrash text e := by
  cases hread : read text with
  | ok f => exact .inl ⟨f, rfl⟩
  | error e =>
    rcases read_eq_error hread with hkind | ⟨hkind, hoversize⟩
    · exact .inr (.inl ⟨e, rfl, hkind, isRefused_of_kind hread hkind⟩)
    · exact .inr (.inr ⟨e, rfl, hkind, hoversize, isCrash_of_kind hread hkind⟩)

theorem oversized_filter_not_refused :
    ¬ ((∃ f, read "a\x7b4294967295\x7d" = .ok f) ∨
      ∃ e, read "a\x7b4294967295\x7d" = .error e ∧ (Failure.filter e).kind = .configuration) ∧
    (run earlier "/" "token" ["r", "--filter", "a\x7b4294967295\x7d"]).exit.toOption = none := by
  have hread : read "a\x7b4294967295\x7d" =
      .error (.refused "a\x7b4294967295\x7d" .repetitionTooLarge) := by
    decide +kernel
  refine ⟨?_, by decide +kernel⟩
  rw [hread]
  rintro (⟨f, hf⟩ | ⟨e, he, hkind⟩)
  · cases hf
  · cases he
    cases hkind

end Outline.Filter
