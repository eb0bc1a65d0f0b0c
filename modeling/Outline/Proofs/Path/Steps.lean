import Mathlib.Data.List.TakeWhile
import Mathlib.Tactic.SplitIfs
import Outline.Path.Basic

set_option autoImplicit false

/-!
# Names along a path

Cutting a path into names turns joining, normal form and relative paths into operations on lists.
The full steps of a path are the names in its absolute normal form: joining names to a path appends
them to its full steps, and the way from a folder to a path drops what these two have in common.
Everything here is lexical.
-/
namespace Outline.Path

/-- What can stand between two slashes. -/
def IsPiece (name : String) : Prop := name ≠ "" ∧ '/' ∉ name.toList

/-- What can be the name of something in a folder: the steps `.` and `..` cannot. -/
def IsName (name : String) : Prop := IsPiece name ∧ name ≠ "." ∧ name ≠ ".."

instance (name : String) : Decidable (IsPiece name) := inferInstanceAs (Decidable (_ ∧ _))

instance (name : String) : Decidable (IsName name) := inferInstanceAs (Decidable (_ ∧ _ ∧ _))

theorem cut_ne_nil (s : List Char) : cut s ≠ [] := by
  cases s with
  | nil => simp [cut]
  | cons c rest =>
    unfold cut
    split_ifs
    · simp
    · split <;> simp

theorem cut_append_slash (a b : List Char) : cut (a ++ '/' :: b) = cut a ++ cut b := by
  induction a with
  | nil => simp [cut]
  | cons c a ih =>
    by_cases h : c = '/'
    · simp [cut, h, ih]
    · simp only [List.cons_append, cut, h, if_false, ih]
      cases hc : cut a with
      | nil => exact absurd hc (cut_ne_nil a)
      | cons piece pieces => rfl

theorem cut_of_not_mem {s : List Char} (h : '/' ∉ s) : cut s = [s] := by
  induction s with
  | nil => rfl
  | cons c s ih =>
    rw [List.mem_cons, not_or] at h
    simp [cut, Ne.symm h.1, ih h.2]

theorem not_mem_of_mem_cut {s piece : List Char} (h : piece ∈ cut s) : '/' ∉ piece := by
  induction s generalizing piece with
  | nil =>
    rw [cut, List.mem_singleton] at h
    simp [h]
  | cons c s ih =>
    by_cases hc : c = '/'
    · simp only [cut, hc, if_true, List.mem_cons] at h
      rcases h with rfl | h
      · simp
      · exact ih h
    · simp only [cut, hc, if_false] at h
      cases hs : cut s with
      | nil => exact absurd hs (cut_ne_nil s)
      | cons first pieces =>
        rw [hs] at h ih
        rcases List.mem_cons.1 h with rfl | h
        · rw [List.mem_cons, not_or]
          exact ⟨Ne.symm hc, ih (by simp)⟩
        · exact ih (by simp [h])

theorem cut_eq_splitOn (s : List Char) : cut s = s.splitOn '/' := by
  induction s with
  | nil => rfl
  | cons c s ih =>
    rw [cut, List.splitOn_cons_eq_if_modifyHead, ih]
    by_cases hc : c = '/'
    · simp [hc]
    · cases hs : s.splitOn '/' with
      | nil => exact absurd hs (List.splitOn_ne_nil _ _)
      | cons piece pieces => simp [hc]

/-- What stands between the slashes of a path; a segment may be empty. -/
def segments (path : String) : List String := (path.toList.splitOn '/').map String.ofList

theorem mem_steps_iff {path name : String} :
    name ∈ steps path ↔ name ∈ segments path ∧ name ≠ "" := by
  rw [steps, segments, cut_eq_splitOn]
  constructor
  · intro h
    obtain ⟨piece, hpiece, rfl⟩ := List.mem_map.1 h
    rw [List.mem_filter] at hpiece
    exact ⟨List.mem_map_of_mem hpiece.1, by simpa using hpiece.2⟩
  · rintro ⟨h, hne⟩
    obtain ⟨piece, hpiece, rfl⟩ := List.mem_map.1 h
    exact List.mem_map_of_mem (List.mem_filter.2 ⟨hpiece, by simpa using hne⟩)

theorem subset_of_mem_cut {s piece : List Char} (h : piece ∈ cut s) : piece ⊆ s := by
  induction s generalizing piece with
  | nil => simp_all [cut]
  | cons c s ih =>
    by_cases hc : c = '/'
    · simp only [cut, hc, if_true, List.mem_cons] at h
      rcases h with rfl | h
      · exact List.nil_subset _
      · exact List.subset_cons_of_subset c (ih h)
    · simp only [cut, hc, if_false] at h
      cases hs : cut s with
      | nil => exact absurd hs (cut_ne_nil s)
      | cons first pieces =>
        rw [hs] at h ih
        rcases List.mem_cons.1 h with rfl | h
        · exact List.cons_subset_cons c (ih (by simp))
        · exact List.subset_cons_of_subset c (ih (by simp [h]))

theorem subset_of_mem_segments {path segment : String} (h : segment ∈ segments path) :
    segment.toList ⊆ path.toList := by
  rw [segments, ← cut_eq_splitOn] at h
  obtain ⟨piece, hpiece, rfl⟩ := List.mem_map.1 h
  rw [String.toList_ofList]
  exact subset_of_mem_cut hpiece

theorem isPiece_of_mem_steps {name path : String} (h : name ∈ steps path) : IsPiece name := by
  obtain ⟨piece, hp, rfl⟩ := List.mem_map.1 h
  obtain ⟨hc, hn⟩ := List.mem_filter.1 hp
  refine ⟨?_, by simpa using not_mem_of_mem_cut hc⟩
  intro he
  have : piece = [] := by simpa using congrArg String.toList he
  simp [this] at hn

theorem steps_append_slash (a b : String) : steps (a ++ "/" ++ b) = steps a ++ steps b := by
  have h : (a ++ "/" ++ b).toList = a.toList ++ '/' :: b.toList := by simp
  simp [steps, h, cut_append_slash]

@[simp]
theorem steps_empty : steps "" = [] := by
  simp [steps, cut]

theorem steps_of_isPiece {name : String} (h : IsPiece name) : steps name = [name] := by
  have hn : name.toList ≠ [] := by simpa using h.1
  simp [steps, cut_of_not_mem h.2, hn]

/-- A slash at the end adds no name. -/
theorem steps_slash (a : String) : steps (a ++ "/") = steps a := by
  have h := steps_append_slash a ""
  simpa using h

/-- Nor does one in front. -/
theorem steps_slash_append (b : String) : steps ("/" ++ b) = steps b := by
  have h := steps_append_slash "" b
  simpa using h

theorem ofSteps_cons {name : String} {names : List String} (h : names ≠ []) :
    ofSteps (name :: names) = name ++ "/" ++ ofSteps names :=
  String.intercalate_cons_of_ne_nil h

theorem cut_ofSteps {names : List String} (hne : names ≠ [])
    (h : ∀ name ∈ names, IsPiece name) :
    cut (ofSteps names).toList = names.map String.toList := by
  induction names with
  | nil => exact absurd rfl hne
  | cons name names ih =>
    have hname := cut_of_not_mem (h name (by simp)).2
    by_cases hn : names = []
    · simp [hn, ofSteps, hname]
    · have hc : (name ++ "/" ++ ofSteps names).toList =
          name.toList ++ '/' :: (ofSteps names).toList := by simp
      rw [ofSteps_cons hn, hc, cut_append_slash, hname, ih hn fun n m => h n (by simp [m])]
      rfl

theorem steps_ofSteps {names : List String} (h : ∀ name ∈ names, IsPiece name) :
    steps (ofSteps names) = names := by
  by_cases hn : names = []
  · simp [hn, ofSteps]
  · rw [steps, cut_ofSteps hn h, List.filter_eq_self.2, List.map_map]
    · simp [Function.comp_def]
    · intro piece hp
      obtain ⟨name, hm, rfl⟩ := List.mem_map.1 hp
      simpa using (h name hm).1

theorem ofSteps_append {a b : List String} (ha : a ≠ []) (hb : b ≠ []) :
    ofSteps (a ++ b) = ofSteps a ++ "/" ++ ofSteps b :=
  String.intercalate_append_of_ne_nil ha hb

/-! ## Joining -/

theorem steps_join {folder path : String} (h : isAbsolute path = false) :
    steps (join folder path) = steps folder ++ steps path := by
  unfold join
  rw [h, if_neg (by simp)]
  split_ifs with hf
  · rw [Bool.or_eq_true, String.isEmpty_iff, beq_iff_eq] at hf
    rcases hf with rfl | hf
    · simp
    · obtain ⟨before, hb⟩ := List.getLast?_eq_some_iff.1 hf
      have he : folder = String.ofList before ++ "/" := by
        apply String.toList_injective
        simp [hb]
      rw [he, steps_append_slash, steps_slash]
  · exact steps_append_slash folder path

theorem isAbsolute_of_isPiece {name : String} (h : IsPiece name) : isAbsolute name = false := by
  have hs := h.2
  unfold isAbsolute
  cases hl : name.toList with
  | nil => rfl
  | cons c rest =>
    rw [hl, List.mem_cons, not_or] at hs
    simpa using Ne.symm hs.1

theorem exists_toList_join (folder : String) {name : String} (h : IsPiece name) :
    ∃ before, (join folder name).toList = before ++ name.toList := by
  unfold join
  rw [isAbsolute_of_isPiece h, if_neg (by simp)]
  split_ifs
  · exact ⟨folder.toList, String.toList_append⟩
  · exact ⟨(folder ++ "/").toList, String.toList_append⟩

theorem exists_join_eq_append (folder : String) :
    ∃ before, ∀ path, isAbsolute path = false → join folder path = before ++ path := by
  by_cases hf : folder.isEmpty || folder.toList.getLast? == some '/'
  · refine ⟨folder, fun path hpath => ?_⟩
    rw [join, hpath, if_neg Bool.false_ne_true, if_pos hf]
  · refine ⟨folder ++ "/", fun path hpath => ?_⟩
    rw [join, hpath, if_neg Bool.false_ne_true, if_neg hf]

theorem utf8ByteSize_join_ge (folder : String) {name : String} (h : IsPiece name) :
    folder.utf8ByteSize + name.utf8ByteSize ≤ (join folder name).utf8ByteSize := by
  unfold join
  rw [isAbsolute_of_isPiece h, if_neg Bool.false_ne_true]
  split_ifs
  · rw [String.utf8ByteSize_append]
  · rw [String.utf8ByteSize_append, String.utf8ByteSize_append]
    omega

theorem isAbsolute_append {name : String} (h : IsPiece name) (rest : String) :
    isAbsolute (name ++ rest) = false := by
  have hname := isAbsolute_of_isPiece h
  obtain ⟨c, cs, hc⟩ := List.exists_cons_of_ne_nil
    (show name.toList ≠ [] by simpa using h.1)
  simpa [isAbsolute, hc] using hname

/-- A name is never empty and never ends in a slash, so what is joined to it goes behind a slash. -/
theorem join_join (folder : String) {name path : String} (h : IsPiece name)
    (hpath : isAbsolute path = false) :
    join (join folder name) path = join folder (name ++ "/" ++ path) := by
  obtain ⟨before, hjoin⟩ := exists_join_eq_append folder
  have hbehind : ¬ ((before ++ name).isEmpty || (before ++ name).toList.getLast? == some '/') := by
    rw [Bool.or_eq_true, String.isEmpty_iff, beq_iff_eq, ← String.toList_inj, String.toList_append,
      List.getLast?_append, not_or]
    refine ⟨by simp [h.1], ?_⟩
    cases hlast : name.toList.getLast? with
    | none => simp [h.1] at hlast
    | some c =>
      rintro hc
      cases hc
      exact h.2 (List.mem_of_getLast? hlast)
  have hlong : isAbsolute (name ++ "/" ++ path) = false := by
    rw [String.append_assoc]
    exact isAbsolute_append h _
  rw [hjoin name (isAbsolute_of_isPiece h), hjoin _ hlong, join, hpath,
    if_neg Bool.false_ne_true, if_neg hbehind]
  simp only [String.append_assoc]

theorem isAbsolute_join {folder name : String} (h : IsPiece name) :
    isAbsolute (join folder name) = isAbsolute folder := by
  have ha := isAbsolute_of_isPiece h
  unfold join
  rw [ha, if_neg (by simp)]
  cases hf : folder.toList with
  | nil =>
    have he : folder = "" := by simpa using hf
    subst he
    simpa [isAbsolute] using ha
  | cons c rest => split_ifs <;> simp [isAbsolute, hf]

theorem steps_foldl_join (base : String) {way : List String} (h : ∀ name ∈ way, IsPiece name) :
    steps (way.foldl join base) = steps base ++ way := by
  induction way generalizing base with
  | nil => simp
  | cons name way ih =>
    have hn := h name (by simp)
    rw [List.foldl_cons, ih _ fun n m => h n (by simp [m]),
      steps_join (isAbsolute_of_isPiece hn), steps_of_isPiece hn]
    simp

theorem isAbsolute_foldl_join (base : String) {way : List String}
    (h : ∀ name ∈ way, IsPiece name) : isAbsolute (way.foldl join base) = isAbsolute base := by
  induction way generalizing base with
  | nil => rfl
  | cons name way ih =>
    rw [List.foldl_cons, ih _ fun n m => h n (by simp [m]), isAbsolute_join (h name (by simp))]

theorem isAbsolute_ofSteps {way : List String} (h : ∀ name ∈ way, IsPiece name) :
    isAbsolute (ofSteps way) = false := by
  cases way with
  | nil => rfl
  | cons name way =>
    have hname := h name (by simp)
    by_cases hway : way = []
    · rw [hway]
      exact isAbsolute_of_isPiece hname
    · rw [ofSteps_cons hway, String.append_assoc]
      exact isAbsolute_append hname _

theorem foldl_join (base : String) {way : List String} (hne : way ≠ [])
    (h : ∀ name ∈ way, IsPiece name) : way.foldl join base = join base (ofSteps way) := by
  induction way generalizing base with
  | nil => exact absurd rfl hne
  | cons name way ih =>
    rw [List.forall_mem_cons] at h
    by_cases hway : way = []
    · rw [hway]
      rfl
    · rw [List.foldl_cons, ih _ hway h.2, join_join base h.1 (isAbsolute_ofSteps h.2),
        ofSteps_cons hway]

/-! ## Normal form -/

theorem push_of_isName (rooted : Bool) (names : List String) {name : String} (h : IsName name) :
    push rooted names name = name :: names := by
  simp [push, h.2.1, h.2.2]

theorem foldl_push (rooted : Bool) (before : List String) {names : List String}
    (h : ∀ name ∈ names, IsName name) :
    names.foldl (push rooted) before = names.reverse ++ before := by
  induction names generalizing before with
  | nil => rfl
  | cons name names ih =>
    rw [List.foldl_cons, push_of_isName rooted before (h name (by simp)),
      ih _ fun n m => h n (by simp [m])]
    simp

theorem normalSteps_append (rooted : Bool) (a : List String) {b : List String}
    (h : ∀ name ∈ b, IsName name) :
    normalSteps rooted (a ++ b) = normalSteps rooted a ++ b := by
  rw [normalSteps, List.foldl_append, foldl_push rooted _ h]
  simp [normalSteps]

theorem normalSteps_eq_self (rooted : Bool) {names : List String}
    (h : ∀ name ∈ names, IsName name) : normalSteps rooted names = names :=
  normalSteps_append rooted [] h

theorem isName_of_mem_push {names : List String} {name : String}
    (h : ∀ n ∈ names, IsName n) (hname : IsPiece name) :
    ∀ n ∈ push true names name, IsName n := by
  intro n hn
  by_cases hdot : name = "."
  · simp only [push, hdot, beq_self_eq_true, if_true] at hn
    exact h n hn
  by_cases hup : name = ".."
  · -- a step up never meets another one, since below the root none is kept
    subst hup
    cases names with
    | nil => simp [push] at hn
    | cons last rest =>
      have hl := (h last (by simp)).2.2
      simp only [push, beq_iff_eq, hdot, if_false, if_true, hl] at hn
      exact h n (by simp [hn])
  · rw [push_of_isName true names ⟨hname, hdot, hup⟩] at hn
    rcases List.mem_cons.1 hn with rfl | hn
    · exact ⟨hname, hdot, hup⟩
    · exact h n hn

theorem isName_of_mem_normalSteps {names : List String} (h : ∀ n ∈ names, IsPiece n) :
    ∀ n ∈ normalSteps true names, IsName n := by
  suffices hf : ∀ before, (∀ n ∈ before, IsName n) →
      ∀ n ∈ names.foldl (push true) before, IsName n by
    intro n hn
    exact hf [] (by simp) n (by simpa [normalSteps] using hn)
  induction names with
  | nil => exact fun before hb => hb
  | cons name names ih =>
    intro before hb
    exact ih (fun n m => h n (by simp [m])) _ (isName_of_mem_push hb (h name (by simp)))

theorem rootSlashes_ne_zero (path : String) : (rootSlashes path.toList != 0) = isAbsolute path := by
  unfold rootSlashes isAbsolute
  split
  case h_4 hno =>
    have h : path.toList.head? ≠ some '/' := by
      intro hh
      obtain ⟨rest, hr⟩ := List.head?_eq_some_iff.1 hh
      exact hno rest hr
    simp [h]
  all_goals simp [*]

theorem steps_slashes_append (k : ℕ) (b : String) :
    steps (String.ofList (List.replicate k '/') ++ b) = steps b := by
  induction k with
  | zero => simp
  | succ k ih =>
    have h : String.ofList (List.replicate (k + 1) '/') ++ b =
        "/" ++ (String.ofList (List.replicate k '/') ++ b) := by
      apply String.toList_injective
      simp [List.replicate_succ]
    rw [h, steps_slash_append, ih]

theorem normalize_eq {path : String} (h : isAbsolute path) : normalize path =
    String.ofList (List.replicate (rootSlashes path.toList) '/') ++
      ofSteps (normalSteps true (steps path)) := by
  have hs : (rootSlashes path.toList != 0) = true := by rw [rootSlashes_ne_zero, h]
  have hne : rootSlashes path.toList ≠ 0 := by simpa using hs
  unfold normalize
  simp only [hs]
  rw [if_neg]
  intro hempty
  have hnil := congrArg String.toList (String.isEmpty_iff.1 hempty)
  simp [hne] at hnil

theorem rootSlashes_le (chars : List Char) : rootSlashes chars ≤ 2 := by
  unfold rootSlashes
  split <;> decide

theorem exists_normalize_eq {path : String} (h : isAbsolute path) : ∃ k ≤ 1, normalize path =
    String.ofList (List.replicate (k + 1) '/') ++ ofSteps (normalSteps true (steps path)) := by
  have hs : (rootSlashes path.toList != 0) = true := by rw [rootSlashes_ne_zero, h]
  have hle := rootSlashes_le path.toList
  obtain ⟨k, hk⟩ := Nat.exists_eq_succ_of_ne_zero (by simpa using hs)
  refine ⟨k, by omega, ?_⟩
  rw [normalize_eq h, hk]

theorem isPiece_normalSteps (path : String) :
    ∀ n ∈ normalSteps true (steps path), IsPiece n := fun n hn =>
  (isName_of_mem_normalSteps (fun _ hm => isPiece_of_mem_steps hm) n hn).1

theorem steps_normalize {path : String} (h : isAbsolute path) :
    steps (normalize path) = normalSteps true (steps path) := by
  obtain ⟨k, -, hk⟩ := exists_normalize_eq h
  rw [hk, steps_slashes_append, steps_ofSteps (isPiece_normalSteps path)]

theorem isAbsolute_normalize {path : String} (h : isAbsolute path) :
    isAbsolute (normalize path) := by
  obtain ⟨k, -, hk⟩ := exists_normalize_eq h
  simp [hk, isAbsolute, List.replicate_succ]

theorem cut_slashes_append (k : ℕ) (s : List Char) :
    cut (List.replicate k '/' ++ s) = List.replicate k [] ++ cut s := by
  induction k with
  | zero => rfl
  | succ k ih => simp [List.replicate_succ, cut, ih]

theorem baseName_normalize {path : String} (h : isAbsolute path) :
    baseName (normalize path) = (normalSteps true (steps path)).getLastD "" := by
  obtain ⟨k, -, hk⟩ := exists_normalize_eq h
  have hp := isPiece_normalSteps path
  generalize normalSteps true (steps path) = names at hk hp
  rw [hk, baseName, String.toList_append, String.toList_ofList, cut_slashes_append]
  rcases List.eq_nil_or_concat names with rfl | ⟨before, last, rfl⟩
  · simp [ofSteps, cut]
  · rw [cut_ofSteps (by simp) hp]
    simp [List.getLastD_eq_getLast?, List.getLast?_append]

/-! ## Seen from a working folder -/

/-- The names from the root down to where a path leads, if no name on the way is a link. -/
def fullSteps (here path : String) : List String := steps (absolute here path)

theorem isAbsolute_start {here : String} (h : isAbsolute here) (path : String) :
    isAbsolute (if isAbsolute path then path else join here path) := by
  split_ifs with hp
  · exact hp
  · obtain ⟨rest, hr⟩ : ∃ rest, here.toList = '/' :: rest := by
      simpa [isAbsolute, List.head?_eq_some_iff] using h
    unfold join
    rw [if_neg hp]
    split_ifs <;> simp [isAbsolute, hr]

theorem isAbsolute_absolute {here : String} (h : isAbsolute here) (path : String) :
    isAbsolute (absolute here path) :=
  isAbsolute_normalize (isAbsolute_start h path)

theorem fullSteps_eq {here : String} (h : isAbsolute here) (path : String) :
    fullSteps here path =
      normalSteps true ((if isAbsolute path then [] else steps here) ++ steps path) := by
  rw [fullSteps, absolute, steps_normalize (isAbsolute_start h path)]
  split_ifs with hp
  · rfl
  · rw [steps_join (by simpa using hp)]

theorem isName_of_mem_fullSteps {here path name : String} (h : isAbsolute here)
    (hn : name ∈ fullSteps here path) : IsName name := by
  rw [fullSteps, absolute, steps_normalize (isAbsolute_start h path)] at hn
  exact isName_of_mem_normalSteps (fun _ hm => isPiece_of_mem_steps hm) name hn

theorem fullSteps_foldl_join {here : String} (h : isAbsolute here) (base : String)
    {way : List String} (hway : ∀ name ∈ way, IsName name) :
    fullSteps here (way.foldl join base) = fullSteps here base ++ way := by
  have hp : ∀ name ∈ way, IsPiece name := fun n hn => (hway n hn).1
  rw [fullSteps_eq h, fullSteps_eq h, isAbsolute_foldl_join base hp, steps_foldl_join base hp,
    ← List.append_assoc, normalSteps_append true _ hway]

theorem fullSteps_absolute {here : String} (h : isAbsolute here) (path : String) :
    fullSteps here (absolute here path) = fullSteps here path := by
  have hn : ∀ n ∈ fullSteps here path, IsName n := fun n hn => isName_of_mem_fullSteps h hn
  rw [fullSteps_eq h (absolute here path), if_pos (isAbsolute_absolute h path), List.nil_append]
  exact normalSteps_eq_self true hn

theorem steps_eq_fullSteps {here path : String} (h : isAbsolute here)
    (hpath : ∃ given, path = absolute here given) :
    isAbsolute path ∧ steps path = fullSteps here path := by
  obtain ⟨given, rfl⟩ := hpath
  exact ⟨isAbsolute_absolute h given, (fullSteps_absolute h given).symm⟩

theorem baseName_absolute {here : String} (h : isAbsolute here) (path : String) :
    baseName (absolute here path) = (fullSteps here path).getLastD "" := by
  have hb := baseName_normalize (isAbsolute_start h path)
  rwa [← steps_normalize (isAbsolute_start h path)] at hb

/-! ## From a folder to a path -/

theorem afterCommon_append (a b : List String) : afterCommon a (a ++ b) = ([], b) := by
  induction a with
  | nil => cases b <;> rfl
  | cons name a ih => simpa [afterCommon] using ih

theorem exists_eq_append_afterCommon (a b : List String) : ∃ common,
    a = common ++ (afterCommon a b).1 ∧ b = common ++ (afterCommon a b).2 := by
  fun_induction afterCommon a b with
  | case1 x as y bs h ih =>
    obtain ⟨common, ha, hb⟩ := ih
    refine ⟨x :: common, ?_, ?_⟩
    · rw [List.cons_append, ← ha]
    · rw [List.cons_append, ← hb, beq_iff_eq.1 h]
  | case2 x as y bs h => exact ⟨[], rfl, rfl⟩
  | case3 as bs h => exact ⟨[], rfl, rfl⟩

/-- Below a folder, the way to a path is what its place adds to that of the folder. -/
theorem relative_of_append {here path folder : String} {way : List String}
    (h : fullSteps here path = fullSteps here folder ++ way) :
    relative here path folder = if way.isEmpty then "." else ofSteps way := by
  unfold fullSteps at h
  simp [relative, h, afterCommon_append]

theorem relative_foldl_join {here : String} (h : isAbsolute here) (base : String)
    {way : List String} (hway : ∀ name ∈ way, IsName name) (hne : way ≠ []) :
    relative here (way.foldl join base) base = ofSteps way := by
  rw [relative_of_append (fullSteps_foldl_join h base hway), if_neg (by simpa using hne)]

/-- Anywhere else, the way begins with a step up. -/
theorem head_relative_of_not_prefix {here path folder : String} (hhere : isAbsolute here)
    (h : ¬ fullSteps here folder <+: fullSteps here path) :
    (cut (relative here path folder).toList).head? = some "..".toList := by
  obtain ⟨common, hf, hp⟩ :=
    exists_eq_append_afterCommon (fullSteps here folder) (fullSteps here path)
  rcases hc : afterCommon (fullSteps here folder) (fullSteps here path) with ⟨up, down⟩
  rw [hc] at hf hp
  cases up with
  | nil =>
    refine absurd ⟨down, ?_⟩ h
    rw [hf, hp, List.append_nil]
  | cons first up =>
    have hdown : ∀ name ∈ down, IsPiece name := fun name hn =>
      (isName_of_mem_fullSteps hhere (hp ▸ List.mem_append_right common hn)).1
    have hall : ∀ name ∈ ".." :: (up.map (fun _ => "..") ++ down), IsPiece name := by
      intro name hn
      simp only [List.mem_cons, List.mem_append, List.mem_map] at hn
      rcases hn with rfl | ⟨_, _, rfl⟩ | hn
      · decide
      · decide
      · exact hdown name hn
    have hr : relative here path folder = ofSteps (".." :: (up.map (fun _ => "..") ++ down)) := by
      unfold fullSteps at hc
      simp [relative, hc]
    rw [hr, cut_ofSteps (by simp) hall]
    rfl

theorem ofSteps_concat (before : List String) (last : String) :
    ∃ front : List Char, (ofSteps (before ++ [last])).toList = front ++ last.toList ∧
      (before ≠ [] → front = (ofSteps before).toList ++ ['/']) ∧ (before = [] → front = []) := by
  by_cases hb : before = []
  · exact ⟨[], by simp [hb, ofSteps], fun h => absurd hb h, fun _ => rfl⟩
  · refine ⟨(ofSteps before).toList ++ ['/'], ?_, fun _ => rfl, fun h => absurd h hb⟩
    rw [ofSteps_append hb (by simp)]
    simp [ofSteps]

/-- No slash stands behind the last name. -/
theorem exists_reverse_ofSteps {names : List String} (hne : names ≠ [])
    (h : ∀ name ∈ names, IsPiece name) :
    ∃ c rest, (ofSteps names).toList.reverse = c :: rest ∧ c ≠ '/' := by
  obtain ⟨before, last, rfl⟩ := List.eq_nil_or_concat names |>.resolve_left hne
  obtain ⟨front, hf, -⟩ := ofSteps_concat before last
  have hl := h last (by simp)
  obtain ⟨c, rest, hr⟩ := List.exists_cons_of_ne_nil
    (show last.toList.reverse ≠ [] by simpa using hl.1)
  refine ⟨c, rest ++ front.reverse, by simp [hf, hr], ?_⟩
  rintro rfl
  exact hl.2 (List.mem_reverse.1 (hr ▸ List.mem_cons_self))

theorem folderName_ofSteps {names : List String} (h : ∀ name ∈ names, IsPiece name) :
    folderName (ofSteps names) = ofSteps names.dropLast := by
  rcases List.eq_nil_or_concat names with rfl | ⟨before, last, rfl⟩
  · rfl
  obtain ⟨front, hf, hsome, hnone⟩ := ofSteps_concat before last
  have hlast : last.toList.reverse.dropWhile (· != '/') = [] := by
    rw [List.dropWhile_eq_nil_iff]
    intro c hc
    have hl := (h last (by simp)).2
    simpa using fun he : c = '/' => hl (he ▸ List.mem_reverse.1 hc)
  have hdrop : (ofSteps (before ++ [last])).toList.reverse.dropWhile (· != '/') =
      front.reverse.dropWhile (· != '/') := by
    rw [hf, List.reverse_append, List.dropWhile_append, hlast]
    rfl
  rw [List.concat_eq_append, folderName, List.dropLast_concat]
  by_cases hb : before = []
  · rw [hdrop, hnone hb, hb]
    rfl
  · obtain ⟨c, rest, hc, hne⟩ := exists_reverse_ofSteps hb fun n hn => h n (by simp [hn])
    have hhead : front.reverse.dropWhile (· != '/') = '/' :: (ofSteps before).toList.reverse := by
      simp [hsome hb]
    have htrim : ('/' :: (ofSteps before).toList.reverse).dropWhile (· == '/') =
        (ofSteps before).toList.reverse := by
      simp [hc, hne]
    rw [hdrop, hhead]
    simp only [htrim]
    rw [if_neg (by simp [hc]), List.reverse_reverse, String.ofList_toList]

/-! ## The folder of a path -/

theorem ofList_reverse_cons_slash (back : List Char) :
    String.ofList ('/' :: back).reverse = String.ofList back.reverse ++ "/" := by
  apply String.toList_injective
  simp

theorem steps_ofList_dropWhile (back : List Char) :
    steps (String.ofList (back.dropWhile (· == '/')).reverse) =
      steps (String.ofList back.reverse) := by
  induction back with
  | nil => rfl
  | cons c back ih =>
    by_cases hc : c = '/'
    · subst hc
      rw [List.dropWhile_cons_of_pos (by rfl), ofList_reverse_cons_slash, steps_slash, ih]
    · rw [List.dropWhile_cons_of_neg (by simpa using hc)]

theorem exists_eq_append_slash {path : String} (h : isAbsolute path) :
    ∃ back head, '/' ∉ back ∧ path.toList.reverse = back ++ '/' :: head ∧
      path.toList.reverse.dropWhile (· != '/') = '/' :: head := by
  have hsplit := List.takeWhile_append_dropWhile (p := (· != '/')) (l := path.toList.reverse)
  have hslash : '/' ∈ path.toList.reverse :=
    List.mem_reverse.2 (List.mem_of_head? (beq_iff_eq.1 h))
  have hname : '/' ∉ path.toList.reverse.takeWhile (· != '/') := fun hm => by
    simpa using List.mem_takeWhile_imp hm
  have hdrop : path.toList.reverse.dropWhile (· != '/') ≠ [] := fun hnil => by
    rw [hnil, List.append_nil] at hsplit
    rw [hsplit] at hname
    exact hname hslash
  obtain ⟨c, head, hc⟩ := List.exists_cons_of_ne_nil hdrop
  have hfirst := List.head_dropWhile_not (p := (· != '/')) hdrop
  simp only [hc, List.head_cons, bne_eq_false_iff_eq] at hfirst
  subst hfirst
  exact ⟨_, head, hname, by rw [← hc, hsplit], hc⟩

/-- The folder of an absolute path has all its steps except for the last. -/
theorem steps_folderName {path : String} (h : isAbsolute path)
    (hlast : path.toList.getLast? ≠ some '/') :
    steps (folderName path) = (steps path).dropLast := by
  obtain ⟨back, head, hback, hpath, hdrop⟩ := exists_eq_append_slash h
  -- slashes that are trimmed from the end do not count as steps
  have hfolder : steps (folderName path) = steps (String.ofList ('/' :: head).reverse) := by
    simp only [folderName, hdrop]
    split_ifs
    · rfl
    · exact steps_ofList_dropWhile _
  have hne : back ≠ [] := by
    rintro rfl
    exact hlast (by rw [List.getLast?_eq_head?_reverse, hpath]; rfl)
  have hpiece : IsPiece (String.ofList back.reverse) := by
    refine ⟨?_, by simpa using hback⟩
    simpa [← String.toList_inj] using hne
  have heq : path = String.ofList head.reverse ++ "/" ++ String.ofList back.reverse := by
    apply String.toList_injective
    rw [← List.reverse_reverse path.toList, hpath]
    simp
  rw [hfolder, ofList_reverse_cons_slash, steps_slash, heq, steps_append_slash,
    steps_of_isPiece hpiece, List.dropLast_concat]

theorem isAbsolute_folderName {path : String} (h : isAbsolute path) :
    isAbsolute (folderName path) := by
  obtain ⟨back, head, -, hpath, hdrop⟩ := exists_eq_append_slash h
  have hend : ('/' :: head).getLast? = some '/' := by
    have hl : (back ++ '/' :: head).getLast? = some '/' := by
      rw [← hpath, List.getLast?_reverse]
      exact beq_iff_eq.1 h
    simpa [List.getLast?_append] using hl
  simp only [folderName, hdrop]
  rw [isAbsolute, String.toList_ofList, List.head?_reverse, beq_iff_eq]
  split_ifs with htrim
  · exact hend
  · obtain ⟨front, hfront⟩ := List.dropWhile_suffix (· == '/') (l := '/' :: head)
    have hne : ('/' :: head).dropWhile (· == '/') ≠ [] := by simpa using htrim
    rw [← hfront, List.getLast?_append, List.getLast?_eq_some_getLast hne, Option.some_or] at hend
    rw [List.getLast?_eq_some_getLast hne, hend]

theorem steps_folderName_absolute {here : String} (h : isAbsolute here) {path : String}
    (hne : fullSteps here path ≠ []) :
    steps (folderName (absolute here path)) = (fullSteps here path).dropLast := by
  refine steps_folderName (isAbsolute_absolute h path) ?_
  have hstart := isAbsolute_start h path
  rw [fullSteps, absolute, steps_normalize hstart] at hne
  obtain ⟨c, rest, hr, hc⟩ := exists_reverse_ofSteps hne (isPiece_normalSteps _)
  obtain ⟨k, -, hk⟩ := exists_normalize_eq hstart
  rw [absolute, hk, List.getLast?_eq_head?_reverse, String.toList_append, List.reverse_append, hr]
  simpa using hc

end Outline.Path
