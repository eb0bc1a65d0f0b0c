import Outline.Proofs.Path.Steps

set_option autoImplicit false

/-!
# There and back

A rooted path is in normal form and has one slash in front. From a rooted folder, the relative path
to another rooted path leads back to it: the steps up take back what the folder has of its own, and
the names behind them are those of the path. So different rooted paths have different relative
paths.
-/
namespace Outline.Path

/-- An absolute path in normal form with a single slash in front. -/
def IsRooted (path : String) : Prop :=
  ∃ names, (∀ name ∈ names, IsName name) ∧ path = "/" ++ ofSteps names

theorem isPiece_of_isName {names : List String} (h : ∀ name ∈ names, IsName name) :
    ∀ name ∈ names, IsPiece name := fun name hn => (h name hn).1

theorem isRooted_absolute {here given : String} (hhere : isAbsolute here)
    (h : ¬ ['/', '/'] <+: (absolute here given).toList) : IsRooted (absolute here given) := by
  have hstart := isAbsolute_start hhere given
  obtain ⟨k, -, hk⟩ := exists_normalize_eq hstart
  rw [absolute, hk] at h ⊢
  cases k with
  | zero =>
    exact ⟨_, isName_of_mem_normalSteps fun _ hm => isPiece_of_mem_steps hm, rfl⟩
  | succ k =>
    refine absurd ?_ h
    simp [List.replicate_succ]

theorem steps_rooted {names : List String} (h : ∀ name ∈ names, IsName name) :
    steps ("/" ++ ofSteps names) = names := by
  rw [steps_slash_append, steps_ofSteps (isPiece_of_isName h)]

theorem rootSlashes_rooted {rest : String} (h : isAbsolute rest = false) :
    rootSlashes ("/" ++ rest).toList = 1 := by
  unfold isAbsolute at h
  rw [String.toList_append]
  cases hrest : rest.toList with
  | nil => rfl
  | cons c cs =>
    rw [hrest, List.head?_cons, beq_eq_false_iff_ne, ne_eq, Option.some_inj] at h
    simp [rootSlashes, h]

theorem normalize_rooted {rest : String} (h : isAbsolute rest = false) :
    normalize ("/" ++ rest) = "/" ++ ofSteps (normalSteps true (steps rest)) := by
  rw [normalize, rootSlashes_rooted h, steps_slash_append]
  simp [String.isEmpty_iff, ← String.toList_inj]

theorem exists_join_rooted {folder path : String} (h : isAbsolute folder = false)
    (hpath : isAbsolute path = false) :
    ∃ rest, join ("/" ++ folder) path = "/" ++ rest ∧ isAbsolute rest = false ∧
      steps rest = steps folder ++ steps path := by
  have hsteps : steps (join ("/" ++ folder) path) = steps folder ++ steps path := by
    rw [steps_join hpath, steps_slash_append]
  obtain ⟨between, hjoin, habs⟩ : ∃ between,
      join ("/" ++ folder) path = "/" ++ (folder ++ between ++ path) ∧
        (folder = "" → between = "") := by
    unfold join
    rw [hpath, if_neg Bool.false_ne_true]
    split_ifs with hlast
    · exact ⟨"", by simp [String.append_assoc], fun _ => rfl⟩
    · refine ⟨"/", by simp [String.append_assoc], ?_⟩
      rintro rfl
      exact absurd rfl hlast
  refine ⟨folder ++ between ++ path, hjoin, ?_, ?_⟩
  · -- a folder that is not empty has its own first character in front
    by_cases hempty : folder = ""
    · simpa [hempty, habs hempty] using hpath
    · obtain ⟨c, cs, hc⟩ := List.exists_cons_of_ne_nil
        (show folder.toList ≠ [] by simpa using hempty)
      simpa [isAbsolute, hc] using h
  · rw [← hsteps, hjoin, steps_slash_append]

theorem IsRooted.isAbsolute {path : String} (h : IsRooted path) : isAbsolute path := by
  obtain ⟨names, -, rfl⟩ := h
  simp [Path.isAbsolute]

theorem IsRooted.absolute_eq {path : String} (h : IsRooted path) (here : String) :
    absolute here path = path := by
  have habs := h.isAbsolute
  obtain ⟨names, hnames, rfl⟩ := h
  have hpieces := isPiece_of_isName hnames
  rw [absolute, if_pos habs, normalize_rooted (isAbsolute_ofSteps hpieces), steps_ofSteps hpieces,
    normalSteps_eq_self true hnames]

theorem IsRooted.foldl_join {base : String} (h : IsRooted base) {way : List String}
    (hway : ∀ name ∈ way, IsName name) : IsRooted (way.foldl join base) := by
  obtain ⟨names, hnames, rfl⟩ := h
  refine ⟨names ++ way, List.forall_mem_append.2 ⟨hnames, hway⟩, ?_⟩
  by_cases hne : way = []
  · simp [hne]
  · rw [Path.foldl_join _ hne (isPiece_of_isName hway), join,
      isAbsolute_ofSteps (isPiece_of_isName hway), if_neg Bool.false_ne_true]
    by_cases hnil : names = []
    · simp [hnil, ofSteps]
    · obtain ⟨c, rest, hr, hc⟩ := exists_reverse_ofSteps hnil (isPiece_of_isName hnames)
      have hlast : ¬ (("/" ++ ofSteps names).isEmpty ||
          ("/" ++ ofSteps names).toList.getLast? == some '/') := by
        rw [List.getLast?_eq_head?_reverse, String.toList_append, List.reverse_append, hr]
        simp [String.isEmpty_iff, ← String.toList_inj, hc]
      rw [if_neg hlast, ofSteps_append hnil hne]
      simp only [String.append_assoc]

/-! ## Steps up -/

/-- Steps up take back as many names, the last one first. -/
theorem foldl_push_up (rooted : Bool) {last : List String} (before : List String)
    (h : ∀ name ∈ last, IsName name) :
    (last.map fun _ => "..").foldl (push rooted) (last ++ before) = before := by
  induction last with
  | nil => rfl
  | cons name last ih =>
    rw [List.forall_mem_cons] at h
    have hpop : push rooted (name :: (last ++ before)) ".." = last ++ before := by
      simp [push, h.1.2.2]
    rw [List.map_cons, List.cons_append, List.foldl_cons, hpop]
    exact ih h.2

theorem normalSteps_up_down (rooted : Bool) {common up down : List String}
    (hcommon : ∀ name ∈ common, IsName name) (hup : ∀ name ∈ up, IsName name)
    (hdown : ∀ name ∈ down, IsName name) :
    normalSteps rooted (common ++ up ++ ((up.map fun _ => "..") ++ down)) = common ++ down := by
  have hmap : (up.map fun _ => "..") = up.reverse.map fun _ => ".." := by simp [List.map_const']
  have hback : ∀ name ∈ up.reverse, IsName name := fun name hn => hup name (List.mem_reverse.1 hn)
  rw [← List.append_assoc, normalSteps_append rooted _ hdown, normalSteps, List.foldl_append,
    foldl_push rooted [] (List.forall_mem_append.2 ⟨hcommon, hup⟩), List.append_nil,
    List.reverse_append, hmap, foldl_push_up rooted _ hback, List.reverse_reverse]

theorem isPiece_up_down {up down : List String} (hdown : ∀ name ∈ down, IsName name) :
    ∀ name ∈ (up.map fun _ => "..") ++ down, IsPiece name := by
  rw [List.forall_mem_append, List.forall_mem_map]
  exact ⟨fun _ _ => by decide, isPiece_of_isName hdown⟩

/-- From the folder, the relative path leads to where it was taken from. -/
theorem IsRooted.normalize_join_relative {root path : String} (here : String)
    (hroot : IsRooted root) (hpath : IsRooted path) :
    normalize (join root (relative here path root)) = path := by
  have habs := hroot.absolute_eq here
  have habs' := hpath.absolute_eq here
  obtain ⟨above, habove, rfl⟩ := hroot
  obtain ⟨names, hnames, rfl⟩ := hpath
  have hfolder := isAbsolute_ofSteps (isPiece_of_isName habove)
  obtain ⟨common, hup, hdown⟩ := exists_eq_append_afterCommon above names
  simp only [relative, habs, habs', steps_rooted habove, steps_rooted hnames]
  generalize afterCommon above names = after at hup hdown ⊢
  obtain ⟨up, down⟩ := after
  simp only at hup hdown ⊢
  subst hup hdown
  rw [List.forall_mem_append] at habove hnames
  have hpieces : ∀ name ∈ (up.map fun _ => "..") ++ down, IsPiece name := isPiece_up_down hnames.2
  split_ifs with hempty
  · -- nothing to go up and nothing to go down: the path is the folder
    obtain ⟨hup, rfl⟩ := List.append_eq_nil_iff.1 (List.isEmpty_iff.1 hempty)
    obtain rfl := List.map_eq_nil_iff.1 hup
    have hdot : Path.isAbsolute "." = false := by decide
    obtain ⟨rest, hjoin, hrest, hsteps⟩ := exists_join_rooted hfolder hdot
    rw [hjoin, normalize_rooted hrest, hsteps, List.append_nil,
      steps_ofSteps (isPiece_of_isName habove.1), steps_of_isPiece (by decide), normalSteps,
      List.foldl_append, foldl_push true [] habove.1]
    simp [push]
  · obtain ⟨rest, hjoin, hrest, hsteps⟩ := exists_join_rooted hfolder (isAbsolute_ofSteps hpieces)
    have hfrom : ∀ name ∈ common ++ up, IsPiece name :=
      isPiece_of_isName (List.forall_mem_append.2 habove)
    rw [hjoin, normalize_rooted hrest, hsteps, steps_ofSteps hpieces, steps_ofSteps hfrom,
      normalSteps_up_down true habove.1 habove.2 hnames.2]

/-- Below the folder, the relative path has no step up. -/
theorem segments_relative_foldl_join {here : String} (h : isAbsolute here) (base : String)
    {way : List String} (hway : ∀ name ∈ way, IsName name) (hne : way ≠ []) :
    segments (relative here (way.foldl join base) base) = way := by
  rw [relative_foldl_join h base hway hne, segments, ← cut_eq_splitOn,
    cut_ofSteps hne (isPiece_of_isName hway), List.map_map]
  simp [Function.comp_def]

end Outline.Path
