import Outline.Proofs.FileSystem.Walk

set_option autoImplicit false

/-!
# Normal paths with one or two slashes in front

Normal form keeps two slashes in front of a path. So two normal paths may lead through the same
names and still differ in length by one. This matters only at the limit on the length of paths: if a
path is within the limit, so is every normal path to a folder above its end.
-/
namespace Outline

namespace Path

/-- An absolute path in normal form: slashes, one more than a number, and names. -/
def rooted (k : ℕ) (names : List String) : String :=
  String.ofList (List.replicate (k + 1) '/') ++ ofSteps names

variable {k : ℕ} {names way : List String}

theorem toList_rooted (k : ℕ) (names : List String) :
    (rooted k names).toList = '/' :: (List.replicate k '/' ++ (ofSteps names).toList) := by
  simp [rooted, List.replicate_succ]

theorem isAbsolute_rooted (k : ℕ) (names : List String) : isAbsolute (rooted k names) := by
  simp [isAbsolute, toList_rooted]

theorem steps_rooted_of_isPiece (k : ℕ) (h : ∀ name ∈ names, IsPiece name) :
    steps (rooted k names) = names := by
  rw [rooted, steps_slashes_append, steps_ofSteps h]

theorem utf8ByteSize_rooted (k : ℕ) (names : List String) :
    (rooted k names).utf8ByteSize = k + 1 + (ofSteps names).utf8ByteSize := by
  have hslashes : ∀ n : ℕ, (String.ofList (List.replicate n '/')).utf8ByteSize = n := by
    intro n
    induction n with
    | zero => rfl
    | succ n ih =>
      rw [List.replicate_succ', String.ofList_append, String.utf8ByteSize_append, ih]
      rfl
  rw [rooted, String.utf8ByteSize_append, hslashes]

theorem rooted_append_singleton (k : ℕ) (hne : names ≠ []) (name : String) :
    rooted k (names ++ [name]) = rooted k names ++ "/" ++ name := by
  rw [rooted, rooted, ofSteps_append hne (by simp)]
  simp [ofSteps, String.append_assoc]

/-- A name goes behind a slash, which the root itself already has. -/
theorem join_rooted (k : ℕ) (h : ∀ name ∈ names, IsPiece name) {name : String}
    (hname : IsPiece name) : join (rooted k names) name = rooted k (names ++ [name]) := by
  have hnonempty : (rooted k names).isEmpty = false := by
    rw [Bool.eq_false_iff, ne_eq, String.isEmpty_iff]
    intro hempty
    have hlist := toList_rooted k names
    simp [hempty] at hlist
  rw [join, isAbsolute_of_isPiece hname, if_neg Bool.false_ne_true, hnonempty, Bool.false_or]
  by_cases hnames : names = []
  · have hlast : (rooted k names).toList.getLast? = some '/' := by
      rw [toList_rooted, hnames]
      simp [ofSteps, ← List.replicate_succ, List.getLast?_replicate]
    rw [hlast, if_pos (by decide), hnames, rooted, rooted]
    simp [ofSteps]
  · have hlast : (rooted k names).toList.getLast? ≠ some '/' := by
      obtain ⟨c, rest, hr, hc⟩ := exists_reverse_ofSteps hnames h
      rw [← List.head?_reverse, toList_rooted, List.reverse_cons, List.reverse_append, hr]
      simpa using hc
    rw [if_neg (by simpa using hlast), rooted_append_singleton k hnames]

theorem foldl_join_rooted (k : ℕ) (h : ∀ name ∈ names, IsPiece name)
    (hway : ∀ name ∈ way, IsPiece name) :
    way.foldl join (rooted k names) = rooted k (names ++ way) := by
  induction way generalizing names with
  | nil => rw [List.foldl_nil, List.append_nil]
  | cons name way ih =>
    rw [List.forall_mem_cons] at hway
    have hnames : ∀ n ∈ names ++ [name], IsPiece n :=
      List.forall_mem_append.2 ⟨h, List.forall_mem_singleton.2 hway.1⟩
    rw [List.foldl_cons, join_rooted k h hway.1, ih hnames hway.2, List.append_assoc]
    rfl

theorem exists_eq_rooted {here path : String} (h : isAbsolute here)
    (hpath : ∃ given, path = absolute here given) : ∃ k ≤ 1, path = rooted k (steps path) := by
  obtain ⟨given, rfl⟩ := hpath
  have hstart := isAbsolute_start h given
  obtain ⟨k, hk, heq⟩ := exists_normalize_eq hstart
  refine ⟨k, hk, ?_⟩
  rw [absolute, steps_normalize hstart, heq, rooted]

end Path

namespace FileSystem

variable {fs : FileSystem} {here : String} {k k' : ℕ} {names rest : List String}

theorem pathFault?_eq_none_iff {path : String} : pathFault? path = none ↔
    '\x00' ∉ path.toList ∧ path ≠ "" ∧ path.utf8ByteSize < maxPathSize := by
  unfold pathFault?
  split_ifs <;> simp_all

/-- If a path has no fault, neither has a normal path to a folder above its end. -/
theorem pathFault?_rooted_above (hk' : k' ≤ 1) (hrest : ∀ name ∈ rest, Path.IsPiece name)
    (hne : rest ≠ []) (h : pathFault? (Path.rooted k (names ++ rest)) = none) :
    pathFault? (Path.rooted k' names) = none := by
  rw [pathFault?_eq_none_iff, Path.utf8ByteSize_rooted, Path.toList_rooted] at h ⊢
  have hslash : '\x00' ∉ List.replicate k' '/' := by simp
  have hnonempty : Path.rooted k' names ≠ "" := by
    intro hempty
    have hlist := Path.toList_rooted k' names
    simp [hempty] at hlist
  by_cases hnames : names = []
  · have hsize : (Path.ofSteps []).utf8ByteSize = 0 := rfl
    have hlimit : maxPathSize = 4096 := rfl
    rw [hnames] at hnonempty ⊢
    refine ⟨?_, hnonempty, by omega⟩
    simp [Path.ofSteps]
  · have hpos : (Path.ofSteps rest).utf8ByteSize ≠ 0 := by
      rw [ne_eq, String.utf8ByteSize_eq_zero_iff]
      intro hempty
      have hsteps := Path.steps_ofSteps hrest
      rw [hempty, Path.steps_empty] at hsteps
      exact hne hsteps.symm
    rw [Path.ofSteps_append hnames hne, String.utf8ByteSize_append,
      String.utf8ByteSize_append] at h
    refine ⟨?_, hnonempty, by omega⟩
    have hnull := h.1
    simp only [String.toList_append, List.mem_cons, List.mem_append, not_or] at hnull ⊢
    exact ⟨hnull.1, hslash, hnull.2.2.1.1⟩

/-- Normal paths through the same names lead to the same, as long as both are within the limits. -/
theorem isFolder_rooted (hnames : ∀ name ∈ names, Path.IsPiece name) (hne : names ≠ [])
    (h : pathFault? (Path.rooted k names) = none) (h' : pathFault? (Path.rooted k' names) = none) :
    fs.isFolder here (Path.rooted k' names) = fs.isFolder here (Path.rooted k names) := by
  have hlocate : ∀ n, pathFault? (Path.rooted n names) = none →
      fs.locate here (Path.rooted n names) = fs.walk maxLinks [] names := by
    intro n hn
    have hfold := Path.foldl_join_rooted n (List.forall_mem_nil _) hnames
    have hway := waypoints_foldl_join (Path.rooted n []) hne hnames
    rw [hfold, List.nil_append, Path.steps_rooted_of_isPiece n (List.forall_mem_nil _),
      List.nil_append] at hway
    simp only [locate, hn, hway, origin, Path.isAbsolute_rooted, if_true]
  simp only [isFolder, lookUp, hlocate k h, hlocate k' h']
  cases fs.walk maxLinks [] names with
  | error cause => rfl
  | ok goal => cases hgoal : fs.at? goal <;> simp [hgoal]

end FileSystem

end Outline
