import Mathlib.Data.List.Induction
import Mathlib.Data.List.Nodup
import Outline.Proofs.FileSystem.Walk
import Outline.Source.Files

set_option autoImplicit false

/-!
# Ways to source files

A way is a list of names from a folder down to a file. `Entry.Offers` describes the ways through
folders that are not ignored, for any choice of which folders can be opened and of what counts as a
file, both by their paths; the enumeration of source files finds exactly these ways, each of them
once.
-/
namespace Outline

namespace Entry

/-- From the folder with a path, names lead through subfolders that are not ignored and can be
opened. -/
def Passes (ignored opens : String → Bool) (path : String) : List String → Prop
  | [] => True
  | name :: rest =>
    (ignored name = false ∧ opens (Path.join path name)) ∧
      Passes ignored opens (Path.join path name) rest

/-- Below the entry with a path, a way leads through such folders to something that is named like a
source and counts as a file. -/
def Offers (ignored opens : String → Bool) (counts : String → Entry → Bool) (path : String)
    (e : Entry) (way : List String) : Prop :=
  ∃ folders name found, way = folders ++ [name] ∧ Passes ignored opens path folders ∧
    e.find? way = some found ∧ Path.isSource name ∧ counts (way.foldl Path.join path) found

variable {ignored opens : String → Bool} {counts : String → Entry → Bool} {path : String}

theorem passes_append_iff {a b : List String} : Passes ignored opens path (a ++ b) ↔
    Passes ignored opens path a ∧ Passes ignored opens (a.foldl Path.join path) b := by
  induction a generalizing path with
  | nil => simp [Passes]
  | cons name a ih => simp only [List.cons_append, Passes, ih, List.foldl_cons, and_assoc]

theorem Passes.unignored {folders : List String} (h : Passes ignored opens path folders) :
    ∀ folder ∈ folders, ignored folder = false := by
  induction folders generalizing path with
  | nil => simp
  | cons name folders ih => exact List.forall_mem_cons.2 ⟨h.1.1, ih h.2⟩

theorem passes_congr {opens' : String → Bool} {path' : String} {folders : List String}
    (h : ∀ front, front ≠ [] → front <+: folders →
      opens' (front.foldl Path.join path') = opens (front.foldl Path.join path)) :
    Passes ignored opens' path' folders ↔ Passes ignored opens path folders := by
  induction folders generalizing path path' with
  | nil => exact Iff.rfl
  | cons name folders ih =>
    have hfirst := h [name] (by simp) (by simp)
    rw [List.foldl_cons, List.foldl_cons, List.foldl_nil, List.foldl_nil] at hfirst
    have hrest := @ih (Path.join path name) (Path.join path' name) fun front hne hfront =>
      h (name :: front) (by simp) ((List.prefix_cons_inj name).2 hfront)
    rw [Passes, Passes, hfirst, hrest]

theorem Offers.exists_folder {e : Entry} {way : List String}
    (h : Offers ignored opens counts path e way) : ∃ entries, e = folder entries := by
  obtain ⟨folders, name, found, rfl, -, hf, -⟩ := h
  exact exists_folder_of_find?_concat hf

/-- The first step of a way: it ends at an entry of the folder or goes on below one. -/
theorem offers_folder_iff {entries : List (String × Entry)} (h : (entries.map Prod.fst).Nodup)
    (way : List String) : Offers ignored opens counts path (folder entries) way ↔
      ∃ x ∈ entries, ∃ rest, way = x.1 :: rest ∧
        (rest = [] ∧ Path.isSource x.1 ∧ counts (Path.join path x.1) x.2 ∨
          (ignored x.1 = false ∧ opens (Path.join path x.1)) ∧
            Offers ignored opens counts (Path.join path x.1) x.2 rest) := by
  constructor
  · rintro ⟨folders, name, found, rfl, hpass, hf, hsource, hcounts⟩
    cases folders with
    | nil =>
      rw [List.nil_append, find?_folder_cons, Option.bind_eq_some_iff] at hf
      obtain ⟨e, hl, he⟩ := hf
      rw [find?_nil, Option.some_inj] at he
      subst he
      exact ⟨(name, e), (lookup_eq_some_iff_mem h name e).1 hl, [], rfl,
        .inl ⟨rfl, hsource, hcounts⟩⟩
    | cons first folders =>
      rw [List.cons_append, find?_folder_cons, Option.bind_eq_some_iff] at hf
      obtain ⟨e, hl, he⟩ := hf
      exact ⟨(first, e), (lookup_eq_some_iff_mem h first e).1 hl, folders ++ [name], rfl,
        .inr ⟨hpass.1, folders, name, found, rfl, hpass.2, he, hsource, hcounts⟩⟩
  · rintro ⟨⟨name, e⟩, hx, rest, rfl, ⟨rfl, hsource, hcounts⟩ | ⟨hname, hrest⟩⟩
    · have hl := (lookup_eq_some_iff_mem h name e).2 hx
      refine ⟨[], name, e, rfl, trivial, ?_, hsource, hcounts⟩
      simp [hl]
    · obtain ⟨folders, last, found, rfl, hpass, hf, hsource, hcounts⟩ := hrest
      have hl := (lookup_eq_some_iff_mem h name e).2 hx
      refine ⟨name :: folders, last, found, rfl, ⟨hname, hpass⟩, ?_, hsource, hcounts⟩
      rw [find?_folder_cons, hl]
      exact hf

theorem Offers.isName {e : Entry} {way : List String} (he : e.isProper)
    (h : Offers ignored opens counts path e way) : ∀ name ∈ way, Path.IsName name := by
  obtain ⟨folders, last, found, rfl, -, hf, -⟩ := h
  exact isName_of_find? he hf

theorem Offers.unignored {e : Entry} {way : List String}
    (h : Offers ignored opens counts path e way) :
    way ≠ [] ∧ ∀ folder ∈ way.dropLast, ignored folder = false := by
  obtain ⟨folders, last, found, rfl, hpass, -⟩ := h
  exact ⟨by simp, by simpa using hpass.unignored⟩

end Entry

namespace Source

/-- A link counts as a file unless its path leads to a folder. -/
def countsAsFile (fs : FileSystem) (here path : String) : Entry → Bool
  | .file .. => true
  | .link _ => !fs.isFolder here path
  | .folder _ => false

variable {fs : FileSystem} {here : String} {ignored : String → Bool}

theorem waysTo_of_not_folder (path name : String) {e : Entry} (h : e.isFolder = false) :
    waysTo fs here ignored path name e =
      if Path.isSource name && countsAsFile fs here (Path.join path name) e then [[name]]
      else [] := by
  cases e with
  | file bytes mode => simp [waysTo, countsAsFile]
  | link target => rw [waysTo, countsAsFile]
  | folder entries => cases h

theorem waysAmong_eq_flatMap (path : String) (entries : List (String × Entry)) :
    waysAmong fs here ignored path entries =
      entries.flatMap fun x => waysTo fs here ignored path x.1 x.2 := by
  induction entries with
  | nil => rfl
  | cons x rest ih => rw [waysAmong, ih, List.flatMap_cons]

theorem mem_waysTo_iff {e : Entry} {path name : String} {way : List String} :
    way ∈ waysTo fs here ignored path name e ↔
      ∃ rest, way = name :: rest ∧
        (rest = [] ∧ Path.isSource name ∧ countsAsFile fs here (Path.join path name) e ∨
          (ignored name = false ∧ fs.isFolder here (Path.join path name)) ∧
            ∃ entries, e = .folder entries ∧
              rest ∈ waysAmong fs here ignored (Path.join path name) entries) := by
  cases e with
  | file bytes mode =>
    rw [waysTo_of_not_folder path name rfl]
    split_ifs with h <;> simp_all
  | link target =>
    rw [waysTo_of_not_folder path name rfl]
    split_ifs with h <;> simp_all
  | folder entries =>
    rw [waysTo]
    by_cases h : ignored name || !fs.isFolder here (Path.join path name)
    · rw [if_pos h]
      simp only [Bool.or_eq_true, Bool.not_eq_true'] at h
      rcases h with h | h <;> simp [h, countsAsFile]
    · rw [if_neg h, List.mem_map]
      simp only [Bool.or_eq_true, Bool.not_eq_true', not_or, Bool.not_eq_true,
        Bool.not_eq_false] at h
      simp only [countsAsFile, Bool.false_eq_true, and_false, false_or, h, and_self, true_and,
        Entry.folder.injEq, exists_eq_left']
      constructor
      · rintro ⟨rest, hr, rfl⟩
        exact ⟨rest, rfl, hr⟩
      · rintro ⟨rest, rfl, hr⟩
        exact ⟨rest, hr, rfl⟩

/-- The enumeration finds the ways that the folder offers. -/
theorem mem_waysAmong_iff {entries : List (String × Entry)}
    (h : (Entry.folder entries).isProper) (path : String) (way : List String) :
    way ∈ waysAmong fs here ignored path entries ↔
      (Entry.folder entries).Offers ignored (fs.isFolder here) (countsAsFile fs here) path way := by
  generalize he : Entry.folder entries = e at h ⊢
  induction e generalizing entries path way with
  | file bytes mode => cases he
  | link target => cases he
  | folder below ih =>
    cases he
    rw [Entry.isProper_folder] at h
    rw [waysAmong_eq_flatMap, List.mem_flatMap, Entry.offers_folder_iff h.2.1]
    refine exists_congr fun x => and_congr_right fun hx => ?_
    rw [mem_waysTo_iff]
    refine exists_congr fun rest => and_congr_right fun _ => or_congr_right ?_
    refine and_congr_right fun _ => ?_
    constructor
    · rintro ⟨entries, hfolder, hrest⟩
      exact (ih x hx (Path.join path x.1) rest hfolder.symm (h.2.2 x hx)).1 hrest
    · intro hrest
      obtain ⟨entries, hfolder⟩ := hrest.exists_folder
      exact ⟨entries, hfolder,
        (ih x hx (Path.join path x.1) rest hfolder.symm (h.2.2 x hx)).2 hrest⟩

theorem nodup_waysAmong {entries : List (String × Entry)}
    (h : (Entry.folder entries).isProper) (path : String) :
    (waysAmong fs here ignored path entries).Nodup := by
  generalize he : Entry.folder entries = e at h
  induction e generalizing entries path with
  | file bytes mode => cases he
  | link target => cases he
  | folder below ih =>
    cases he
    rw [Entry.isProper_folder] at h
    rw [waysAmong_eq_flatMap, List.nodup_flatMap]
    constructor
    · intro x hx
      cases hf : x.2.isFolder with
      | false =>
        rw [waysTo_of_not_folder path x.1 hf]
        split_ifs <;> simp
      | true =>
        obtain ⟨name, e⟩ := x
        cases e with
        | file bytes mode => cases hf
        | link target => cases hf
        | folder entries =>
          rw [waysTo]
          split_ifs
          · exact List.nodup_nil
          · exact (ih _ hx (Path.join path name) rfl (h.2.2 _ hx)).map (List.cons_injective)
    · -- ways to different entries begin with different names
      refine (List.pairwise_map.1 h.2.1).imp fun {x y} hxy way hwx hwy => ?_
      obtain ⟨_, rfl, -⟩ := mem_waysTo_iff.1 hwx
      obtain ⟨_, heq, -⟩ := mem_waysTo_iff.1 hwy
      exact hxy (List.cons.inj heq).1

/-! ## The order of ways -/

/-- Ways in the order of their paths. -/
def sortWays (ways : List (List String)) : List (List String) :=
  ways.mergeSort fun a b => decide (Path.ofSteps a ≤ Path.ofSteps b)

theorem sortWays_perm (ways : List (List String)) : (sortWays ways).Perm ways :=
  List.mergeSort_perm ways _

theorem pairwise_sortWays (ways : List (List String)) :
    (sortWays ways).Pairwise fun a b => Path.ofSteps a ≤ Path.ofSteps b := by
  have h := List.pairwise_mergeSort
    (fun a b c (hab : decide (Path.ofSteps a ≤ Path.ofSteps b) = true) hbc =>
      decide_eq_true (String.le_trans (of_decide_eq_true hab) (of_decide_eq_true hbc)))
    (fun a b => by simpa using String.le_total (Path.ofSteps a) (Path.ofSteps b)) ways
  exact h.imp of_decide_eq_true

theorem ofSteps_inj {a b : List String} (ha : ∀ name ∈ a, Path.IsPiece name)
    (hb : ∀ name ∈ b, Path.IsPiece name) (h : Path.ofSteps a = Path.ofSteps b) : a = b := by
  rw [← Path.steps_ofSteps ha, h, Path.steps_ofSteps hb]

/-- Sorting files is sorting the ways to them, since no two ways have the same path. -/
theorem sortFiles_map_ofWay (base : String) {ways : List (List String)}
    (h : ∀ way ∈ ways, ∀ name ∈ way, Path.IsPiece name) :
    sortFiles (ways.map (FoundFile.ofWay base)) = (sortWays ways).map (FoundFile.ofWay base) := by
  refine (List.map_mergeSort fun a ha b hb => ?_).symm
  change decide (Path.ofSteps a ≤ Path.ofSteps b) = (decide (Path.ofSteps a < Path.ofSteps b) ||
    (Path.ofSteps a == Path.ofSteps b &&
      decide (a.foldl Path.join base ≤ b.foldl Path.join base)))
  by_cases heq : Path.ofSteps a = Path.ofSteps b
  · have hab := ofSteps_inj (h a ha) (h b hb) heq
    simp [hab]
  · have hle : Path.ofSteps a ≤ Path.ofSteps b ↔ Path.ofSteps a < Path.ofSteps b :=
      ⟨fun hab => String.not_le.1 fun hba => heq (String.le_antisymm hab hba),
        fun hab => (String.le_total _ _).resolve_right fun hba => String.not_lt.2 hba hab⟩
    simp [heq, hle]

/-! ## The list of source files -/

theorem files_of_ignored {here base : String} {f : Filter}
    (h : f.ignores (Folder.ownName here base)) : (files fs here f base).result = .ok [] := by
  rw [files, if_pos h]
  rfl

theorem files_of_listFolder {here base : String} {f : Filter} {place : Location}
    {entries : List (String × Entry)} (hfs : fs.isProper)
    (hname : f.ignores (Folder.ownName here base) = false)
    (h : fs.listFolder here base = .ok (place, entries)) :
    (files fs here f base).result =
      .ok ((sortWays (waysAmong fs here f.ignores base entries)).map (·.foldl Path.join base)) := by
  have hproper := fs.isProper_of_at? hfs (fs.at?_of_listFolder h)
  have hways : ∀ way ∈ waysAmong fs here f.ignores base entries, ∀ name ∈ way,
      Path.IsPiece name := fun way hway name hn =>
    (((mem_waysAmong_iff hproper base way).1 hway).isName hproper name hn).1
  rw [files, if_neg (by simp [hname]), h]
  simp only [Outcome.result_bind, Outcome.result_note, Outcome.result_pure, Except.bind,
    sortFiles_map_ofWay base hways, List.map_map]
  rfl

theorem exists_files {here base : String} {place : Location} {entries : List (String × Entry)}
    (hfs : fs.isProper) (f : Filter) (h : fs.listFolder here base = .ok (place, entries)) :
    ∃ paths, (files fs here f base).result = .ok paths := by
  cases hname : f.ignores (Folder.ownName here base) with
  | true => exact ⟨[], files_of_ignored hname⟩
  | false => exact ⟨_, files_of_listFolder hfs hname h⟩

/-- The files found are those at the ends of the ways from their base. -/
theorem mem_files_iff {here base : String} {f : Filter} {paths : List String}
    (hfs : fs.isProper) (h : (files fs here f base).result = .ok paths) (path : String) :
    path ∈ paths ↔ f.ignores (Folder.ownName here base) = false ∧
      ∃ place entries way, fs.listFolder here base = .ok (place, entries) ∧
        (Entry.folder entries).Offers f.ignores (fs.isFolder here) (countsAsFile fs here) base way ∧
        path = way.foldl Path.join base := by
  cases hname : f.ignores (Folder.ownName here base) with
  | true =>
    rw [files_of_ignored hname] at h
    cases h
    simp
  | false =>
    cases hl : fs.listFolder here base with
    | error e =>
      rw [files, if_neg (by simp [hname]), hl] at h
      split at h
      · cases h
      · simp only [Outcome.result_bind, Outcome.result_note, Outcome.result_pure, Except.bind,
          Except.ok.injEq] at h
        subst h
        simp [sortFiles]
    | ok found =>
      obtain ⟨place, entries⟩ := found
      have hproper := fs.isProper_of_at? hfs (fs.at?_of_listFolder hl)
      rw [files_of_listFolder hfs hname hl] at h
      cases h
      simp only [List.mem_map, (sortWays_perm _).mem_iff, mem_waysAmong_iff hproper, true_and,
        Except.ok.injEq, Prod.mk.injEq]
      constructor
      · rintro ⟨way, hway, rfl⟩
        exact ⟨place, entries, way, ⟨rfl, rfl⟩, hway, rfl⟩
      · rintro ⟨_, _, way, ⟨rfl, rfl⟩, hway, rfl⟩
        exact ⟨way, hway, rfl⟩

end Source

end Outline
