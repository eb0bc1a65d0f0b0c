import Mathlib.Data.List.Forall2
import Outline.Proofs.Folder.Lines

set_option autoImplicit false

/-!
# What a drawing tells

Every folder has a canonical form: ignored folders are left out of it, files are sorted, and
subfolders are sorted by name. The drawings of two folders are the same text exactly if the
canonical forms are equal. From the text the lines can be told, from a line its depth and its label,
and from depths and labels the folder, since the lines of a subfolder are those up to the next line
that is not deeper.
-/
namespace Outline.Folder

mutual

/-- The canonical form of a folder, which an ignored folder does not have. -/
def canonical (ignored : String → Bool) : Folder → Option Folder
  | mk name files folders =>
    if ignored name then none
    else some (mk name (sortNames files) (sortFolders (canonicalAll ignored folders)))

def canonicalAll (ignored : String → Bool) : List Folder → List Folder
  | [] => []
  | f :: rest => (canonical ignored f).toList ++ canonicalAll ignored rest

end

theorem canonical_eq (ignored : String → Bool) (f : Folder) :
    f.canonical ignored = if ignored f.name then none else some (arrange ignored f) := by
  induction f with
  | mk name files folders ih =>
    have hall : ∀ subs : List Folder, (∀ f ∈ subs, f ∈ folders) →
        canonicalAll ignored subs = arrangeAll ignored subs := by
      intro subs hsubs
      induction subs with
      | nil => rfl
      | cons sub subs ihsubs =>
        rw [List.forall_mem_cons] at hsubs
        rw [canonicalAll, arrangeAll, ih sub hsubs.1, ihsubs hsubs.2]
        cases ignored sub.name <;> simp
    rw [canonical, arrange, hall folders fun _ hf => hf]
    rfl

theorem render_eq_of_canonical_eq {ignored : String → Bool} {f g : Folder}
    (h : f.canonical ignored = g.canonical ignored) : f.render ignored = g.render ignored := by
  rw [canonical_eq, canonical_eq] at h
  unfold render
  cases hf : ignored f.name <;> cases hg : ignored g.name <;> simp_all

/-! ## Depths and labels -/

mutual

/-- The lines of a folder without branches and rails: the depth and the label of each of them. -/
def labels (depth : ℕ) : Folder → List (ℕ × List Char)
  | mk name files folders =>
    (depth, (name ++ "/").toList) ::
      (files.map (fun file => (depth + 1, file.toList)) ++ labelsAll (depth + 1) folders)

def labelsAll (depth : ℕ) : List Folder → List (ℕ × List Char)
  | [] => []
  | f :: rest => labels depth f ++ labelsAll depth rest

end

theorem map_readLine_drawFiles {depth : ℕ} {indent : String} (h : IsIndent depth indent)
    (files : List String) : (drawFiles indent files).map (fun line => readLine line.toList) =
      files.map fun file => (depth, file.toList) := by
  induction files with
  | nil => rfl
  | cons file files ih =>
    cases files with
    | nil =>
      rw [drawFiles, List.map_singleton, readLine_branch h]
      rfl
    | cons next files =>
      rw [drawFiles, List.map_cons, readLine_branch h, ih]
      · rfl
      · simp

theorem map_readLine_draw (f : Folder) {depth : ℕ} {indent : String} (h : IsIndent depth indent)
    (last : Bool) : (draw indent last f).map (fun line => readLine line.toList) =
      labels depth f := by
  induction f generalizing depth indent last with
  | mk name files folders ih =>
    have hinner := h.rail last
    have hall : ∀ subs : List Folder, (∀ f ∈ subs, f ∈ folders) →
        (drawAll (indent ++ rail last) subs).map (fun line => readLine line.toList) =
          labelsAll (depth + 1) subs := by
      intro subs hsubs
      induction subs with
      | nil => rfl
      | cons sub subs ihsubs =>
        rw [List.forall_mem_cons] at hsubs
        rw [drawAll, labelsAll, List.map_append, ih sub hsubs.1 hinner, ihsubs hsubs.2]
    rw [draw, labels, List.map_cons, List.map_append, map_readLine_drawFiles hinner,
      hall folders fun _ hf => hf, String.append_assoc, readLine_branch h]

theorem labelsAll_eq_flatMap (depth : ℕ) (folders : List Folder) :
    labelsAll depth folders = folders.flatMap (labels depth) := by
  induction folders with
  | nil => rfl
  | cons f folders ih => rw [labelsAll, ih, List.flatMap_cons]

theorem labels_eq_cons (depth : ℕ) (f : Folder) :
    labels depth f = (depth, (f.name ++ "/").toList) :: (labels depth f).tail := by
  cases f
  rfl

theorem lt_of_mem_tail_labels {f : Folder} {depth : ℕ} {label : ℕ × List Char}
    (h : label ∈ (labels depth f).tail) : depth < label.1 := by
  induction f generalizing depth with
  | mk name files folders ih =>
    rw [labels, List.tail_cons, List.mem_append, List.mem_map, labelsAll_eq_flatMap,
      List.mem_flatMap] at h
    rcases h with ⟨file, -, rfl⟩ | ⟨sub, hsub, h⟩
    · exact Nat.lt_succ_self depth
    · rw [labels_eq_cons, List.mem_cons] at h
      rcases h with rfl | h
      · exact Nat.lt_succ_self depth
      · have hdeep : depth + 1 < label.1 := ih sub hsub h
        omega

/-- The lines of a subfolder end where the next line of its depth begins. -/
theorem takeWhile_labels (depth : ℕ) (f : Folder) (rest : List Folder) :
    ((labels depth f).tail ++ labelsAll depth rest).takeWhile (depth < ·.1) =
      (labels depth f).tail := by
  have hdeep : ∀ label ∈ (labels depth f).tail, decide (depth < label.1) = true :=
    fun label hlabel => decide_eq_true (lt_of_mem_tail_labels hlabel)
  rw [List.takeWhile_append_of_pos hdeep]
  cases rest with
  | nil => simp [labelsAll]
  | cons next rest =>
    rw [labelsAll, labels_eq_cons depth next]
    simp

theorem takeWhile_files {depth : ℕ} {files : List String}
    (hfiles : ∀ file ∈ files, IsFileName file) (folders : List Folder) :
    (files.map (fun file => (depth, file.toList)) ++ labelsAll depth folders).takeWhile
      (fun label => decide (label.2.getLast? ≠ some '/')) =
        files.map fun file => (depth, file.toList) := by
  have hplain : ∀ label ∈ files.map (fun file => (depth, file.toList)),
      decide (label.2.getLast? ≠ some '/') = true := by
    intro label hlabel
    obtain ⟨file, hfile, rfl⟩ := List.mem_map.1 hlabel
    exact decide_eq_true (hfiles file hfile)
  rw [List.takeWhile_append_of_pos hplain]
  cases folders with
  | nil => simp [labelsAll]
  | cons f folders =>
    rw [labelsAll, labels_eq_cons depth f]
    simp

theorem labelsAll_injective {depth : ℕ} {folders folders' : List Folder}
    (h : ∀ f ∈ folders, ∀ g ∈ folders', labels depth f = labels depth g → f = g)
    (heq : labelsAll depth folders = labelsAll depth folders') : folders = folders' := by
  induction folders generalizing folders' with
  | nil =>
    cases folders' with
    | nil => rfl
    | cons g folders' =>
      rw [labelsAll, labelsAll, labels_eq_cons depth g] at heq
      cases heq
  | cons f folders ih =>
    cases folders' with
    | nil =>
      rw [labelsAll, labelsAll, labels_eq_cons depth f] at heq
      cases heq
    | cons g folders' =>
      -- both lists go on with the same lines up to the next line that is not deeper
      have hlabels : labels depth f = labels depth g := by
        rw [labelsAll, labelsAll, labels_eq_cons depth f, labels_eq_cons depth g,
          List.cons_append, List.cons_append, List.cons.injEq] at heq
        have hcut := congrArg (List.takeWhile (depth < ·.1)) heq.2
        rw [takeWhile_labels, takeWhile_labels] at hcut
        rw [labels_eq_cons depth f, labels_eq_cons depth g, heq.1, hcut]
      rw [labelsAll, labelsAll, hlabels, List.append_cancel_left_eq] at heq
      have hrest : folders = folders' := ih (fun f' hf' g' hg' =>
        h f' (List.mem_cons_of_mem f hf') g' (List.mem_cons_of_mem g hg')) heq
      rw [h f List.mem_cons_self g List.mem_cons_self hlabels, hrest]

theorem eq_of_labels_eq {f g : Folder} (hf : ∀ way ∈ f.ways, EndsWithFile way)
    (hg : ∀ way ∈ g.ways, EndsWithFile way) {depth : ℕ} (h : labels depth f = labels depth g) :
    f = g := by
  induction f generalizing g depth with
  | mk name files folders ih =>
    cases g with
    | mk name' files' folders' =>
      rw [labels, labels, List.cons.injEq] at h
      obtain ⟨hhead, htail⟩ := h
      have hname : name = name' := String.toList_injective (by simpa using hhead)
      -- the files are the lines up to the first one with a slash at its end
      have hcut := congrArg (List.takeWhile fun label => decide (label.2.getLast? ≠ some '/')) htail
      rw [takeWhile_files fun _ => isFileName_of_mem_files hf,
        takeWhile_files fun _ => isFileName_of_mem_files hg] at hcut
      have hfiles : files = files' :=
        List.map_injective_iff.2 (fun a b hab => String.toList_injective (by simpa using hab)) hcut
      rw [hcut, List.append_cancel_left_eq] at htail
      have hfolders : folders = folders' := by
        refine labelsAll_injective (fun f hmem g hmem' => ?_) htail
        exact ih f hmem (endsWithFile_of_mem_folders hf hmem)
          (endsWithFile_of_mem_folders hg hmem')
      rw [hname, hfiles, hfolders]

/-! ## Sorting -/

theorem nameLe_trans (f g h : Folder) (hfg : decide (f.name ≤ g.name) = true)
    (hgh : decide (g.name ≤ h.name) = true) : decide (f.name ≤ h.name) = true :=
  decide_eq_true (String.le_trans (of_decide_eq_true hfg) (of_decide_eq_true hgh))

theorem nameLe_total (f g : Folder) :
    (decide (f.name ≤ g.name) || decide (g.name ≤ f.name)) = true := by
  simpa using String.le_total f.name g.name

theorem pairwise_sortFolders (folders : List Folder) :
    (sortFolders folders).Pairwise fun f g => f.name ≤ g.name :=
  (List.pairwise_mergeSort nameLe_trans nameLe_total folders).imp of_decide_eq_true

theorem filter_sortFolders (folders : List Folder) (name : String) :
    (sortFolders folders).filter (·.name == name) = folders.filter (·.name == name) := by
  have hsame : (folders.filter (·.name == name)).Pairwise fun f g =>
      decide (f.name ≤ g.name) = true := by
    refine List.pairwise_of_forall_mem_list fun f hf g hg => ?_
    have hfname : f.name = name := by simpa using List.of_mem_filter hf
    have hgname : g.name = name := by simpa using List.of_mem_filter hg
    rw [hfname, hgname]
    exact decide_eq_true (String.le_refl name)
  -- the folders of one name are a sorted part of the list, so a stable sort leaves them in place
  have hsub : (folders.filter (·.name == name)).Sublist (sortFolders folders) :=
    List.sublist_mergeSort nameLe_trans nameLe_total hsame List.filter_sublist
  have hfilter := hsub.filter (·.name == name)
  rw [List.filter_filter] at hfilter
  simp only [Bool.and_self] at hfilter
  exact (hfilter.eq_of_length
    ((List.mergeSort_perm folders _).filter _).length_eq.symm).symm

/-- Folders that are sorted by name are known from the folders of each name. -/
theorem eq_of_filter_eq {folders folders' : List Folder}
    (h : folders.Pairwise fun f g => f.name ≤ g.name)
    (h' : folders'.Pairwise fun f g => f.name ≤ g.name)
    (heq : ∀ name : String, folders.filter (·.name == name) = folders'.filter (·.name == name)) :
    folders = folders' := by
  induction folders generalizing folders' with
  | nil =>
    cases folders' with
    | nil => rfl
    | cons g folders' => simpa using heq g.name
  | cons f folders ih =>
    cases folders' with
    | nil => simpa using heq f.name
    | cons g folders' =>
      rw [List.pairwise_cons] at h h'
      have hmem : ∀ x, x ∈ f :: folders ↔ x ∈ g :: folders' := fun x => by
        have hx := congrArg (x ∈ ·) (heq x.name)
        simpa only [List.mem_filter, beq_self_eq_true, and_true, eq_iff_iff] using hx
      have hle : ∀ {x y : Folder} {rest : List Folder}, (∀ z ∈ rest, x.name ≤ z.name) →
          y ∈ x :: rest → x.name ≤ y.name := by
        intro x y rest hrest hy
        rcases List.mem_cons.1 hy with rfl | hy
        · exact String.le_refl _
        · exact hrest y hy
      have hname : f.name = g.name := String.le_antisymm
        (hle h.1 ((hmem g).2 List.mem_cons_self)) (hle h'.1 ((hmem f).1 List.mem_cons_self))
      have hfirst : f = g := by
        have hf := heq f.name
        rw [List.filter_cons_of_pos (by simp), List.filter_cons_of_pos (by simp [hname])] at hf
        exact (List.cons.inj hf).1
      subst hfirst
      congr 1
      refine ih h.2 h'.2 fun name => ?_
      have hn := heq name
      rw [List.filter_cons, List.filter_cons] at hn
      split_ifs at hn
      · exact (List.cons.inj hn).2
      · exact hn

theorem sortFolders_eq_iff {folders folders' : List Folder} :
    sortFolders folders = sortFolders folders' ↔
      ∀ name : String, folders.filter (·.name == name) = folders'.filter (·.name == name) := by
  constructor
  · intro h name
    rw [← filter_sortFolders, h, filter_sortFolders]
  · intro h
    refine eq_of_filter_eq (pairwise_sortFolders _) (pairwise_sortFolders _) fun name => ?_
    rw [filter_sortFolders, filter_sortFolders, h]

theorem sortNames_eq_iff {names names' : List String} :
    sortNames names = sortNames names' ↔ names.Perm names' := by
  have hsorted : ∀ names : List String, (sortNames names).Pairwise (· ≤ ·) := fun names =>
    (List.pairwise_mergeSort
      (fun a b c (hab : decide (a ≤ b) = true) hbc =>
        decide_eq_true (String.le_trans (of_decide_eq_true hab) (of_decide_eq_true hbc)))
      (fun a b => by simpa using String.le_total a b) names).imp of_decide_eq_true
  have hperm : ∀ names : List String, (sortNames names).Perm names := fun names =>
    List.mergeSort_perm names _
  constructor
  · intro h
    exact (hperm names).symm.trans (h ▸ hperm names')
  · intro h
    refine List.Perm.eq_of_pairwise (fun a b _ _ => String.le_antisymm) (hsorted _) (hsorted _) ?_
    exact (hperm names).trans (h.trans (hperm names').symm)

/-! ## What does not matter -/

/-- Folders that differ in nothing that matters: both are ignored, or they have the same name, the
same files in any order, and of every name that is not ignored the same subfolders in order. -/
inductive Alike (ignored : String → Bool) : Folder → Folder → Prop
  | hidden {f g : Folder} (hf : ignored f.name = true) (hg : ignored g.name = true) :
      Alike ignored f g
  | shown {name : String} {files files' : List String} {folders folders' : List Folder}
      (hname : ignored name = false) (hfiles : files.Perm files')
      (hfolders : ∀ sub, ignored sub = false → List.Forall₂ (Alike ignored)
        (folders.filter (·.name == sub)) (folders'.filter (·.name == sub))) :
      Alike ignored (mk name files folders) (mk name files' folders')

theorem filter_arrangeAll (ignored : String → Bool) (folders : List Folder) (name : String) :
    (arrangeAll ignored folders).filter (·.name == name) =
      if ignored name then [] else (folders.filter (·.name == name)).map (arrange ignored) := by
  have hname : ((·.name == name) ∘ arrange ignored) = fun f : Folder => f.name == name := by
    funext f
    simp
  rw [arrangeAll_eq, List.filter_map, hname, List.filter_filter]
  split_ifs with h
  · rw [List.map_eq_nil_iff, List.filter_eq_nil_iff]
    rintro f - hf
    rw [Bool.and_eq_true, beq_iff_eq] at hf
    simp [hf.1, h] at hf
  · congr 1
    refine List.filter_congr fun f _ => ?_
    cases hf : f.name == name with
    | false => rfl
    | true => simp [eq_of_beq hf, h]

theorem arrange_eq_iff {ignored : String → Bool} {name name' : String} {files files' : List String}
    {folders folders' : List Folder} :
    arrange ignored (mk name files folders) = arrange ignored (mk name' files' folders') ↔
      name = name' ∧ files.Perm files' ∧ ∀ sub, ignored sub = false →
        List.Forall₂ (fun f g => arrange ignored f = arrange ignored g)
          (folders.filter (·.name == sub)) (folders'.filter (·.name == sub)) := by
  rw [arrange, arrange, mk.injEq, sortNames_eq_iff, sortFolders_eq_iff]
  refine and_congr_right fun _ => and_congr_right fun _ => forall_congr' fun sub => ?_
  rw [filter_arrangeAll, filter_arrangeAll]
  cases ignored sub with
  | true => simp
  | false =>
    rw [if_neg Bool.false_ne_true, if_neg Bool.false_ne_true, ← List.forall₂_eq_eq_eq,
      List.forall₂_map_left_iff, List.forall₂_map_right_iff]
    simp

theorem forall₂_imp_of_mem {R S : Folder → Folder → Prop} {folders folders' : List Folder}
    (h : ∀ f ∈ folders, ∀ g, R f g → S f g) (hR : List.Forall₂ R folders folders') :
    List.Forall₂ S folders folders' :=
  ((List.forall₂_and_left _ _).2 ⟨h, hR⟩).imp fun _ g hg => hg.1 g hg.2

theorem arrange_eq_iff_alike {ignored : String → Bool} {f g : Folder}
    (hf : ignored f.name = false) : arrange ignored f = arrange ignored g ↔ Alike ignored f g := by
  induction f generalizing g with
  | mk name files folders ih =>
    -- subfolders of a name that is not ignored are not ignored
    have hsub : ∀ {sub : String}, ignored sub = false →
        ∀ f ∈ folders.filter (·.name == sub), ignored f.name = false := by
      intro sub hs f hmem
      have hname : f.name = sub := by simpa using List.of_mem_filter hmem
      rwa [hname]
    constructor
    · intro h
      cases g with
      | mk name' files' folders' =>
        obtain ⟨rfl, hfiles, hfolders⟩ := arrange_eq_iff.1 h
        refine .shown hf hfiles fun sub hs =>
          forall₂_imp_of_mem (fun f hmem g => ?_) (hfolders sub hs)
        exact (ih f (List.mem_of_mem_filter hmem) (hsub hs f hmem)).1
    · intro h
      cases h with
      | hidden hf' => rw [hf] at hf'; cases hf'
      | shown hname hfiles hfolders =>
        refine arrange_eq_iff.2 ⟨rfl, hfiles, fun sub hs =>
          forall₂_imp_of_mem (fun f hmem g => ?_) (hfolders sub hs)⟩
        exact (ih f (List.mem_of_mem_filter hmem) (hsub hs f hmem)).2

theorem Alike.ignored_eq {ignored : String → Bool} {f g : Folder} (h : Alike ignored f g) :
    ignored f.name = ignored g.name := by
  cases h with
  | hidden hf hg => rw [hf, hg]
  | shown hname => rfl

theorem canonical_eq_iff_alike {ignored : String → Bool} {f g : Folder} :
    f.canonical ignored = g.canonical ignored ↔ Alike ignored f g := by
  rw [canonical_eq, canonical_eq]
  cases hf : ignored f.name with
  | true =>
    rw [if_pos rfl]
    constructor
    · intro h
      cases hg : ignored g.name with
      | true => exact .hidden hf hg
      | false => simp [hg] at h
    · intro h
      rw [← h.ignored_eq, hf, if_pos rfl]
  | false =>
    rw [if_neg Bool.false_ne_true, ← arrange_eq_iff_alike hf]
    constructor
    · intro h
      split_ifs at h
      exact Option.some.inj h
    · intro h
      have hname : g.name = f.name := by rw [← name_arrange ignored g, ← h, name_arrange]
      rw [hname, hf, if_neg Bool.false_ne_true, h]

/-! ## The text of a drawing -/

instance (way : List String) : Decidable (EndsWithFile way) :=
  inferInstanceAs (Decidable (∀ name ∈ way.getLast?, name.toList.getLast? ≠ some '/'))

/-- A folder whose drawing can be read: no name has a line feed in it, and no name of a file ends
with a slash. -/
structure IsLegible (f : Folder) : Prop where
  names : ∀ name ∈ f.names, '\n' ∉ name.toList
  files : ∀ way ∈ f.ways, EndsWithFile way

theorem eq_of_draw_eq {f g : Folder} (hf : ∀ way ∈ f.ways, EndsWithFile way)
    (hg : ∀ way ∈ g.ways, EndsWithFile way) (h : draw "" true f = draw "" true g) : f = g := by
  have hlabels := congrArg (List.map fun line => readLine line.toList) h
  rw [map_readLine_draw f isIndent_empty, map_readLine_draw g isIndent_empty] at hlabels
  exact eq_of_labels_eq hf hg hlabels

theorem canonical_eq_of_lines_eq {ignored : String → Bool} {f g : Folder} (hf : f.IsLegible)
    (hg : g.IsLegible) (h : f.lines ignored = g.lines ignored) :
    f.canonical ignored = g.canonical ignored := by
  have hways : ∀ {f : Folder}, f.IsLegible → ∀ way ∈ (arrange ignored f).ways, EndsWithFile way :=
    fun hf way hway => hf.files way ((mem_ways_arrange_iff ignored _ way).1 hway).1
  have hdrawn : ∀ f : Folder, draw "" true f ≠ [] := fun f => by cases f; simp [draw]
  unfold lines at h
  rw [canonical_eq, canonical_eq]
  split_ifs at h ⊢
  · rfl
  · exact absurd h.symm (hdrawn _)
  · exact absurd h (hdrawn _)
  · rw [eq_of_draw_eq (hways hf) (hways hg) h]

/-- A drawing loses and confuses nothing: two folders are drawn as the same text exactly if they
have the same canonical form, and they have it exactly if they differ only in the order of files, in
the order of subfolders of different names and in ignored folders. -/
theorem drawing_tells_canonical_form {ignored : String → Bool} {f g : Folder} (hf : f.IsLegible)
    (hg : g.IsLegible) :
    (f.render ignored = g.render ignored ↔ f.canonical ignored = g.canonical ignored) ∧
      (f.canonical ignored = g.canonical ignored ↔ Alike ignored f g) := by
  refine ⟨⟨fun h => ?_, render_eq_of_canonical_eq⟩, canonical_eq_iff_alike⟩
  have hlines := congrArg Text.givenLines h
  rw [givenLines_render hf.names, givenLines_render hg.names] at hlines
  exact canonical_eq_of_lines_eq hf hg hlines

/-- A folder with names that look like parts of a drawing. -/
def shelf : Folder :=
  mk "r" ["b.cs", "└──a.cs"]
    [mk "│   t" ["s/c"] [], mk "obj" ["x.cs"] [], mk "s/" [] [mk "s" [] []]]

def shuffled : Folder :=
  mk "r" ["└──a.cs", "b.cs"]
    [mk "s/" [] [mk "s" [] []], mk "│   t" ["s/c"] [], mk "obj" [] []]

def flattened : Folder :=
  mk "r" ["b.cs", "└──a.cs"]
    [mk "│   t" ["s/c"] [], mk "obj" ["x.cs"] [], mk "s/" [] [], mk "s" [] []]

theorem drawing_tells_canonical_form_shuffled :
    shelf.IsLegible ∧ shuffled.IsLegible ∧ flattened.IsLegible ∧
      shelf.render (· == "obj") = shuffled.render (· == "obj") ∧
      shelf.render (· == "obj") ≠ flattened.render (· == "obj") := by
  have hshelf : shelf.IsLegible := ⟨by decide +kernel, by decide +kernel⟩
  have hshuffled : shuffled.IsLegible := ⟨by decide +kernel, by decide +kernel⟩
  have hflattened : flattened.IsLegible := ⟨by decide +kernel, by decide +kernel⟩
  refine ⟨hshelf, hshuffled, hflattened, ?_, fun h => ?_⟩
  · refine (drawing_tells_canonical_form hshelf hshuffled).1.2 ?_
    simp [shelf, shuffled, canonical, canonicalAll, sortNames, sortFolders, List.mergeSort,
      List.MergeSort.Internal.splitInTwo, name]
  · have hsame := (drawing_tells_canonical_form hshelf hflattened).1.1 h
    simp [shelf, flattened, canonical, canonicalAll, sortNames, sortFolders, List.mergeSort,
      List.MergeSort.Internal.splitInTwo, name] at hsame

end Outline.Folder
