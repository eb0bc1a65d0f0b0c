import Outline.Proofs.FileSystem.Rooted
import Outline.Proofs.Source.Ways

set_option autoImplicit false

/-!
# Source files below a subfolder

Seen from a folder, the source files below one of its subfolders are those whose ways begin with the
way down to it. They stand in the same order as if they were looked for in the subfolder itself.
-/
namespace Outline

namespace Entry

variable {ignored opens : String → Bool} {counts : String → Entry → Bool} {path : String}

/-- A way that passes a folder goes on from there. -/
theorem offers_append_iff {e below : Entry} {down way : List String} (hway : way ≠ [])
    (hdown : e.find? down = some below) :
    e.Offers ignored opens counts path (down ++ way) ↔
      Passes ignored opens path down ∧
        below.Offers ignored opens counts (down.foldl Path.join path) way := by
  have hfind : ∀ rest, e.find? (down ++ rest) = below.find? rest := by
    intro rest
    rw [find?_append, hdown, Option.bind_some]
  constructor
  · rintro ⟨folders, name, found, heq, hpass, hf, hsource, hcounts⟩
    obtain ⟨rest, last, rfl⟩ := (List.eq_nil_or_concat' way).resolve_left hway
    rw [← List.append_assoc] at heq
    obtain ⟨hfolders, hlast⟩ := List.append_inj' heq rfl
    rw [List.cons.injEq] at hlast
    subst hfolders
    rw [hfind] at hf
    rw [List.foldl_append] at hcounts
    obtain ⟨hclear, hrest⟩ := passes_append_iff.1 hpass
    exact ⟨hclear, rest, last, found, rfl, hrest, hf, hlast.1 ▸ hsource, hcounts⟩
  · rintro ⟨hclear, rest, last, found, rfl, hpass, hf, hsource, hcounts⟩
    refine ⟨down ++ rest, last, found, ?_, passes_append_iff.2 ⟨hclear, hpass⟩, ?_, hsource, ?_⟩
    · rw [List.append_assoc]
    · rw [hfind, hf]
    · rwa [List.foldl_append]

end Entry

namespace Path

theorem ofSteps_append_le {a b : List String} (down : List String) (ha : a ≠ []) (hb : b ≠ [])
    (h : ofSteps a ≤ ofSteps b) : ofSteps (down ++ a) ≤ ofSteps (down ++ b) := by
  by_cases hdown : down = []
  · subst hdown
    exact h
  rw [ofSteps_append hdown ha, ofSteps_append hdown hb]
  by_cases heq : ofSteps a = ofSteps b
  · have hrefl := String.le_refl (ofSteps down ++ "/" ++ ofSteps b)
    exact heq ▸ hrefl
  · have hlt : (ofSteps a).toList < (ofSteps b).toList :=
      String.not_le.1 fun hba => heq (String.le_antisymm h hba)
    have happ : ofSteps down ++ "/" ++ ofSteps a < ofSteps down ++ "/" ++ ofSteps b := by
      change (ofSteps down ++ "/" ++ ofSteps a).toList < (ofSteps down ++ "/" ++ ofSteps b).toList
      simp only [String.toList_append]
      exact List.append_left_lt hlt
    exact (String.le_total _ _).resolve_right fun hba => hba happ

end Path

namespace Source

variable {fs : FileSystem} {here path : String} {ignored : String → Bool} {down : List String}
  {entries below : List (String × Entry)}

theorem mem_waysAmong_append_iff (h : (Entry.folder entries).isProper)
    (hdown : (Entry.folder entries).find? down = some (.folder below)) (way : List String) :
    down ++ way ∈ waysAmong fs here ignored path entries ↔
      Entry.Passes ignored (fs.isFolder here) path down ∧
        way ∈ waysAmong fs here ignored (down.foldl Path.join path) below := by
  have hbelow := Entry.isProper_of_find? h hdown
  rw [mem_waysAmong_iff h, mem_waysAmong_iff hbelow]
  by_cases hway : way = []
  · -- a folder is no source file
    subst hway
    rw [List.append_nil]
    constructor
    · rintro ⟨folders, name, found, -, -, hf, -, hcounts⟩
      rw [hdown, Option.some_inj] at hf
      subst hf
      cases hcounts
    · rintro ⟨-, hoffers⟩
      exact absurd rfl hoffers.unignored.1
  · exact Entry.offers_append_iff hway hdown

/-- A file that can be read at the end of a way is also found there from another normal path to the
same folder. -/
theorem offers_rooted {k k' : ℕ} {names way : List String} {e : Entry} {bytes : List UInt8}
    (hk : k ≤ 1) (hk' : k' ≤ 1) (hnames : ∀ name ∈ names, Path.IsPiece name) (he : e.isProper)
    (hread : fs.fileBytes here (way.foldl Path.join (Path.rooted k names)) = .ok bytes)
    (h : e.Offers ignored (fs.isFolder here) (countsAsFile fs here) (Path.rooted k names) way) :
    e.Offers ignored (fs.isFolder here) (countsAsFile fs here) (Path.rooted k' names) way := by
  have hpieces : ∀ name ∈ way, Path.IsPiece name := fun n hn => (h.isName he n hn).1
  obtain ⟨folders, name, found, rfl, hpass, hfound, hsource, hcounts⟩ := h
  obtain ⟨goal, mode, hlook⟩ := fs.fileBytes_eq_ok hread
  rw [Path.foldl_join_rooted k hnames hpieces] at hlook hcounts
  have hfault := FileSystem.pathFault?_of_lookUp hlook
  have hall : ∀ n ∈ names ++ (folders ++ [name]), Path.IsPiece n :=
    List.forall_mem_append.2 ⟨hnames, hpieces⟩
  refine ⟨folders, name, found, rfl, (Entry.passes_congr ?_).2 hpass, hfound, hsource, ?_⟩
  · -- the paths of the folders are shorter, so both of them are within the limits
    rintro front hne ⟨rest, rfl⟩
    have hfront : ∀ n ∈ names ++ front, Path.IsPiece n := fun n hn => hall n (by
      rw [← List.append_assoc, ← List.append_assoc]
      exact List.mem_append_left _ (List.mem_append_left _ hn))
    have hrest : ∀ n ∈ rest ++ [name], Path.IsPiece n := fun n hn => hpieces n (by
      rw [List.append_assoc]
      exact List.mem_append_right _ hn)
    have habove : ∀ l ≤ 1, FileSystem.pathFault? (Path.rooted l (names ++ front)) = none := by
      intro l hl
      refine FileSystem.pathFault?_rooted_above hl hrest (by simp) (k := k) ?_
      rw [← hfault]
      simp only [List.append_assoc]
    have hfrontOnly : ∀ n ∈ front, Path.IsPiece n := fun n hn =>
      hfront n (List.mem_append_right _ hn)
    rw [Path.foldl_join_rooted k hnames hfrontOnly, Path.foldl_join_rooted k' hnames hfrontOnly]
    exact fs.isFolder_rooted hfront (by simp [hne]) (habove k hk) (habove k' hk')
  · rw [Path.foldl_join_rooted k' hnames hpieces]
    cases found with
    | file bytes mode => rfl
    | folder below => cases hcounts
    | link target =>
      have hfile : fs.isFolder here (Path.rooted k (names ++ (folders ++ [name]))) = false := by
        rw [FileSystem.isFolder, hlook]
        rfl
      rw [countsAsFile, Bool.not_eq_true']
      cases hfault' : FileSystem.pathFault? (Path.rooted k' (names ++ (folders ++ [name]))) with
      | none => rw [fs.isFolder_rooted hall (by simp) hfault hfault', hfile]
      | some cause => simp only [FileSystem.isFolder, FileSystem.lookUp, FileSystem.locate, hfault']

/-- The ways that go on from a folder below another are the ways from it, if the files at their ends
can be read. -/
theorem mem_waysAmong_below_iff {folder : String} (hhere : Path.isAbsolute here)
    (hpath : ∃ given, path = Path.absolute here given)
    (hfolder : ∃ given, folder = Path.absolute here given)
    (hsteps : Path.steps folder = Path.steps path ++ down) (h : (Entry.folder entries).isProper)
    (hdown : (Entry.folder entries).find? down = some (.folder below))
    (hopens : Entry.Passes ignored (fs.isFolder here) path down)
    (hread : ∀ way ∈ waysAmong fs here ignored path entries,
      ∃ bytes, fs.fileBytes here (way.foldl Path.join path) = .ok bytes)
    (hread' : ∀ way ∈ waysAmong fs here ignored folder below,
      ∃ bytes, fs.fileBytes here (way.foldl Path.join folder) = .ok bytes) (way : List String) :
    down ++ way ∈ waysAmong fs here ignored path entries ↔
      way ∈ waysAmong fs here ignored folder below := by
  have hbelow := Entry.isProper_of_find? h hdown
  have hpieces : ∀ name ∈ down, Path.IsPiece name := fun n hn =>
    (Entry.isName_of_find? h hdown n hn).1
  have hnames : ∀ name ∈ Path.steps path ++ down, Path.IsPiece name :=
    List.forall_mem_append.2 ⟨fun _ hn => Path.isPiece_of_mem_steps hn, hpieces⟩
  obtain ⟨k, hk, hroot⟩ := Path.exists_eq_rooted hhere hpath
  obtain ⟨k', hk', hrooted⟩ := Path.exists_eq_rooted hhere hfolder
  have hfold : down.foldl Path.join path = Path.rooted k (Path.steps path ++ down) := by
    rw [hroot, Path.foldl_join_rooted k (fun _ hn => Path.isPiece_of_mem_steps hn) hpieces,
      ← hroot]
  rw [hsteps] at hrooted
  constructor
  · intro hway
    obtain ⟨bytes, hbytes⟩ := hread _ hway
    have hoffers := ((mem_waysAmong_append_iff h hdown way).1 hway).2
    rw [List.foldl_append, hfold] at hbytes
    rw [hfold, mem_waysAmong_iff hbelow] at hoffers
    rw [hrooted, mem_waysAmong_iff hbelow]
    exact offers_rooted hk hk' hnames hbelow hbytes hoffers
  · intro hway
    obtain ⟨bytes, hbytes⟩ := hread' _ hway
    rw [hrooted] at hbytes hway
    rw [mem_waysAmong_iff hbelow] at hway
    rw [mem_waysAmong_append_iff h hdown, hfold, mem_waysAmong_iff hbelow]
    exact ⟨hopens, offers_rooted hk' hk hnames hbelow hbytes hway⟩

/-- If the ways from a folder are those that begin with the way down to another one, they stand in
the same order. -/
theorem filter_sortWays {below : List (List String)} (h : (Entry.folder entries).isProper)
    (hnodup : below.Nodup) (hne : ∀ way ∈ below, way ≠ [])
    (hmem : ∀ way, down ++ way ∈ waysAmong fs here ignored path entries ↔ way ∈ below) :
    (sortWays (waysAmong fs here ignored path entries)).filter (down.isPrefixOf ·) =
      (sortWays below).map (down ++ ·) := by
  have hways : ∀ way ∈ waysAmong fs here ignored path entries, ∀ name ∈ way, Path.IsPiece name :=
    fun way hway name hn => (((mem_waysAmong_iff h path way).1 hway).isName h name hn).1
  have hfilter : ∀ way,
      way ∈ (waysAmong fs here ignored path entries).filter (down.isPrefixOf ·) ↔
        way ∈ below.map (down ++ ·) := by
    intro way
    simp only [List.mem_filter, List.isPrefixOf_iff_prefix, List.mem_map]
    constructor
    · rintro ⟨hway, rest, rfl⟩
      exact ⟨rest, (hmem rest).1 hway, rfl⟩
    · rintro ⟨rest, hrest, rfl⟩
      exact ⟨(hmem rest).2 hrest, List.prefix_append _ _⟩
  have hperm := (List.perm_ext_iff_of_nodup ((nodup_waysAmong h path).filter _)
    (hnodup.map (List.append_right_injective down))).2 hfilter
  -- both sides have the same elements and are sorted
  refine List.Perm.eq_of_pairwise ?_ ((pairwise_sortWays _).filter _) ?_
    (((sortWays_perm _).filter _).trans (hperm.trans ((sortWays_perm _).symm.map _)))
  · intro a b ha hb hab hba
    have hl := hways a ((sortWays_perm _).mem_iff.1 (List.mem_filter.1 ha).1)
    have hr := hways b (List.mem_filter.1 ((hfilter b).2 ?_)).1
    · exact ofSteps_inj hl hr (String.le_antisymm hab hba)
    · exact ((sortWays_perm _).map _).mem_iff.1 hb
  · rw [List.pairwise_map]
    refine (pairwise_sortWays _).imp_of_mem fun {a b} ha hb hab => ?_
    exact Path.ofSteps_append_le down (hne a ((sortWays_perm _).mem_iff.1 ha))
      (hne b ((sortWays_perm _).mem_iff.1 hb)) hab

theorem filter_sortWays_of_ignored (h : (Entry.folder entries).isProper)
    (hdown : (Entry.folder entries).find? down = some (.folder below))
    (hign : ∃ folder ∈ down, ignored folder) :
    (sortWays (waysAmong fs here ignored path entries)).filter (down.isPrefixOf ·) = [] := by
  obtain ⟨folder, hfolder, hi⟩ := hign
  rw [List.filter_eq_nil_iff]
  intro way hway hstarts
  obtain ⟨rest, rfl⟩ := List.isPrefixOf_iff_prefix.1 hstarts
  have hmem := (sortWays_perm _).mem_iff.1 hway
  have hpass := ((mem_waysAmong_append_iff h hdown rest).1 hmem).1
  rw [hpass.unignored folder hfolder] at hi
  cases hi

end Source

end Outline
