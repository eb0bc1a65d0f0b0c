import Outline.Proofs.FileSystem.Differ
import Outline.Proofs.Folder.Agreement

set_option autoImplicit false

/-!
# What a snapshot does not see

A snapshot is put together from the entries of a folder in the order of their names. It depends
neither on the order in which the folder has them nor on entries that contribute nothing. So it is
the same in two file systems that differ only at such entries, unless a link tells them apart.
-/
namespace Outline.Folder

/-! ## Parts that contribute nothing -/

def Shown.isPresent : Shown → Bool
  | nothing => false
  | _ => true

/-- Whether a part changes the snapshot that it belongs to. -/
def contributes : String × Except FileError Shown → Bool
  | (_, .ok s) => s.isPresent
  | (_, .error _) => true

theorem collect_filter (parts : List (String × Except FileError Shown)) :
    collect ((parts.filter contributes).map (·.2)) =
      (collect (parts.map (·.2))).map (List.filter Shown.isPresent) := by
  induction parts with
  | nil => rfl
  | cons part parts ih =>
    obtain ⟨name, e | s⟩ := part
    · rfl
    · cases hs : s.isPresent <;> rw [List.filter_cons, contributes, hs]
      · rw [if_neg Bool.false_ne_true, ih, List.map_cons, collect]
        cases collect (parts.map (·.2)) <;> simp [Except.map, hs]
      · rw [if_pos rfl, List.map_cons, List.map_cons, collect, collect, ih]
        cases collect (parts.map (·.2)) <;> simp [Except.map, hs]

theorem mk_filter (name : String) (shown : List Shown) :
    mk name ((shown.filter Shown.isPresent).filterMap Shown.file?)
        ((shown.filter Shown.isPresent).filterMap Shown.folder?) =
      mk name (shown.filterMap Shown.file?) (shown.filterMap Shown.folder?) := by
  rw [List.filterMap_filter, List.filterMap_filter]
  congr 2 <;> · funext s; cases s <;> rfl

/-- A snapshot needs only the parts that contribute to it. -/
theorem assemble_eq_filter (name : String) (parts : List (String × Except FileError Shown)) :
    assemble name parts =
      (collect (((parts.mergeSort fun a b => decide (a.1 ≤ b.1)).filter contributes).map
        (·.2))).map fun shown =>
          mk name (shown.filterMap Shown.file?) (shown.filterMap Shown.folder?) := by
  simp only [assemble, collect_filter]
  cases collect ((parts.mergeSort fun a b => decide (a.1 ≤ b.1)).map (·.2)) with
  | error e => rfl
  | ok shown => exact congrArg Except.ok (mk_filter name shown).symm

theorem pairwise_sorted {α : Type} (parts : List (String × α)) :
    (parts.mergeSort fun a b => decide (a.1 ≤ b.1)).Pairwise fun a b => a.1 ≤ b.1 := by
  have h := List.pairwise_mergeSort
    (fun (a b c : String × α) (hab : decide (a.1 ≤ b.1) = true) hbc =>
      decide_eq_true (String.le_trans (of_decide_eq_true hab) (of_decide_eq_true hbc)))
    (fun a b => by simpa using String.le_total a.1 b.1) parts
  exact h.imp of_decide_eq_true

/-- With one part for each name, a snapshot depends only on which parts contribute. -/
theorem assemble_eq_of_mem_iff (name : String) {a b : List (String × Except FileError Shown)}
    (ha : (a.map Prod.fst).Nodup) (hb : (b.map Prod.fst).Nodup)
    (hmem : ∀ part, contributes part → (part ∈ b ↔ part ∈ a)) :
    assemble name b = assemble name a := by
  rw [assemble_eq_filter, assemble_eq_filter]
  congr 3
  -- both lists are sorted by names that are not repeated, so it is enough that one permutes the
  -- other
  have hperm : ((b.mergeSort fun x y => decide (x.1 ≤ y.1)).filter contributes).Perm
      ((a.mergeSort fun x y => decide (x.1 ≤ y.1)).filter contributes) := by
    refine ((List.mergeSort_perm b _).filter _).trans
      (List.Perm.trans ?_ ((List.mergeSort_perm a _).filter _).symm)
    rw [List.perm_ext_iff_of_nodup (hb.of_map.filter _) (ha.of_map.filter _)]
    intro part
    rw [List.mem_filter, List.mem_filter]
    exact and_congr_left (hmem part)
  refine List.Perm.eq_of_pairwise ?_ ((pairwise_sorted b).filter _) ((pairwise_sorted a).filter _)
    hperm
  intro x y hx hy hxy hyx
  have hx' := List.mem_mergeSort.1 (List.mem_of_mem_filter (hperm.mem_iff.1 hx))
  have hy' := List.mem_mergeSort.1 (List.mem_of_mem_filter hy)
  exact List.inj_on_of_nodup_map ha hx' hy' (String.le_antisymm hxy hyx)

/-! ## Two file systems -/

variable {fs fs' : FileSystem} {away : Location → Prop} {here base : String}
  {ignored : String → Bool} {top : Location}

theorem mem_showEntries_iff {place : Location} {entries : List (String × Entry)} (hfs : fs.isProper)
    (hplace : fs.at? place = some (.folder entries)) (path name : String)
    (part : Except FileError Shown) : (name, part) ∈ showEntries fs here ignored path entries ↔
      ∃ e, fs.at? (place ++ [name]) = some e ∧ part = showEntry fs here ignored path name e := by
  have hnames := ((Entry.isProper_folder entries).1 (fs.isProper_of_at? hfs hplace)).2.1
  simp only [showEntries_eq_map, List.mem_map, ← fs.lookup_eq_of_at? hplace,
    Entry.lookup_eq_some_iff_mem hnames]
  constructor
  · rintro ⟨⟨first, e⟩, hx, heq⟩
    cases heq
    exact ⟨e, hx, rfl⟩
  · rintro ⟨e, hx, rfl⟩
    exact ⟨(name, e), hx, rfl⟩

theorem nodup_showEntries {place : Location} {entries : List (String × Entry)} (hfs : fs.isProper)
    (hplace : fs.at? place = some (.folder entries)) (path : String) :
    ((showEntries fs here ignored path entries).map Prod.fst).Nodup := by
  have hnames := ((Entry.isProper_folder entries).1 (fs.isProper_of_at? hfs hplace)).2.1
  simpa [showEntries_eq_map, List.map_map, Function.comp_def] using hnames

/-- A link shows the same in both file systems if its path avoids the places where they differ. -/
theorem showEntry_link_eq (h : fs.DifferAt away fs')
    (hhere : ∀ loc, away loc → fs.IsWorkingFolder here) {path name : String}
    (ha : fs.PathAvoids away here (Path.join path name)) (target : String) :
    showEntry fs' here ignored path name (.link target) =
      showEntry fs here ignored path name (.link target) := by
  rw [showEntry, showEntry]
  rcases h.lookUp_cases hhere ha with ⟨e, hl, hl'⟩ | ⟨goal, e, e', hl, hl', hbare⟩
  · rw [hl, hl']
  · rw [hl, hl']
    cases e <;> cases e' <;> cases hbare <;> rfl

/-- What is shown below a folder is the same in two file systems as far as it depends on links, and
nothing is shown where they differ. -/
structure ShowsSame (fs fs' : FileSystem) (away : Location → Prop) (here : String)
    (ignored : String → Bool) (base : String) (top : Location) : Prop where
  link : ∀ folders name target, (∀ folder ∈ folders, ignored folder = false) →
    ¬ away (top ++ folders ++ [name]) → fs.at? (top ++ folders ++ [name]) = some (.link target) →
    showEntry fs' here ignored (folders.foldl Path.join base) name (.link target) =
      showEntry fs here ignored (folders.foldl Path.join base) name (.link target)
  quiet : ∀ folders name e, (∀ folder ∈ folders, ignored folder = false) →
    away (top ++ folders ++ [name]) → fs.at? (top ++ folders ++ [name]) = some e →
    showEntry fs here ignored (folders.foldl Path.join base) name e = .ok .nothing
  quiet' : ∀ folders name e, (∀ folder ∈ folders, ignored folder = false) →
    away (top ++ folders ++ [name]) → fs'.at? (top ++ folders ++ [name]) = some e →
    showEntry fs' here ignored (folders.foldl Path.join base) name e = .ok .nothing

section Same

variable (hfs : fs.isProper) (hfs' : fs'.isProper) (h : fs.DifferAt away fs')
  (hhere : ∀ loc, away loc → fs.IsWorkingFolder here) (ha : fs.PathAvoids away here base)

include hfs h hhere ha

/-- An entry at which the file systems do not differ contributes the same, if what is below it is
put together in the same way. -/
theorem showEntry_eq {found : List (String × Entry)}
    (hl : fs.listFolder here base = .ok (top, found))
    (hs : ShowsSame fs fs' away here ignored base top) {folders : List String} {name : String}
    {e e' : Entry} (hfolders : ∀ folder ∈ folders, ignored folder = false)
    (haway : ¬ away (top ++ folders ++ [name])) (he : fs.at? (top ++ folders ++ [name]) = some e)
    (hbare : e'.bare = e.bare)
    (hbelow : ∀ inner inner', e = .folder inner → e' = .folder inner' → ignored name = false →
      assemble name
          (showEntries fs' here ignored ((folders ++ [name]).foldl Path.join base) inner') =
        assemble name
          (showEntries fs here ignored ((folders ++ [name]).foldl Path.join base) inner)) :
    showEntry fs' here ignored (folders.foldl Path.join base) name e' =
      showEntry fs here ignored (folders.foldl Path.join base) name e := by
  cases e with
  | file bytes mode => rw [Entry.eq_of_bare_eq hbare rfl]; rfl
  | link target =>
    rw [Entry.eq_of_bare_eq hbare rfl]
    exact hs.link folders name target hfolders haway he
  | folder inner =>
    obtain ⟨inner', rfl⟩ := Entry.bare_eq_folder hbare
    rw [showEntry, showEntry]
    cases hi : ignored name with
    | true => rfl
    | false =>
      have hjoin : Path.join (folders.foldl Path.join base) name =
          (folders ++ [name]).foldl Path.join base := by simp
      have hopen := h.listFolder_cases hhere (h.pathAvoids_folder_below hfs hl ha he)
      rw [hjoin, hbelow inner inner' rfl rfl hi]
      rcases hopen with ⟨e, hopen, hopen'⟩ | ⟨_, _, _, hopen, hopen'⟩ <;> rw [hopen, hopen']

include hfs'

/-- The folders at one place are put together in the same way. -/
theorem assemble_showEntries_eq {found : List (String × Entry)}
    (hl : fs.listFolder here base = .ok (top, found))
    (hs : ShowsSame fs fs' away here ignored base top) {e : Entry} {folders : List String}
    {entries entries' : List (String × Entry)} (he : e = .folder entries)
    (hfolders : ∀ folder ∈ folders, ignored folder = false)
    (hat : fs.at? (top ++ folders) = some (.folder entries))
    (hat' : fs'.at? (top ++ folders) = some (.folder entries')) (name : String) :
    assemble name (showEntries fs' here ignored (folders.foldl Path.join base) entries') =
      assemble name (showEntries fs here ignored (folders.foldl Path.join base) entries) := by
  -- by induction on the folder in the first file system; the second has a folder wherever it has
  induction e generalizing folders entries entries' name with
  | file bytes mode => cases he
  | link target => cases he
  | folder below ih =>
    cases he
    refine assemble_eq_of_mem_iff name (nodup_showEntries hfs hat _)
      (nodup_showEntries hfs' hat' _) ?_
    rintro ⟨first, part⟩ hpart
    rw [mem_showEntries_iff hfs hat, mem_showEntries_iff hfs' hat']
    by_cases haway : away (top ++ folders ++ [first])
    · -- what stands here contributes to neither snapshot
      constructor
      · rintro ⟨e, he, rfl⟩
        rw [hs.quiet' folders first e hfolders haway he] at hpart
        cases hpart
      · rintro ⟨e, he, rfl⟩
        rw [hs.quiet folders first e hfolders haway he] at hpart
        cases hpart
    · have hb := h.same _ haway
      cases he : fs.at? (top ++ folders ++ [first]) with
      | none =>
        rw [FileSystem.at?_eq_none_of_bareAt? hb he]
        simp
      | some e =>
        obtain ⟨e', he', hbare⟩ := FileSystem.exists_of_bareAt? hb he
        have hsame : showEntry fs' here ignored (folders.foldl Path.join base) first e' =
            showEntry fs here ignored (folders.foldl Path.join base) first e := by
          refine showEntry_eq hfs h hhere ha hl hs hfolders haway he hbare ?_
          rintro inner inner' rfl rfl hi
          have hnames := ((Entry.isProper_folder below).1 (fs.isProper_of_at? hfs hat)).2.1
          have hmem := he
          rw [← fs.lookup_eq_of_at? hat, Entry.lookup_eq_some_iff_mem hnames] at hmem
          have hdeeper : ∀ folder ∈ folders ++ [first], ignored folder = false :=
            List.forall_mem_append.2 ⟨hfolders, List.forall_mem_singleton.2 hi⟩
          rw [List.append_assoc] at he he'
          exact ih _ hmem rfl hdeeper he he' first
        simp only [he', Option.some.injEq, exists_eq_left', hsame]

/-- A path that avoids the places where two file systems differ has the same snapshot in both, if
they show the same below the folder that it leads to. -/
theorem snapshot_eq (hs : ∀ top entries, ignored (ownName here base) = false →
      fs.listFolder here base = .ok (top, entries) →
      ShowsSame fs fs' away here ignored base top) :
    snapshot fs' here ignored base = snapshot fs here ignored base := by
  simp only [snapshot]
  cases hname : ignored (ownName here base) with
  | true => rfl
  | false =>
    rw [if_neg Bool.false_ne_true, if_neg Bool.false_ne_true]
    rcases h.listFolder_cases hhere ha with ⟨e, hl, hl'⟩ | ⟨top, entries, entries', hl, hl'⟩
    · rw [hl, hl']
      rfl
    · have hat := fs.at?_of_listFolder hl
      have hat' := fs'.at?_of_listFolder hl'
      rw [← List.append_nil top] at hat hat'
      have heq := assemble_showEntries_eq hfs hfs' h hhere ha hl (hs top entries hname hl) rfl
        (List.forall_mem_nil _) hat hat' (ownName here base)
      rw [hl, hl']
      exact heq

end Same

end Outline.Folder
