import Outline.Proofs.Folder.Canonical
import Outline.Proofs.Folder.Unseen

set_option autoImplicit false

/-!
# Snapshots that look into everything

A snapshot does not look into ignored folders. It is what remains of the full snapshot, which looks
into every folder, when ignored folders are cut down to their names. A drawing leaves out ignored
folders anyway, so it cannot tell the two apart.
-/
namespace Outline.Folder

/-- The snapshot that looks into every folder. -/
def fullSnapshot (fs : FileSystem) (here path : String) : Except FileError Folder :=
  snapshot fs here (fun _ => false) path

/-- A folder stands somewhere in another one, or is that one. -/
inductive Within (f : Folder) : Folder → Prop
  | self : Within f f
  | deeper {g sub : Folder} (hsub : sub ∈ g.folders) (h : Within f sub) : Within f g

mutual

/-- Cuts ignored folders down to their names. -/
def prune (ignored : String → Bool) : Folder → Folder
  | mk name files folders =>
    if ignored name then bare name else mk name files (pruneAll ignored folders)

def pruneAll (ignored : String → Bool) : List Folder → List Folder
  | [] => []
  | f :: rest => prune ignored f :: pruneAll ignored rest

end

theorem pruneAll_eq_map (ignored : String → Bool) (folders : List Folder) :
    pruneAll ignored folders = folders.map (prune ignored) := by
  induction folders with
  | nil => rfl
  | cons f folders ih => rw [pruneAll, ih, List.map_cons]

theorem prune_of_ignored {ignored : String → Bool} {f : Folder} (h : ignored f.name) :
    prune ignored f = bare f.name := by
  cases f
  exact if_pos h

theorem prune_mk {ignored : String → Bool} {name : String} (h : ignored name = false)
    (files : List String) (folders : List Folder) :
    prune ignored (mk name files folders) = mk name files (folders.map (prune ignored)) := by
  rw [prune, if_neg (by simp [h]), pruneAll_eq_map]

theorem canonicalAll_eq_flatMap (ignored : String → Bool) (folders : List Folder) :
    canonicalAll ignored folders = folders.flatMap fun f => (canonical ignored f).toList := by
  induction folders with
  | nil => rfl
  | cons f folders ih => rw [canonicalAll, ih, List.flatMap_cons]

theorem canonical_prune (ignored : String → Bool) (f : Folder) :
    (prune ignored f).canonical ignored = f.canonical ignored := by
  induction f with
  | mk name files folders ih =>
    cases hname : ignored name with
    | true =>
      rw [prune_of_ignored hname]
      simp [bare, canonical, hname, Folder.name]
    | false =>
      rw [prune_mk hname, canonical, canonical, canonicalAll_eq_flatMap, canonicalAll_eq_flatMap,
        List.flatMap_map]
      have hall : (folders.flatMap fun f => (canonical ignored (prune ignored f)).toList) =
          folders.flatMap fun f => (canonical ignored f).toList :=
        List.flatMap_congr fun f hf => by rw [ih f hf]
      rw [hall]

/-! ## Looking into fewer folders -/

/-- What an entry shows when ignored folders are cut down. -/
def Shown.prune (ignored : String → Bool) : Shown → Shown
  | folder f => folder (f.prune ignored)
  | shown => shown

theorem collect_map_ok {α : Type} (items : List α) : collect (items.map .ok) = .ok items := by
  induction items with
  | nil => rfl
  | cons first items ih =>
    rw [List.map_cons, collect, ih]
    rfl

/-- A folder is put together if every entry can be shown. -/
theorem assemble_eq_ok_iff {name : String} {parts : List (String × Except FileError Shown)}
    {f : Folder} : assemble name parts = .ok f ↔ ∃ shown : List Shown,
      (parts.mergeSort fun a b => decide (a.1 ≤ b.1)).map (·.2) = shown.map .ok ∧
      f = .mk name (shown.filterMap Shown.file?) (shown.filterMap Shown.folder?) := by
  unfold assemble
  constructor
  · intro h
    cases hc : collect ((parts.mergeSort fun a b => decide (a.1 ≤ b.1)).map (·.2)) with
    | error e =>
      simp only [hc] at h
      cases h
    | ok shown =>
      simp only [hc] at h
      cases h
      exact ⟨shown, collect_eq_ok hc, rfl⟩
  · rintro ⟨shown, hsorted, rfl⟩
    simp only [hsorted, collect_map_ok]
    rfl

theorem filterMap_file?_prune (ignored : String → Bool) (shown : List Shown) :
    (shown.map (Shown.prune ignored)).filterMap Shown.file? = shown.filterMap Shown.file? := by
  rw [List.filterMap_map]
  congr 1
  funext s
  cases s <;> rfl

theorem filterMap_folder?_prune (ignored : String → Bool) (shown : List Shown) :
    (shown.map (Shown.prune ignored)).filterMap Shown.folder? =
      (shown.filterMap Shown.folder?).map (Folder.prune ignored) := by
  rw [List.filterMap_map, List.map_filterMap]
  congr 1
  funext s
  cases s <;> rfl

theorem assemble_prune {ignored : String → Bool} {name : String}
    {parts parts' : List (String × Except FileError Shown)} {files : List String}
    {folders : List Folder}
    (hparts : parts' = parts.map fun part => (part.1, part.2.map (Shown.prune ignored)))
    (h : assemble name parts = .ok (.mk name files folders)) :
    assemble name parts' = .ok (.mk name files (folders.map (prune ignored))) := by
  obtain ⟨shown, hsorted, hf⟩ := assemble_eq_ok_iff.1 h
  simp only [mk.injEq, true_and] at hf
  refine assemble_eq_ok_iff.2 ⟨shown.map (Shown.prune ignored), ?_, ?_⟩
  · have hmap := congrArg (List.map (Except.map (Shown.prune ignored))) hsorted
    rw [List.map_map, List.map_map] at hmap
    rw [hparts, ← List.map_mergeSort (r := fun a b => decide (a.1 ≤ b.1))
      (fun _ _ _ _ => rfl), List.map_map, List.map_map]
    exact hmap
  · rw [filterMap_file?_prune, filterMap_folder?_prune, hf.1, hf.2]

variable {fs : FileSystem} {here : String} {ignored : String → Bool}

/-- Below an entry, looking into fewer folders shows the full picture cut down. -/
def ShowsPruned (fs : FileSystem) (here : String) (ignored : String → Bool) (e : Entry) : Prop :=
  ∀ (path name : String) (s : Shown),
    showEntry fs here (fun _ => false) path name e = .ok s →
      showEntry fs here ignored path name e = .ok (s.prune ignored)

theorem assemble_showEntries_prune {entries : List (String × Entry)}
    (h : ∀ x ∈ entries, ShowsPruned fs here ignored x.2) {path name : String}
    {f : Folder} (hname : ignored name = false)
    (hf : assemble name (showEntries fs here (fun _ => false) path entries) = .ok f) :
    assemble name (showEntries fs here ignored path entries) = .ok (f.prune ignored) := by
  obtain ⟨shown, rfl, hperm⟩ := assemble_eq_ok hf
  rw [prune_mk hname]
  refine assemble_prune ?_ hf
  rw [showEntries_eq_map, showEntries_eq_map, List.map_map]
  refine List.map_congr_left fun x hx => ?_
  -- since the folder could be put together, every entry of it could be shown
  rw [showEntries_eq_map, List.map_map] at hperm
  obtain ⟨s, -, hs⟩ := List.mem_map.1 (hperm.mem_iff.2 (List.mem_map_of_mem hx))
  simp only [Function.comp_apply] at hs ⊢
  rw [h x hx path x.1 s hs.symm, ← hs]
  rfl

theorem showsPruned_of_leaf {e : Entry} (he : e.isFolder = false) :
    ShowsPruned fs here ignored e := by
  intro path name s hs
  rw [showEntry_of_leaf he ignored (fun _ => false), hs]
  rcases eq_of_showEntry_leaf he hs with rfl | rfl <;> rfl

theorem showsPruned (e : Entry) : ShowsPruned fs here ignored e := by
  induction e with
  | file bytes mode => exact showsPruned_of_leaf rfl
  | link target => exact showsPruned_of_leaf rfl
  | folder entries ih =>
    intro path name s hs
    obtain ⟨hopens, f, rfl, ha⟩ := showEntry_folder_eq_ok rfl hs
    rw [showEntry, Shown.prune]
    have hown : f.name = name := by
      obtain ⟨shown, rfl, -⟩ := assemble_eq_ok ha
      rfl
    cases hname : ignored name with
    | true => rw [if_pos rfl, prune_of_ignored (hown ▸ hname), hown]
    | false =>
      obtain ⟨place, opened, hl⟩ := fs.exists_listFolder_of_isFolder hopens
      rw [if_neg Bool.false_ne_true, hl, assemble_showEntries_prune ih hname ha]
      rfl

theorem snapshot_eq_prune {path : String} {f : Folder}
    (h : fullSnapshot fs here path = .ok f) :
    snapshot fs here ignored path = .ok (f.prune ignored) := by
  obtain ⟨place, entries, hl, ha⟩ := exists_listFolder_of_snapshot rfl h
  unfold snapshot
  simp only
  have hown : f.name = ownName here path := by
    obtain ⟨shown, rfl, -⟩ := assemble_eq_ok ha
    rfl
  cases hname : ignored (ownName here path) with
  | true => rw [if_pos rfl, prune_of_ignored (hown ▸ hname), hown]
  | false =>
    rw [if_neg Bool.false_ne_true, hl]
    exact assemble_showEntries_prune (fun x _ => showsPruned x.2) hname ha

/-! ## What a snapshot looks like -/

/-- Ignored folders are empty, and names increase. -/
structure IsTidy (ignored : String → Bool) (f : Folder) : Prop where
  bare : ignored f.name → f.files = [] ∧ f.folders = []
  files : f.files.Pairwise (· < ·)
  folders : (f.folders.map name).Pairwise (· < ·)

theorem isTidy_bare (ignored : String → Bool) (name : String) :
    ∀ f : Folder, f.Within (bare name) → f.IsTidy ignored := by
  intro f h
  cases h with
  | self => exact ⟨fun _ => ⟨rfl, rfl⟩, .nil, .nil⟩
  | deeper hsub _ => cases hsub

/-- The name of what an entry shows. -/
def Shown.name? : Shown → Option String
  | file name => some name
  | folder f => some f.name
  | nothing => none

theorem sublist_filterMap_name? (shown : List Shown) :
    (shown.filterMap Shown.file?).Sublist (shown.filterMap Shown.name?) ∧
      ((shown.filterMap Shown.folder?).map name).Sublist (shown.filterMap Shown.name?) := by
  induction shown with
  | nil => exact ⟨.slnil, .slnil⟩
  | cons s shown ih =>
    cases s with
    | nothing => exact ih
    | file name => exact ⟨ih.1.cons_cons name, ih.2.cons name⟩
    | folder f => exact ⟨ih.1.cons f.name, ih.2.cons_cons f.name⟩

theorem name?_showEntry {e : Entry} {path name : String} {s : Shown}
    (h : showEntry fs here ignored path name e = .ok s) : ∀ own ∈ s.name?, own = name := by
  cases hfolder : e.isFolder with
  | false => rcases eq_of_showEntry_leaf hfolder h with rfl | rfl <;> simp [Shown.name?]
  | true =>
    cases e with
    | file bytes mode => cases hfolder
    | link target => cases hfolder
    | folder entries =>
      cases hname : ignored name with
      | true =>
        rw [showEntry, if_pos hname] at h
        cases h
        simp [Shown.name?, bare, Folder.name]
      | false =>
        obtain ⟨-, f, rfl, ha⟩ := showEntry_folder_eq_ok hname h
        obtain ⟨shown, rfl, -⟩ := assemble_eq_ok ha
        simp [Shown.name?, Folder.name]

theorem pairwise_name?_of_sorted {entries : List (String × Entry)}
    (hnames : (entries.map Prod.fst).Nodup) {path : String} {shown : List Shown}
    (h : ((showEntries fs here ignored path entries).mergeSort fun a b => decide (a.1 ≤ b.1)).map
      (·.2) = shown.map .ok) : (shown.filterMap Shown.name?).Pairwise (· < ·) := by
  have hnodup : ((showEntries fs here ignored path entries).map Prod.fst).Nodup := by
    simpa [showEntries_eq_map, Function.comp_def] using hnames
  have hperm := List.mergeSort_perm (showEntries fs here ignored path entries)
    fun a b => decide (a.1 ≤ b.1)
  have hsorted := (pairwise_sorted (showEntries fs here ignored path entries)).and
    (List.pairwise_map.1 ((hperm.map Prod.fst).nodup_iff.2 hnodup))
  -- each part has the name of its entry, so the order of the parts is the order of the names
  have hparts : (((showEntries fs here ignored path entries).mergeSort
      fun a b => decide (a.1 ≤ b.1)).map (·.2)).Pairwise fun r r' => ∀ s s', r = .ok s →
        r' = .ok s' → ∀ own ∈ s.name?, ∀ own' ∈ s'.name?, own < own' := by
    rw [List.pairwise_map]
    refine hsorted.imp_of_mem ?_
    rintro a b ha hb ⟨hle, hne⟩ s s' hs hs' own hown own' hown'
    rw [hperm.mem_iff, showEntries_eq_map, List.mem_map] at ha hb
    obtain ⟨x, -, rfl⟩ := ha
    obtain ⟨y, -, rfl⟩ := hb
    rw [name?_showEntry hs own hown, name?_showEntry hs' own' hown']
    exact String.not_le.1 fun hyx => hne (String.le_antisymm hle hyx)
  rw [h, List.pairwise_map] at hparts
  rw [List.pairwise_filterMap]
  exact hparts.imp fun hab own hown own' hown' => hab _ _ rfl rfl own hown own' hown'

/-- In what an entry shows, every folder is tidy. -/
def ShowsTidy (fs : FileSystem) (here : String) (ignored : String → Bool) (e : Entry) : Prop :=
  ∀ (path name : String) (f : Folder),
    showEntry fs here ignored path name e = .ok (.folder f) →
      ∀ g : Folder, g.Within f → g.IsTidy ignored

theorem isTidy_of_assemble {entries : List (String × Entry)}
    (hnames : (entries.map Prod.fst).Nodup) (h : ∀ x ∈ entries, ShowsTidy fs here ignored x.2)
    {path name : String} {f : Folder} (hname : ignored name = false)
    (hf : assemble name (showEntries fs here ignored path entries) = .ok f) :
    ∀ g : Folder, g.Within f → g.IsTidy ignored := by
  obtain ⟨shown, hsorted, rfl⟩ := assemble_eq_ok_iff.1 hf
  intro g hg
  cases hg with
  | self =>
    have hpairwise := pairwise_name?_of_sorted hnames hsorted
    obtain ⟨hfiles, hfolders⟩ := sublist_filterMap_name? shown
    refine ⟨fun hign => ?_, hpairwise.sublist hfiles, hpairwise.sublist hfolders⟩
    rw [Folder.name, hname] at hign
    cases hign
  | deeper hsub hwithin =>
    obtain ⟨s, hs, hfolder⟩ := List.mem_filterMap.1 hsub
    cases s <;> cases hfolder
    have hmem := List.mem_map_of_mem (f := @Except.ok FileError Shown) hs
    rw [← hsorted] at hmem
    obtain ⟨part, hpart, hok⟩ := List.mem_map.1 hmem
    rw [List.mem_mergeSort, showEntries_eq_map] at hpart
    obtain ⟨x, hx, rfl⟩ := List.mem_map.1 hpart
    exact h x hx path x.1 _ hok g hwithin

theorem showsTidy_of_leaf {e : Entry} (he : e.isFolder = false) : ShowsTidy fs here ignored e := by
  intro path name f hs
  rcases eq_of_showEntry_leaf he hs with h | h <;> cases h

theorem showsTidy {e : Entry} (he : e.isProper) : ShowsTidy fs here ignored e := by
  induction e with
  | file bytes mode => exact showsTidy_of_leaf rfl
  | link target => exact showsTidy_of_leaf rfl
  | folder entries ih =>
    intro path name f hs
    rw [Entry.isProper_folder] at he
    cases hname : ignored name with
    | true =>
      rw [showEntry, if_pos hname] at hs
      cases hs
      exact isTidy_bare ignored name
    | false =>
      obtain ⟨-, g, hg, ha⟩ := showEntry_folder_eq_ok hname hs
      cases hg
      exact isTidy_of_assemble he.2.1 (fun x hx => ih x hx (he.2.2 x hx)) hname ha

theorem isTidy_of_snapshot {path : String} {f : Folder} (hfs : fs.isProper)
    (h : snapshot fs here ignored path = .ok f) :
    ∀ g : Folder, g.Within f → g.IsTidy ignored := by
  cases hname : ignored (ownName here path) with
  | true =>
    unfold snapshot at h
    simp only [hname, if_true, Except.ok.injEq] at h
    exact h ▸ isTidy_bare ignored _
  | false =>
    obtain ⟨place, entries, hl, ha⟩ := exists_listFolder_of_snapshot hname h
    have hproper := (Entry.isProper_folder entries).1
      (fs.isProper_of_at? hfs (fs.at?_of_listFolder hl))
    exact isTidy_of_assemble hproper.2.1 (fun x hx => showsTidy (hproper.2.2 x hx)) hname ha

/-- Whether ignored folders are looked into or not, the drawing is the same. In the snapshot that
does not look into them they are empty, and at every depth names increase. A folder whose links are
settled has a full snapshot unless a limit is met at a path that it asks about. -/
theorem pruning_keeps_drawing {path : String} (hfs : fs.isProper)
    (hfolder : fs.isFolder here path) (f : Filter) :
    (fs.linksSettled → ((∃ full, fullSnapshot fs here path = .ok full) ↔
      ∀ asked, Asks fs here (fun _ => false) path asked → fs.exceedsLimit here asked = false)) ∧
    (∀ full, fullSnapshot fs here path = .ok full → ∃ pruned,
      snapshot fs here f.ignores path = .ok pruned ∧
        pruned.render f.ignores = full.render f.ignores) ∧
    ∀ pruned, snapshot fs here f.ignores path = .ok pruned →
      ∀ g : Folder, g.Within pruned → g.IsTidy f.ignores := by
  refine ⟨fun hlinks => exists_snapshot_iff hfs hlinks hfolder, ?_, fun _ => isTidy_of_snapshot hfs⟩
  intro full hfull
  exact ⟨full.prune f.ignores, snapshot_eq_prune hfull,
    render_eq_of_canonical_eq (canonical_prune f.ignores full)⟩

theorem pruning_keeps_drawing_linked :
    ∃ f full pruned, Filter.read "obj" = .ok f ∧ fullSnapshot linked "/" "/r" = .ok full ∧
      snapshot linked "/" f.ignores "/r" = .ok pruned ∧
      pruned.render f.ignores = full.render f.ignores ∧
      ∀ g : Folder, g.Within pruned → g.IsTidy f.ignores := by
  obtain ⟨f, hf⟩ : ∃ f, Filter.read "obj" = .ok f := Except.exists_eq_ok (by decide +kernel)
  obtain ⟨-, hdrawing, htidy⟩ := @pruning_keeps_drawing linked "/" "/r" (by decide +kernel)
    (by decide +kernel) f
  obtain ⟨place, entries, hl⟩ := linked.exists_listFolder_of_isFolder
    (show linked.isFolder "/" "/r" by decide +kernel)
  have hshown : (linked.listFolder "/" "/r").toOption.all fun found =>
      (showEntries linked "/" (fun _ => false) "/r" found.2).all (·.2.isOk) := by
    decide +kernel
  simp only [hl, Except.toOption, Option.all_some] at hshown
  obtain ⟨full, hfull⟩ := exists_snapshot_of_showEntries hl hshown
  obtain ⟨pruned, hpruned, hrender⟩ := hdrawing full hfull
  exact ⟨f, full, pruned, hf, hfull, hpruned, hrender, htidy pruned hpruned⟩

end Outline.Folder
