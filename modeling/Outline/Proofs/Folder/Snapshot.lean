import Outline.Folder.Snapshot
import Outline.Proofs.Folder.Reading
import Outline.Proofs.Source.Ways

set_option autoImplicit false

/-!
# What a snapshot holds

A snapshot holds the ways that its folder offers to files and to links that lead to files.
-/
namespace Outline

namespace Folder

/-- A link is shown if its path leads to a file. -/
def isShown (fs : FileSystem) (here path : String) : Entry → Bool
  | .file .. => true
  | .link _ =>
    match fs.lookUp here path with
    | .ok (_, e) => e.isFile
    | .error _ => false
  | .folder _ => false

/-- The ways that an entry adds to a snapshot. -/
def Shown.ways : Shown → List (List String)
  | .file name => [[name]]
  | .folder f => f.ways.map (f.name :: ·)
  | .nothing => []

theorem collect_eq_ok {α : Type} {results : List (Except FileError α)} {items : List α}
    (h : collect results = .ok items) : results = items.map .ok := by
  induction results generalizing items with
  | nil =>
    cases h
    rfl
  | cons result results ih =>
    cases result with
    | error e => cases h
    | ok first =>
      rw [collect] at h
      cases hr : collect results with
      | error e => simp [hr, Except.map] at h
      | ok rest =>
        rw [hr] at h
        cases h
        rw [ih hr]
        rfl

theorem exists_collect {α : Type} {results : List (Except FileError α)}
    (h : ∀ result ∈ results, ∃ item, result = .ok item) :
    ∃ items, collect results = .ok items := by
  induction results with
  | nil => exact ⟨[], rfl⟩
  | cons result results ih =>
    rw [List.forall_mem_cons] at h
    obtain ⟨first, rfl⟩ := h.1
    obtain ⟨rest, hr⟩ := ih h.2
    exact ⟨first :: rest, by rw [collect, hr]; rfl⟩

theorem assemble_eq_ok {name : String} {parts : List (String × Except FileError Shown)}
    {f : Folder} (h : assemble name parts = .ok f) : ∃ shown : List Shown,
      f = .mk name (shown.filterMap Shown.file?) (shown.filterMap Shown.folder?) ∧
      (shown.map Except.ok).Perm (parts.map (·.2)) := by
  unfold assemble at h
  cases hc : collect ((parts.mergeSort fun a b => decide (a.1 ≤ b.1)).map (·.2)) with
  | error e =>
    simp only [hc] at h
    cases h
  | ok shown =>
    simp only [hc] at h
    cases h
    refine ⟨shown, rfl, ?_⟩
    rw [← collect_eq_ok hc]
    exact (List.mergeSort_perm _ _).map _

theorem exists_assemble (name : String) {parts : List (String × Except FileError Shown)}
    (h : ∀ part ∈ parts, ∃ shown, part.2 = .ok shown) : ∃ f, assemble name parts = .ok f := by
  have hsorted : ∀ result ∈ (parts.mergeSort fun a b => decide (a.1 ≤ b.1)).map (·.2),
      ∃ shown, result = .ok shown := by
    intro result hr
    obtain ⟨part, hp, rfl⟩ := List.mem_map.1 hr
    exact h part (List.mem_mergeSort.1 hp)
  obtain ⟨shown, hs⟩ := exists_collect hsorted
  refine ⟨.mk name (shown.filterMap Shown.file?) (shown.filterMap Shown.folder?), ?_⟩
  unfold assemble
  simp only [hs]
  rfl

theorem mem_ways_mk_iff {name : String} {shown : List Shown} {way : List String} :
    way ∈ (mk name (shown.filterMap Shown.file?) (shown.filterMap Shown.folder?)).ways ↔
      ∃ s ∈ shown, way ∈ s.ways := by
  rw [mem_ways_iff]
  constructor
  · rintro (⟨file, hfile, rfl⟩ | ⟨f, hf, rest, hrest, rfl⟩)
    · obtain ⟨s, hs, hfile⟩ := List.mem_filterMap.1 hfile
      cases s <;> cases hfile
      exact ⟨_, hs, by simp [Shown.ways]⟩
    · obtain ⟨s, hs, hf⟩ := List.mem_filterMap.1 hf
      cases s <;> cases hf
      exact ⟨_, hs, List.mem_map_of_mem hrest⟩
  · rintro ⟨s, hs, hway⟩
    cases s with
    | nothing => cases hway
    | file name =>
      rw [Shown.ways, List.mem_singleton] at hway
      exact .inl ⟨name, List.mem_filterMap.2 ⟨_, hs, rfl⟩, hway⟩
    | folder f =>
      obtain ⟨rest, hrest, rfl⟩ := List.mem_map.1 hway
      exact .inr ⟨f, List.mem_filterMap.2 ⟨_, hs, rfl⟩, rest, hrest, rfl⟩

variable {fs : FileSystem} {here : String} {ignored : String → Bool}

theorem showEntries_eq_map (path : String) (entries : List (String × Entry)) :
    showEntries fs here ignored path entries =
      entries.map fun x => (x.1, showEntry fs here ignored path x.1 x.2) := by
  induction entries with
  | nil => rfl
  | cons x entries ih => rw [showEntries, ih, List.map_cons]

/-- A folder that is not ignored shows what is put together from its entries, if it can be
opened. -/
theorem showEntry_folder_eq_ok {path name : String} {entries : List (String × Entry)} {s : Shown}
    (hname : ignored name = false)
    (h : showEntry fs here ignored path name (.folder entries) = .ok s) :
    fs.isFolder here (Path.join path name) ∧ ∃ f, s = .folder f ∧
      assemble name (showEntries fs here ignored (Path.join path name) entries) = .ok f := by
  rw [showEntry, if_neg (by simp [hname])] at h
  cases hl : fs.listFolder here (Path.join path name) with
  | error e => simp [hl] at h
  | ok found =>
    have hlook := fs.listFolder_eq_ok hl
    rw [hl] at h
    cases ha : assemble name (showEntries fs here ignored (Path.join path name) entries) with
    | error e => simp [ha, Except.map] at h
    | ok f =>
      rw [ha] at h
      cases h
      exact ⟨by rw [FileSystem.isFolder, hlook]; rfl, f, rfl, rfl⟩

theorem showEntry_of_leaf {e : Entry} (he : e.isFolder = false) (ignored ignored' : String → Bool)
    (path name : String) :
    showEntry fs here ignored path name e = showEntry fs here ignored' path name e := by
  cases e with
  | file bytes mode => rfl
  | link target => rw [showEntry, showEntry]
  | folder entries => cases he

theorem eq_of_showEntry_leaf {e : Entry} {path name : String} {s : Shown}
    (he : e.isFolder = false) (h : showEntry fs here ignored path name e = .ok s) :
    s = .file name ∨ s = .nothing := by
  cases e with
  | folder entries => cases he
  | file bytes mode =>
    simp only [showEntry, Except.ok.injEq] at h
    subst h
    split_ifs <;> simp
  | link target =>
    rw [showEntry] at h
    split at h
    · cases h
      split_ifs <;> simp
    · split_ifs at h
      cases h
      exact .inr rfl

/-! ## Entries that can be shown -/

/-- Whether what is asked about an entry has an answer: a folder that is not ignored can be opened,
and a link leads somewhere or lacks something on its way. -/
def isAnswered (fs : FileSystem) (here : String) (ignored : String → Bool) (path name : String) :
    Entry → Bool
  | .file .. => true
  | .folder _ => ignored name || fs.isFolder here (Path.join path name)
  | .link _ =>
    match fs.lookUp here (Path.join path name) with
    | .ok _ => true
    | .error e => e.cause == .missing

theorem isAnswered_of_showEntry {path name : String} {e : Entry} {s : Shown}
    (h : showEntry fs here ignored path name e = .ok s) :
    isAnswered fs here ignored path name e := by
  cases e with
  | file bytes mode => rfl
  | link target =>
    rw [showEntry] at h
    rw [isAnswered]
    cases hl : fs.lookUp here (Path.join path name) with
    | ok found => rfl
    | error e =>
      rw [hl] at h
      by_cases hmissing : e.cause = .missing
      · simpa using hmissing
      · simp [hmissing] at h
  | folder entries =>
    cases hname : ignored name with
    | true => simp [isAnswered, hname]
    | false => simp [isAnswered, (showEntry_folder_eq_ok hname h).1]

theorem showEntry_of_isAnswered {path name target : String} (hname : Path.isSource name = false)
    (h : isAnswered fs here ignored path name (.link target)) :
    showEntry fs here ignored path name (.link target) = .ok .nothing := by
  rw [isAnswered] at h
  rw [showEntry]
  cases hl : fs.lookUp here (Path.join path name) with
  | ok found => simp [hname]
  | error e =>
    rw [hl] at h
    simp [show e.cause = .missing by simpa using h]

/-- A folder is put together if there is an answer about everything in it and below, except for what
is below an ignored folder. -/
theorem exists_assemble_showEntries {e : Entry} {entries : List (String × Entry)}
    (he : e = .folder entries) (hproper : e.isProper) (path name : String)
    (h : ∀ folders last found, (∀ folder ∈ folders, ignored folder = false) →
      e.find? (folders ++ [last]) = some found →
      isAnswered fs here ignored (folders.foldl Path.join path) last found) :
    ∃ f, assemble name (showEntries fs here ignored path entries) = .ok f := by
  induction e generalizing entries path name with
  | file bytes mode => cases he
  | link target => cases he
  | folder below ih =>
    cases he
    rw [Entry.isProper_folder] at hproper
    apply exists_assemble
    intro part hp
    rw [showEntries_eq_map] at hp
    obtain ⟨⟨first, e⟩, hx, rfl⟩ := List.mem_map.1 hp
    have hlookup := (Entry.lookup_eq_some_iff_mem hproper.2.1 first e).2 hx
    have hfind : ∀ rest, (Entry.folder below).find? (first :: rest) = e.find? rest := by
      intro rest
      rw [Entry.find?_folder_cons, hlookup, Option.bind_some]
    have hfirst := h [] first e (List.forall_mem_nil _) (hfind [])
    cases e with
    | file bytes mode => exact ⟨_, rfl⟩
    | link target =>
      simp only [isAnswered, List.foldl_nil] at hfirst
      simp only [showEntry]
      cases hl : fs.lookUp here (Path.join path first) with
      | ok found => exact ⟨_, rfl⟩
      | error e =>
        rw [hl] at hfirst
        exact ⟨.nothing, by simp [show e.cause = .missing by simpa using hfirst]⟩
    | folder inner =>
      simp only [showEntry]
      cases hi : ignored first with
      | true => exact ⟨_, rfl⟩
      | false =>
        simp only [isAnswered, hi, List.foldl_nil, Bool.false_or] at hfirst
        obtain ⟨place, opened, hl⟩ := fs.exists_listFolder_of_isFolder hfirst
        obtain ⟨f, hf⟩ := ih _ hx rfl (hproper.2.2 _ hx) (Path.join path first) first
          fun folders last found hfolders hfound =>
            h (first :: folders) last found (List.forall_mem_cons.2 ⟨hi, hfolders⟩)
              ((hfind _).trans hfound)
        exact ⟨.folder f, by simp [hl, hf, Except.map]⟩

theorem exists_showEntry_of_assemble {entries : List (String × Entry)} {path name first : String}
    {f : Folder} {e : Entry} (hx : (first, e) ∈ entries)
    (h : assemble name (showEntries fs here ignored path entries) = .ok f) :
    ∃ s, showEntry fs here ignored path first e = .ok s := by
  obtain ⟨shown, -, hperm⟩ := assemble_eq_ok h
  rw [showEntries_eq_map, List.map_map] at hperm
  obtain ⟨s, -, hs⟩ := List.mem_map.1 (hperm.mem_iff.2 (List.mem_map_of_mem hx))
  exact ⟨s, hs.symm⟩

/-- If a folder is put together, there is an answer about everything below it that is not below an
ignored folder. -/
theorem isAnswered_of_assemble {entries : List (String × Entry)} {path name last : String}
    {folders : List String} {f : Folder} {found : Entry}
    (hproper : (Entry.folder entries).isProper)
    (h : assemble name (showEntries fs here ignored path entries) = .ok f)
    (hfolders : ∀ folder ∈ folders, ignored folder = false)
    (hfound : (Entry.folder entries).find? (folders ++ [last]) = some found) :
    isAnswered fs here ignored (folders.foldl Path.join path) last found := by
  induction folders generalizing entries path name f with
  | nil =>
    obtain ⟨_, e, he, hl, hb⟩ := Entry.exists_folder_of_find?_cons hfound
    cases he
    rw [Entry.find?_nil, Option.some_inj] at hb
    subst hb
    rw [Entry.isProper_folder] at hproper
    have hx := (Entry.lookup_eq_some_iff_mem hproper.2.1 last e).1 hl
    obtain ⟨s, hs⟩ := exists_showEntry_of_assemble hx h
    exact isAnswered_of_showEntry hs
  | cons first folders ih =>
    rw [List.forall_mem_cons] at hfolders
    obtain ⟨_, e, he, hl, hb⟩ := Entry.exists_folder_of_find?_cons hfound
    cases he
    obtain ⟨below, rfl⟩ := Entry.exists_folder_of_find?_concat hb
    rw [Entry.isProper_folder] at hproper
    have hx := (Entry.lookup_eq_some_iff_mem hproper.2.1 first _).1 hl
    obtain ⟨s, hs⟩ := exists_showEntry_of_assemble hx h
    obtain ⟨-, g, -, hg⟩ := showEntry_folder_eq_ok hfolders.1 hs
    exact ih (hproper.2.2 _ hx) hg hfolders.2 hb

/-- A folder that is put together opened all folders below it that are not ignored. -/
theorem passes_of_assemble {entries below : List (String × Entry)} {path name : String}
    {down : List String} {f : Folder} (hproper : (Entry.folder entries).isProper)
    (h : assemble name (showEntries fs here ignored path entries) = .ok f)
    (hclear : ∀ folder ∈ down, ignored folder = false)
    (hdown : (Entry.folder entries).find? down = some (.folder below)) :
    Entry.Passes ignored (fs.isFolder here) path down := by
  induction down using List.reverseRecOn generalizing below with
  | nil => trivial
  | append_singleton down last ih =>
    have habove : ∃ above, (Entry.folder entries).find? down = some (.folder above) := by
      have hfind := hdown
      rw [Entry.find?_append, Option.bind_eq_some_iff] at hfind
      obtain ⟨e, he, hlast⟩ := hfind
      obtain ⟨above, _, rfl, _⟩ := Entry.exists_folder_of_find?_cons hlast
      exact ⟨above, he⟩
    obtain ⟨above, habove⟩ := habove
    rw [List.forall_mem_append, List.forall_mem_singleton] at hclear
    have hanswered := isAnswered_of_assemble hproper h hclear.1 hdown
    rw [isAnswered, hclear.2, Bool.false_or] at hanswered
    exact Entry.passes_append_iff.2 ⟨ih hclear.1 habove, ⟨hclear.2, hanswered⟩, trivial⟩

/-! ## The ways in a snapshot -/

/-- The snapshot of a folder holds the ways that the folder offers. -/
def HoldsOffers (fs : FileSystem) (here : String) (ignored : String → Bool) (e : Entry) : Prop :=
  ∀ (entries : List (String × Entry)) (path name : String) (f : Folder) (way : List String),
    e = .folder entries → assemble name (showEntries fs here ignored path entries) = .ok f →
      (way ∈ f.ways ↔ e.Offers ignored (fs.isFolder here) (isShown fs here) path way)

theorem mem_ways_showEntry_of_leaf {e : Entry} {path name : String} {s : Shown}
    (he : e.isFolder = false) (h : showEntry fs here ignored path name e = .ok s)
    (way : List String) :
    way ∈ s.ways ↔ way = [name] ∧ Path.isSource name ∧ isShown fs here (Path.join path name) e := by
  cases e with
  | folder entries => cases he
  | file bytes mode =>
    simp only [showEntry, Except.ok.injEq] at h
    subst h
    split_ifs with hs <;> simp [Shown.ways, hs, isShown]
  | link target =>
    rw [showEntry] at h
    cases hl : fs.lookUp here (Path.join path name) with
    | ok found =>
      simp only [hl, Except.ok.injEq] at h
      subst h
      simp only [isShown, hl]
      split_ifs with hs
      · rw [Bool.and_eq_true] at hs
        simp [Shown.ways, hs.1, hs.2]
      · rw [Bool.and_eq_true] at hs
        simp only [Shown.ways, List.not_mem_nil, false_iff]
        rintro ⟨-, hsource, hfile⟩
        exact hs ⟨hfile, hsource⟩
    | error e =>
      simp only [hl] at h
      split_ifs at h
      cases h
      simp [Shown.ways, isShown, hl]

theorem mem_ways_showEntry_of_folder {entries : List (String × Entry)} {path name : String}
    {s : Shown} (he : HoldsOffers fs here ignored (.folder entries))
    (h : showEntry fs here ignored path name (.folder entries) = .ok s) (way : List String) :
    way ∈ s.ways ↔ ∃ rest, way = name :: rest ∧
      (ignored name = false ∧ fs.isFolder here (Path.join path name)) ∧
      (Entry.folder entries).Offers ignored (fs.isFolder here) (isShown fs here)
        (Path.join path name) rest := by
  cases hi : ignored name with
  | true =>
    rw [showEntry, if_pos hi] at h
    cases h
    simp [Shown.ways, bare, ways, waysBelow]
  | false =>
    obtain ⟨hopens, f, rfl, ha⟩ := showEntry_folder_eq_ok hi h
    obtain ⟨shown, hf, -⟩ := assemble_eq_ok ha
    have hname : f.name = name := by rw [hf]; rfl
    have hoffers := fun rest => he entries (Path.join path name) name f rest rfl ha
    simp only [Shown.ways, List.mem_map, hname, hoffers, hopens, and_self, true_and]
    constructor
    · rintro ⟨rest, hr, rfl⟩
      exact ⟨rest, rfl, hr⟩
    · rintro ⟨rest, rfl, hr⟩
      exact ⟨rest, hr, rfl⟩

/-- What an entry adds to a snapshot, given that the snapshot below it is right. -/
theorem mem_ways_showEntry_iff {e : Entry} {path name : String} {s : Shown}
    (he : HoldsOffers fs here ignored e) (h : showEntry fs here ignored path name e = .ok s)
    (way : List String) : way ∈ s.ways ↔ ∃ rest, way = name :: rest ∧
      (rest = [] ∧ Path.isSource name ∧ isShown fs here (Path.join path name) e ∨
        (ignored name = false ∧ fs.isFolder here (Path.join path name)) ∧
          e.Offers ignored (fs.isFolder here) (isShown fs here) (Path.join path name) rest) := by
  cases hf : e.isFolder with
  | false =>
    have hleaf : ∀ rest, ¬ e.Offers ignored (fs.isFolder here) (isShown fs here)
        (Path.join path name) rest := by
      intro rest hrest
      obtain ⟨entries, rfl⟩ := hrest.exists_folder
      cases hf
    rw [mem_ways_showEntry_of_leaf hf h]
    simp [hleaf]
  | true =>
    cases e with
    | file bytes mode => cases hf
    | link target => cases hf
    | folder entries =>
      rw [mem_ways_showEntry_of_folder he h]
      simp [isShown]

theorem holdsOffers {e : Entry} (h : e.isProper) : HoldsOffers fs here ignored e := by
  induction e with
  | file bytes mode =>
    intro entries path name f way he
    cases he
  | link target =>
    intro entries path name f way he
    cases he
  | folder below ih =>
    intro entries path name f way he ha
    cases he
    rw [Entry.isProper_folder] at h
    obtain ⟨shown, rfl, hperm⟩ := assemble_eq_ok ha
    rw [showEntries_eq_map, List.map_map] at hperm
    rw [mem_ways_mk_iff, Entry.offers_folder_iff h.2.1]
    constructor
    · rintro ⟨s, hs, hway⟩
      obtain ⟨x, hx, hshow⟩ := List.mem_map.1 (hperm.mem_iff.1 (List.mem_map_of_mem hs))
      exact ⟨x, hx, (mem_ways_showEntry_iff (ih x hx (h.2.2 x hx)) hshow way).1 hway⟩
    · rintro ⟨x, hx, hway⟩
      obtain ⟨s, hs, hshow⟩ := List.mem_map.1 (hperm.mem_iff.2 (List.mem_map_of_mem hx))
      exact ⟨s, hs, (mem_ways_showEntry_iff (ih x hx (h.2.2 x hx)) hshow.symm way).2 hway⟩

end Folder

end Outline
