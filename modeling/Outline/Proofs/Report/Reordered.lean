import Outline.Proofs.Report.Unseen

set_option autoImplicit false

/-!
# The order of entries does not matter

A folder lists its entries in whatever order they happen to have. Two file systems that differ only
in these orders, folder by folder and on every level, give the same snapshots, the same source files
and the same reports, and a run that fails in one of them fails in the other with the same error.
-/
namespace Outline

/-- The same entry, with the entries of every folder below it in any order. -/
inductive Entry.Reordered : Entry → Entry → Prop
  | file (bytes : List UInt8) (mode : ℕ) : Reordered (.file bytes mode) (.file bytes mode)
  | link (target : String) : Reordered (.link target) (.link target)
  | folder {entries middle entries' : List (String × Entry)} (order : entries.Perm middle)
      (names : middle.map Prod.fst = entries'.map Prod.fst)
      (below : List.Forall₂ Reordered (middle.map Prod.snd) (entries'.map Prod.snd)) :
      Reordered (.folder entries) (.folder entries')

/-- The same file system, with the entries of every folder in any order. -/
def FileSystem.Reordered (fs fs' : FileSystem) : Prop := fs.root.Reordered fs'.root

namespace Entry

theorem Reordered.bare_eq {e e' : Entry} (h : e.Reordered e') : e'.bare = e.bare := by
  cases h <;> rfl

theorem lookup_eq_of_perm {entries middle : List (String × Entry)}
    (hnames : (entries.map Prod.fst).Nodup) (h : entries.Perm middle) (name : String) :
    middle.lookup name = entries.lookup name := by
  ext e
  rw [lookup_eq_some_iff_mem hnames,
    lookup_eq_some_iff_mem ((h.map Prod.fst).nodup_iff.1 hnames)]
  exact h.mem_iff.symm

/-- Entries of the same names, one reordered into the other, are found by the same names. -/
theorem lookup_cases_of_forall₂ {middle entries' : List (String × Entry)}
    (hnames : middle.map Prod.fst = entries'.map Prod.fst)
    (hbelow : List.Forall₂ Reordered (middle.map Prod.snd) (entries'.map Prod.snd))
    (name : String) :
    middle.lookup name = none ∧ entries'.lookup name = none ∨
      ∃ e e', middle.lookup name = some e ∧ entries'.lookup name = some e' ∧ e.Reordered e' := by
  induction middle generalizing entries' with
  | nil =>
    cases entries' with
    | nil => exact .inl ⟨rfl, rfl⟩
    | cons y entries' => cases hnames
  | cons x middle ih =>
    cases entries' with
    | nil => cases hnames
    | cons y entries' =>
      obtain ⟨first, e⟩ := x
      obtain ⟨first', e'⟩ := y
      rw [List.map_cons, List.map_cons, List.cons.injEq] at hnames
      obtain ⟨hfirst, hnames⟩ := hnames
      cases hbelow with
      | cons he hbelow =>
        change first = first' at hfirst
        subst hfirst
        rw [List.lookup_cons, List.lookup_cons]
        cases name == first with
        | true => exact .inr ⟨e, e', rfl, rfl, he⟩
        | false => exact ih hnames hbelow

theorem Reordered.isProper {e e' : Entry} (h : e.Reordered e') (he : e.isProper) :
    e'.isProper := by
  induction e generalizing e' with
  | file bytes mode =>
    cases h
    rfl
  | link target =>
    cases h
    rfl
  | folder entries ih =>
    cases h with
    | @folder _ middle entries' order names below =>
      rw [isProper_folder] at he ⊢
      obtain ⟨hnames, hnodup, hbelow⟩ := he
      have hmiddle : (middle.map Prod.fst).Nodup := (order.map Prod.fst).nodup_iff.1 hnodup
      refine ⟨?_, names ▸ hmiddle, ?_⟩
      · intro y hy
        have hmem : y.1 ∈ middle.map Prod.fst := names ▸ List.mem_map_of_mem hy
        obtain ⟨x, hx, heq⟩ := List.mem_map.1 hmem
        exact heq ▸ hnames x (order.mem_iff.2 hx)
      · intro y hy
        have hlookup := (lookup_eq_some_iff_mem (names ▸ hmiddle) y.1 y.2).2 hy
        rcases lookup_cases_of_forall₂ names below y.1 with ⟨-, hnone⟩ | ⟨e, e', hx, hy', hr⟩
        · rw [hnone] at hlookup
          cases hlookup
        · rw [hy', Option.some_inj] at hlookup
          subst hlookup
          have hmem := order.mem_iff.2 ((lookup_eq_some_iff_mem hmiddle y.1 e).1 hx)
          exact ih _ hmem hr (hbelow _ hmem)

theorem Reordered.bare_find? {e e' : Entry} (h : e.Reordered e') (he : e.isProper)
    (loc : Location) : (e'.find? loc).map bare = (e.find? loc).map bare := by
  induction loc generalizing e e' with
  | nil => simp [h.bare_eq]
  | cons name rest ih =>
    cases h with
    | file bytes mode => rfl
    | link target => rfl
    | @folder entries middle entries' order names below =>
      rw [isProper_folder] at he
      rw [find?_folder_cons, find?_folder_cons, ← lookup_eq_of_perm he.2.1 order]
      rcases lookup_cases_of_forall₂ names below name with ⟨hn, hn'⟩ | ⟨e, e', hx, hx', hr⟩
      · rw [hn, hn']
      · rw [hx, hx']
        rw [lookup_eq_of_perm he.2.1 order, lookup_eq_some_iff_mem he.2.1] at hx
        exact ih hr (he.2.2 _ hx)

end Entry

namespace FileSystem

variable {fs fs' : FileSystem}

theorem Reordered.isProper (h : fs.Reordered fs') (hfs : fs.isProper) : fs'.isProper :=
  Entry.Reordered.isProper h hfs

/-- File systems that differ only in the order of entries differ nowhere. -/
theorem Reordered.differAt (h : fs.Reordered fs') (hfs : fs.isProper) :
    fs.DifferAt (fun _ => False) fs' where
  same loc _ := Entry.Reordered.bare_find? h hfs loc
  left _ hloc := hloc.elim
  right _ hloc := hloc.elim
  plain _ _ hloc := hloc.elim

end FileSystem

namespace Report

variable {fs fs' : FileSystem}

theorem showsSame_of_reordered (hfs : fs.isProper) (h : fs.Reordered fs') (here : String)
    (ignored : String → Bool) (base : String) (top : Location) :
    Folder.ShowsSame fs fs' (fun _ => False) here ignored base top where
  link _ _ target _ _ _ := Folder.showEntry_link_eq (h.differAt hfs) (fun _ hloc => hloc.elim)
    (FileSystem.avoids_of_forall_not (fun _ => id) _ _) target
  quiet _ _ _ _ hloc := hloc.elim
  quiet' _ _ _ _ hloc := hloc.elim

theorem searchAvoids_nothing (here : String) (ignored : String → Bool) (base : String) :
    Source.SearchAvoids fs (fun _ => False) here ignored base where
  path := FileSystem.avoids_of_forall_not (fun _ => id) _ _
  links _ _ _ _ _ := FileSystem.avoids_of_forall_not (fun _ => id) _ _

theorem snapshot_of_reordered (hfs : fs.isProper) (h : fs.Reordered fs') (here : String)
    (ignored : String → Bool) (path : String) :
    Folder.snapshot fs' here ignored path = Folder.snapshot fs here ignored path :=
  Folder.snapshot_eq hfs (h.isProper hfs) (h.differAt hfs) (fun _ hloc => hloc.elim)
    (FileSystem.avoids_of_forall_not (fun _ => id) _ _)
    fun top _ _ _ => showsSame_of_reordered hfs h here ignored path top

/-- Whatever the order in which folders list their entries, a run has the same outcome: the same
report, or the same error on the same path. So have snapshots and searches for source files. -/
theorem report_independent_of_order [CharacterNames] (hfs : fs.isProper) (h : fs.Reordered fs')
    (here : String) :
    (∀ s parse, build fs' here s parse = build fs here s parse) ∧
    (∀ ignored path,
      Folder.snapshot fs' here ignored path = Folder.snapshot fs here ignored path) ∧
    ∀ f base, Source.files fs' here f base = Source.files fs here f base := by
  have hfs' := h.isProper hfs
  have hdiffer := h.differAt hfs
  have hhere : ∀ loc : Location, False → fs.IsWorkingFolder here := fun _ hloc => hloc.elim
  refine ⟨?_, snapshot_of_reordered hfs h here, ?_⟩
  · intro s parse
    refine build_eq hfs hfs' hdiffer hhere ?_ ?_ parse
    · exact fun f _ => snapshot_of_reordered hfs h here f.ignores s.root
    · exact fun f _ => ⟨searchAvoids_nothing here f.ignores s.root,
        fun path _ => searchAvoids_nothing here f.ignores path⟩
  · intro f base
    exact Source.files_eq hfs hfs' hdiffer hhere (searchAvoids_nothing here f.ignores base)

/-- A root with a subfolder, and a link beside it. -/
def shelved : FileSystem :=
  ⟨[("r", .folder [("B.cs", .file "class B { }".toUTF8.toList 0o644),
      ("A", .folder [("D.cs", .file [] 0o644), ("C.cs", .link "../B.cs")])]),
    ("e", .link "r/A")]⟩

/-- The same entries, in another order on every level. -/
def reshelved : FileSystem :=
  ⟨[("e", .link "r/A"),
    ("r", .folder [("A", .folder [("C.cs", .link "../B.cs"), ("D.cs", .file [] 0o644)]),
      ("B.cs", .file "class B { }".toUTF8.toList 0o644)])]⟩

theorem report_independent_of_order_shelved :
    shelved.isProper ∧ shelved.Reordered reshelved ∧
    shelved.entries.map Prod.fst ≠ reshelved.entries.map Prod.fst ∧
    build reshelved "/" ⟨"/r", some "/e", "bin"⟩ csharp =
      build shelved "/" ⟨"/r", some "/e", "bin"⟩ csharp := by
  have hproper : shelved.isProper := by decide +kernel
  have hreordered : shelved.Reordered reshelved := by
    refine .folder (.swap _ _ _) rfl (.cons (.link _) (.cons ?_ .nil))
    refine .folder (.swap _ _ _) rfl (.cons ?_ (.cons (.file _ _) .nil))
    exact .folder (.swap _ _ _) rfl (.cons (.link _) (.cons (.file _ _) .nil))
  refine ⟨hproper, hreordered, by decide, ?_⟩
  exact (report_independent_of_order hproper hreordered "/").1 _ _

end Report

end Outline
