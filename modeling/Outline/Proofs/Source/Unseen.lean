import Outline.Proofs.FileSystem.Differ
import Outline.Proofs.Source.Ways

set_option autoImplicit false

/-!
# What a search for source files does not see

A search looks at its base, at the folders below it that are not ignored and, through links, at what
is named like a source there. It gives the same files in two file systems that differ at other
places only, and each of these files is read in the same way.
-/
namespace Outline

namespace Source

variable {fs fs' : FileSystem} {away : Location → Prop} {here base : String} {f : Filter}
  {ignored : String → Bool}

/-- A link stands in a folder that a search from a base enters. -/
def IsLinkBelow (fs : FileSystem) (here : String) (ignored : String → Bool) (base : String)
    (place : Location) (name target : String) : Prop :=
  ignored (Folder.ownName here base) = false ∧ ∃ top entries folders,
    fs.listFolder here base = .ok (top, entries) ∧ place = top ++ folders ∧
    (∀ folder ∈ folders, ignored folder = false) ∧
    fs.at? (place ++ [name]) = some (.link target)

/-- In a folder with a single entry there is at most one link. -/
theorem IsLinkBelow.eq_of_singleton {only name target : String} {top place : Location} {e : Entry}
    (h : IsLinkBelow fs here ignored base place name target)
    (hl : fs.listFolder here base = .ok (top, [(only, e)])) (he : e.isFolder = false) :
    place = top ∧ name = only ∧ e = .link target := by
  obtain ⟨-, _, _, folders, hl', rfl, -, hlink⟩ := h
  rw [hl] at hl'
  cases hl'
  rw [List.append_assoc, fs.at?_append_of_folder (fs.at?_of_listFolder hl)] at hlink
  obtain ⟨rfl, hname, hfound⟩ := Entry.find?_concat_singleton he hlink
  exact ⟨List.append_nil top, hname, hfound.symm⟩

/-- A search from a base leads past all the places of a set: so does its path, and so do the links
below that are named like sources. -/
structure SearchAvoids (fs : FileSystem) (away : Location → Prop) (here : String)
    (ignored : String → Bool) (base : String) : Prop where
  path : fs.PathAvoids away here base
  links : ∀ place name target, IsLinkBelow fs here ignored base place name target →
    Path.isSource name → fs.LinkAvoids away place target

section Found

variable {top : Location} {entries entries' : List (String × Entry)} {way : List String}

theorem countsAsFile_eq (h : fs.DifferAt away fs')
    (hhere : ∀ loc, away loc → fs.IsWorkingFolder here) {path : String} {e : Entry}
    (hlink : ∀ target, e = .link target → fs.PathAvoids away here path) :
    countsAsFile fs' here path e = countsAsFile fs here path e := by
  cases e with
  | file bytes mode => rfl
  | folder below => rfl
  | link target => rw [countsAsFile, countsAsFile, h.isFolder_eq hhere (hlink target rfl)]

theorem passes_iff (hfs : fs.isProper) (h : fs.DifferAt away fs')
    (hhere : ∀ loc, away loc → fs.IsWorkingFolder here)
    (hl : fs.listFolder here base = .ok (top, entries)) (ha : fs.PathAvoids away here base)
    {folders : List String} {below : List (String × Entry)}
    (hfolders : fs.at? (top ++ folders) = some (.folder below)) :
    Entry.Passes ignored (fs'.isFolder here) base folders ↔
      Entry.Passes ignored (fs.isFolder here) base folders := by
  refine Entry.passes_congr ?_
  rintro front hne ⟨rest, rfl⟩
  obtain ⟨above, name, rfl⟩ := (List.eq_nil_or_concat' front).resolve_left hne
  have hfront : ∃ inner, fs.at? (top ++ above ++ [name]) = some (.folder inner) := by
    rw [← List.append_assoc, ← List.append_assoc] at hfolders
    cases rest with
    | nil => exact ⟨below, by simpa using hfolders⟩
    | cons next rest => exact fs.exists_folder_of_at?_append hfolders
  obtain ⟨inner, hinner⟩ := hfront
  exact h.isFolder_eq hhere (h.pathAvoids_folder_below hfs hl ha hinner)

/-- Both folders offer the same ways to source files. -/
theorem offers_iff (hfs : fs.isProper) (h : fs.DifferAt away fs')
    (hhere : ∀ loc, away loc → fs.IsWorkingFolder here)
    (hname : ignored (Folder.ownName here base) = false)
    (hl : fs.listFolder here base = .ok (top, entries))
    (hl' : fs'.listFolder here base = .ok (top, entries'))
    (ha : SearchAvoids fs away here ignored base) :
    (Entry.folder entries').Offers ignored (fs'.isFolder here) (countsAsFile fs' here) base way ↔
      (Entry.folder entries).Offers ignored (fs.isFolder here) (countsAsFile fs here) base way := by
  have htop := fs.at?_of_listFolder hl
  have htop' := fs'.at?_of_listFolder hl'
  refine exists_congr fun folders => exists_congr fun name => exists_congr fun found => ?_
  refine and_congr_right fun hway => ?_
  rw [← fs.at?_append_of_folder htop, ← fs'.at?_append_of_folder htop', hway, ← List.append_assoc]
  by_cases hsource : Path.isSource name
  swap
  · simp [hsource]
  have haway : ¬ away (top ++ folders ++ [name]) := fun haway => by
    simp [h.plain _ _ haway] at hsource
  have hb := h.same (top ++ folders ++ [name]) haway
  cases hfolder : found.isFolder with
  | true =>
    cases found with
    | file bytes mode => cases hfolder
    | link target => cases hfolder
    | folder below => simp [countsAsFile]
  | false =>
    have hat : fs'.at? (top ++ folders ++ [name]) = some found ↔
        fs.at? (top ++ folders ++ [name]) = some found :=
      ⟨fun he => fs'.at?_eq_of_bareAt? hb.symm he hfolder,
        fun he => fs.at?_eq_of_bareAt? hb he hfolder⟩
    by_cases he : fs.at? (top ++ folders ++ [name]) = some found
    swap
    · simp only [hat, he, false_and, and_false]
    obtain ⟨above, habove⟩ := fs.exists_folder_of_at?_append he
    rw [hat, passes_iff hfs h hhere hl ha.path habove]
    refine and_congr_right fun hpass => ?_
    rw [countsAsFile_eq h hhere]
    rintro target rfl
    refine h.pathAvoids_below hfs hl ha.path he haway ?_
    rintro _ ⟨⟩
    exact ha.links _ name target ⟨hname, top, entries, folders, hl, rfl, hpass.unignored, he⟩
      hsource

theorem sortWays_eq_of_mem_iff {a b : List (List String)} (ha : a.Nodup) (hb : b.Nodup)
    (hpieces : ∀ way ∈ a, ∀ name ∈ way, Path.IsPiece name) (hmem : ∀ way, way ∈ b ↔ way ∈ a) :
    sortWays b = sortWays a := by
  have hperm := (List.perm_ext_iff_of_nodup hb ha).2 hmem
  refine List.Perm.eq_of_pairwise ?_ (pairwise_sortWays b) (pairwise_sortWays a)
    ((sortWays_perm b).trans (hperm.trans (sortWays_perm a).symm))
  intro x y hx hy hxy hyx
  have hx' := hpieces x ((hmem x).1 ((sortWays_perm b).mem_iff.1 hx))
  have hy' := hpieces y ((sortWays_perm a).mem_iff.1 hy)
  exact ofSteps_inj hx' hy' (String.le_antisymm hxy hyx)

/-- A search that avoids the places where two file systems differ gives the same files in both. -/
theorem files_eq (hfs : fs.isProper) (hfs' : fs'.isProper) (h : fs.DifferAt away fs')
    (hhere : ∀ loc, away loc → fs.IsWorkingFolder here)
    (ha : SearchAvoids fs away here f.ignores base) :
    files fs' here f base = files fs here f base := by
  rw [files, files]
  cases hname : f.ignores (Folder.ownName here base) with
  | true => rfl
  | false =>
    rcases h.listFolder_cases hhere ha.path with ⟨e, hl, hl'⟩ | ⟨top, entries, entries', hl, hl'⟩
    · rw [hl, hl']
      obtain ⟨cause, path, target⟩ := e
      cases cause <;> rfl
    · have hproper := fs.isProper_of_at? hfs (fs.at?_of_listFolder hl)
      have hproper' := fs'.isProper_of_at? hfs' (fs'.at?_of_listFolder hl')
      have hpieces : ∀ way ∈ waysAmong fs here f.ignores base entries, ∀ name ∈ way,
          Path.IsPiece name := fun way hway name hn =>
        (((mem_waysAmong_iff hproper base way).1 hway).isName hproper name hn).1
      have hmem : ∀ way, way ∈ waysAmong fs' here f.ignores base entries' ↔
          way ∈ waysAmong fs here f.ignores base entries := by
        intro way
        rw [mem_waysAmong_iff hproper', mem_waysAmong_iff hproper,
          offers_iff hfs h hhere hname hl hl' ha]
      have hpieces' : ∀ way ∈ waysAmong fs' here f.ignores base entries', ∀ name ∈ way,
          Path.IsPiece name := fun way hway => hpieces way ((hmem way).1 hway)
      have hsort := sortWays_eq_of_mem_iff (nodup_waysAmong hproper base)
        (nodup_waysAmong hproper' base) hpieces hmem
      rw [hl, hl']
      simp only [sortFiles_map_ofWay base hpieces, sortFiles_map_ofWay base hpieces', hsort]

/-- The path of a file that is found avoids these places, too. -/
theorem pathAvoids_of_mem_files (hfs : fs.isProper) (h : fs.DifferAt away fs') {path : String}
    {paths : List String} (hfiles : (files fs here f base).result = .ok paths) (hp : path ∈ paths)
    (ha : SearchAvoids fs away here f.ignores base) : fs.PathAvoids away here path := by
  obtain ⟨hname, top, entries, way, hl, hway, rfl⟩ := (mem_files_iff hfs hfiles path).1 hp
  obtain ⟨folders, name, found, rfl, hpass, hfound, hsource, hcounts⟩ := hway
  rw [← fs.at?_append_of_folder (fs.at?_of_listFolder hl), ← List.append_assoc] at hfound
  refine h.pathAvoids_below hfs hl ha.path hfound (fun haway => ?_) ?_
  · simp [h.plain _ _ haway] at hsource
  · rintro target rfl
    exact ha.links _ name target ⟨hname, top, entries, folders, hl, rfl, hpass.unignored, hfound⟩
      hsource

end Found

end Source

end Outline
