import Mathlib.Data.List.Nodup
import Outline.FileSystem.Basic
import Outline.Proofs.Path.Steps

set_option autoImplicit false

/-!
# Proper file systems

In a proper file system the names in a folder are different, and each of them is a name: not empty,
not a step, without a slash. An entry is then found by its name exactly if it stands in the folder.
-/
namespace Outline

namespace Entry

/-- Induction over the entries below a folder. -/
@[induction_eliminator]
theorem induction {motive : Entry → Prop} (file : ∀ bytes mode, motive (.file bytes mode))
    (link : ∀ target, motive (.link target))
    (folder : ∀ entries, (∀ x ∈ entries, motive x.2) → motive (.folder entries)) (e : Entry) :
    motive e :=
  @Entry.rec motive (fun entries => ∀ x ∈ entries, motive x.2) (fun x => motive x.2)
    file link folder (fun _ h => absurd h List.not_mem_nil)
    (fun _ _ first rest => List.forall_mem_cons.2 ⟨first, rest⟩) (fun _ _ h => h) e

mutual

/-- Whether all names below an entry are names, different ones in each folder. -/
def isProper : Entry → Bool
  | folder entries => areProper entries
  | _ => true

/-- Whether this holds of the entries of a folder. -/
def areProper : List (String × Entry) → Bool
  | [] => true
  | (name, e) :: rest =>
    decide (Path.IsName name) && rest.all (·.1 != name) && isProper e && areProper rest

end

theorem areProper_iff (entries : List (String × Entry)) : areProper entries ↔
    (∀ x ∈ entries, Path.IsName x.1) ∧ (entries.map Prod.fst).Nodup ∧
      ∀ x ∈ entries, x.2.isProper := by
  induction entries with
  | nil => simp [areProper]
  | cons x rest ih =>
    obtain ⟨name, e⟩ := x
    simp only [areProper, Bool.and_eq_true, decide_eq_true_eq, List.all_eq_true, bne_iff_ne, ih,
      List.forall_mem_cons, List.map_cons, List.nodup_cons, List.mem_map, not_exists, not_and]
    tauto

theorem isProper_folder (entries : List (String × Entry)) : (folder entries).isProper ↔
    (∀ x ∈ entries, Path.IsName x.1) ∧ (entries.map Prod.fst).Nodup ∧
      ∀ x ∈ entries, x.2.isProper := by
  rw [isProper]
  exact areProper_iff entries

theorem lookup_eq_some_iff_mem {entries : List (String × Entry)}
    (h : (entries.map Prod.fst).Nodup) (name : String) (e : Entry) :
    entries.lookup name = some e ↔ (name, e) ∈ entries := by
  induction entries with
  | nil => simp
  | cons x rest ih =>
    obtain ⟨first, e'⟩ := x
    rw [List.map_cons, List.nodup_cons] at h
    by_cases hn : name = first
    · subst hn
      have hrest : (name, e) ∉ rest := fun hm => h.1 (List.mem_map.2 ⟨_, hm, rfl⟩)
      simp [hrest, eq_comm]
    · have hb : (name == first) = false := by simpa using hn
      simp [List.lookup_cons, hb, ih h.2, hn]

@[simp]
theorem find?_nil (e : Entry) : e.find? [] = some e := by
  cases e <;> rfl

@[simp]
theorem find?_folder_cons (entries : List (String × Entry)) (name : String) (rest : Location) :
    (folder entries).find? (name :: rest) = (entries.lookup name).bind (·.find? rest) := rfl

theorem find?_append (e : Entry) (a b : Location) :
    e.find? (a ++ b) = (e.find? a).bind (·.find? b) := by
  induction a generalizing e with
  | nil => simp
  | cons name a ih =>
    cases e with
    | file bytes mode => rfl
    | link target => rfl
    | folder entries =>
      rw [List.cons_append, find?_folder_cons, find?_folder_cons]
      cases entries.lookup name with
      | none => rfl
      | some e => exact ih e

/-- Only in a folder is anything found. -/
theorem exists_folder_of_find?_cons {e found : Entry} {name : String} {rest : Location}
    (h : e.find? (name :: rest) = some found) :
    ∃ entries below, e = folder entries ∧ entries.lookup name = some below ∧
      below.find? rest = some found := by
  cases e with
  | file bytes mode => cases h
  | link target => cases h
  | folder entries =>
    rw [find?_folder_cons, Option.bind_eq_some_iff] at h
    obtain ⟨below, hl, hf⟩ := h
    exact ⟨entries, below, rfl, hl, hf⟩

theorem exists_folder_of_find?_concat {e found : Entry} {folders : Location} {name : String}
    (h : e.find? (folders ++ [name]) = some found) : ∃ entries, e = folder entries := by
  have hne : folders ++ [name] ≠ [] := by simp
  obtain ⟨first, rest, hr⟩ := List.exists_cons_of_ne_nil hne
  rw [hr] at h
  obtain ⟨entries, _, he, _⟩ := exists_folder_of_find?_cons h
  exact ⟨entries, he⟩

theorem isProper_of_find? {e found : Entry} {place : Location} (he : e.isProper)
    (h : e.find? place = some found) : found.isProper := by
  induction place generalizing e with
  | nil =>
    rw [find?_nil, Option.some_inj] at h
    exact h ▸ he
  | cons name rest ih =>
    obtain ⟨entries, below, rfl, hl, hf⟩ := exists_folder_of_find?_cons h
    rw [isProper_folder] at he
    exact ih (he.2.2 (name, below) ((lookup_eq_some_iff_mem he.2.1 name below).1 hl)) hf

theorem isName_of_find? {e found : Entry} {place : Location} (he : e.isProper)
    (h : e.find? place = some found) : ∀ name ∈ place, Path.IsName name := by
  induction place generalizing e with
  | nil => simp
  | cons first rest ih =>
    obtain ⟨entries, below, rfl, hl, hb⟩ := exists_folder_of_find?_cons h
    rw [isProper_folder] at he
    have hm := (lookup_eq_some_iff_mem he.2.1 first below).1 hl
    exact List.forall_mem_cons.2 ⟨he.1 _ hm, ih (he.2.2 _ hm) hb⟩

end Entry

namespace FileSystem

/-- Whether all names in a file system are names, different ones in each folder. -/
def isProper (fs : FileSystem) : Bool := fs.root.isProper

theorem at?_append (fs : FileSystem) (a b : Location) :
    fs.at? (a ++ b) = (fs.at? a).bind (·.find? b) :=
  Entry.find?_append fs.root a b

theorem at?_append_of_folder {fs : FileSystem} {place : Location}
    {entries : List (String × Entry)} (h : fs.at? place = some (.folder entries))
    (rest : Location) : fs.at? (place ++ rest) = (Entry.folder entries).find? rest := by
  rw [at?_append, h]
  rfl

theorem isProper_of_at? {fs : FileSystem} {place : Location} {e : Entry} (hfs : fs.isProper)
    (h : fs.at? place = some e) : e.isProper :=
  Entry.isProper_of_find? hfs h

theorem isName_of_at?_append {fs : FileSystem} {place way : Location} {e : Entry}
    (hfs : fs.isProper) (h : fs.at? (place ++ way) = some e) : ∀ name ∈ way, Path.IsName name :=
  fun name hn => Entry.isName_of_find? hfs h name (List.mem_append_right _ hn)

/-- What is above anything is a folder. -/
theorem exists_folder_of_at?_append {fs : FileSystem} {place : Location} {name : String}
    {rest : Location} {e : Entry} (h : fs.at? (place ++ name :: rest) = some e) :
    ∃ entries, fs.at? place = some (.folder entries) := by
  rw [at?_append, Option.bind_eq_some_iff] at h
  obtain ⟨above, ha, hf⟩ := h
  obtain ⟨entries, _, rfl, _⟩ := Entry.exists_folder_of_find?_cons hf
  exact ⟨entries, ha⟩

theorem exists_folder_at?_dropLast {fs : FileSystem} {place : Location}
    {entries : List (String × Entry)} (h : fs.at? place = some (.folder entries)) :
    ∃ above, fs.at? place.dropLast = some (.folder above) := by
  rcases List.eq_nil_or_concat place with rfl | ⟨before, last, rfl⟩
  · exact ⟨entries, h⟩
  · rw [List.concat_eq_append] at h ⊢
    rw [List.dropLast_concat]
    exact exists_folder_of_at?_append h

end FileSystem

end Outline
