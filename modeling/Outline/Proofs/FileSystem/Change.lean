import Outline.FileSystem.Change
import Outline.Proofs.FileSystem.Walk

set_option autoImplicit false

/-!
# What a change leaves alone

A bare entry is an entry without what is below it. Putting a file where no folder is changes the
bare entry at one place only, and taking away what was put there gives the former file system back.
-/
namespace Outline

namespace Entry

/-- An entry without what is below it. -/
def bare : Entry → Entry
  | folder _ => folder []
  | e => e

theorem bare_eq_folder {e : Entry} {entries : List (String × Entry)}
    (h : e.bare = (folder entries).bare) : ∃ below, e = folder below := by
  cases e with
  | file bytes mode => cases h
  | link target => cases h
  | folder below => exact ⟨below, rfl⟩

theorem eq_of_bare_eq {e e' : Entry} (h : e.bare = e'.bare) (he : e'.isFolder = false) :
    e = e' := by
  cases e' with
  | folder entries => cases he
  | file bytes mode => cases e <;> cases h; rfl
  | link target => cases e <;> cases h; rfl

theorem find?_cons_of_not_folder {e : Entry} (h : e.isFolder = false) (name : String)
    (rest : Location) : e.find? (name :: rest) = none := by
  cases e with
  | file bytes mode => rfl
  | link target => rfl
  | folder entries => cases h

theorem find?_concat_singleton {only name : String} {e found : Entry}
    {folders : List String} (he : e.isFolder = false)
    (h : (folder [(only, e)]).find? (folders ++ [name]) = some found) :
    folders = [] ∧ name = only ∧ found = e := by
  cases folders with
  | nil =>
    rw [List.nil_append, find?_folder_cons, List.lookup_cons] at h
    cases hn : name == only with
    | false => simp [hn] at h
    | true =>
      rw [hn] at h
      exact ⟨rfl, beq_iff_eq.1 hn, by simpa using h.symm⟩
  | cons first folders =>
    rw [List.cons_append, find?_folder_cons, List.lookup_cons] at h
    cases hn : first == only with
    | false => simp [hn] at h
    | true =>
      obtain ⟨next, rest, hrest⟩ := List.exists_cons_of_ne_nil
        (show folders ++ [name] ≠ [] by simp)
      simp [hn, hrest, find?_cons_of_not_folder he] at h

/-! ## Among the entries of a folder -/

theorem lookup_map_snd (entries : List (String × Entry)) (g : String → Entry → Entry)
    (name : String) : (entries.map fun x => (x.1, g x.1 x.2)).lookup name =
      (entries.lookup name).map (g name) := by
  induction entries with
  | nil => rfl
  | cons x rest ih =>
    obtain ⟨first, e⟩ := x
    rw [List.map_cons, List.lookup_cons, List.lookup_cons, ih]
    cases hn : name == first with
    | false => rfl
    | true => rw [beq_iff_eq.1 hn]; rfl

theorem lookup_eq_none_iff_not_any (entries : List (String × Entry)) (name : String) :
    entries.lookup name = none ↔ entries.any (·.1 == name) = false := by
  induction entries with
  | nil => simp
  | cons x rest ih =>
    obtain ⟨first, e⟩ := x
    rw [List.lookup_cons, List.any_cons, Bool.or_eq_false_iff, ← ih]
    by_cases hn : name = first
    · simp [hn]
    · simp [beq_eq_false_iff_ne.2 hn, beq_eq_false_iff_ne.2 (Ne.symm hn)]

theorem insert_of_lookup_eq_none {entries : List (String × Entry)} {name : String}
    (h : entries.lookup name = none) (e : Entry) :
    insert entries name e = entries ++ [(name, e)] := by
  rw [lookup_eq_none_iff_not_any] at h
  rw [insert, if_neg (by simp [h])]

theorem insert_of_lookup_eq_some {entries : List (String × Entry)} {name : String} {old : Entry}
    (h : entries.lookup name = some old) (e : Entry) : insert entries name e =
      entries.map fun x => (x.1, if x.1 = name then e else x.2) := by
  have hany : entries.any (·.1 == name) := by
    by_contra hn
    rw [Bool.not_eq_true, ← lookup_eq_none_iff_not_any, h] at hn
    cases hn
  rw [insert, if_pos hany]
  refine List.map_congr_left fun x _ => ?_
  by_cases hx : x.1 = name <;> simp [hx]

theorem lookup_insert (entries : List (String × Entry)) (name other : String) (e : Entry) :
    (insert entries name e).lookup other =
      if other = name then some e else entries.lookup other := by
  cases h : entries.lookup name with
  | none =>
    rw [insert_of_lookup_eq_none h, List.lookup_append]
    by_cases hn : other = name
    · simp [hn, h]
    · simp [List.lookup_cons, beq_eq_false_iff_ne.2 hn, hn]
  | some old =>
    rw [insert_of_lookup_eq_some h,
      lookup_map_snd entries fun n below => if n = name then e else below]
    by_cases hn : other = name
    · simp [hn, h]
    · simp [hn]

theorem erase_insert {entries : List (String × Entry)} {name : String}
    (h : entries.lookup name = none) (e : Entry) :
    erase (insert entries name e) name = entries := by
  rw [insert_of_lookup_eq_none h, erase, List.filter_append]
  rw [lookup_eq_none_iff_not_any, List.any_eq_false] at h
  have hkept : entries.filter (·.1 != name) = entries :=
    List.filter_eq_self.2 fun x hx => by simpa using h x hx
  simp [hkept]

theorem insert_insert (entries : List (String × Entry)) (name : String) (e e' : Entry) :
    insert (insert entries name e) name e' = insert entries name e' := by
  have hlookup : (insert entries name e).lookup name = some e := by
    rw [lookup_insert, if_pos rfl]
  rw [insert_of_lookup_eq_some hlookup]
  cases h : entries.lookup name with
  | none =>
    rw [insert_of_lookup_eq_none h, insert_of_lookup_eq_none h, List.map_append]
    rw [lookup_eq_none_iff_not_any, List.any_eq_false] at h
    congr 1
    · refine (List.map_congr_left fun x hx => ?_).trans (List.map_id entries)
      rw [if_neg (by simpa using h x hx)]
      rfl
    · simp
  | some old =>
    rw [insert_of_lookup_eq_some h, insert_of_lookup_eq_some h, List.map_map]
    refine List.map_congr_left fun x _ => ?_
    by_cases hx : x.1 = name <;> simp [hx]

theorem insert_eq_self {entries : List (String × Entry)} {name : String} {e : Entry}
    (hnames : (entries.map Prod.fst).Nodup) (h : entries.lookup name = some e) :
    insert entries name e = entries := by
  rw [insert_of_lookup_eq_some h]
  refine (List.map_congr_left fun x hx => ?_).trans (List.map_id entries)
  by_cases hn : x.1 = name
  · have hx' := (lookup_eq_some_iff_mem hnames x.1 x.2).2 hx
    rw [hn, h, Option.some_inj] at hx'
    rw [if_pos hn, hx']
    rfl
  · rw [if_neg hn]
    rfl

theorem isProper_insert {entries : List (String × Entry)} {name : String} {e : Entry}
    (h : (folder entries).isProper) (hname : Path.IsName name) (he : e.isProper) :
    (folder (insert entries name e)).isProper := by
  rw [isProper_folder] at h ⊢
  obtain ⟨hnames, hnodup, hbelow⟩ := h
  cases hl : entries.lookup name with
  | none =>
    rw [insert_of_lookup_eq_none hl]
    rw [lookup_eq_none_iff_not_any, List.any_eq_false] at hl
    refine ⟨?_, ?_, ?_⟩
    · exact List.forall_mem_append.2 ⟨hnames, List.forall_mem_singleton.2 hname⟩
    · rw [List.map_append, List.nodup_append]
      refine ⟨hnodup, List.nodup_singleton _, ?_⟩
      intro a ha b hb
      obtain ⟨x, hx, rfl⟩ := List.mem_map.1 ha
      have hne := hl x hx
      simp only [List.map_cons, List.map_nil, List.mem_singleton] at hb
      simpa [hb] using hne
    · exact List.forall_mem_append.2 ⟨hbelow, List.forall_mem_singleton.2 he⟩
  | some old =>
    rw [insert_of_lookup_eq_some hl]
    refine ⟨?_, ?_, ?_⟩
    · intro x hx
      obtain ⟨y, hy, rfl⟩ := List.mem_map.1 hx
      exact hnames y hy
    · simpa [List.map_map, Function.comp_def] using hnodup
    · intro x hx
      obtain ⟨y, hy, rfl⟩ := List.mem_map.1 hx
      simp only
      split_ifs
      · exact he
      · exact hbelow y hy

/-! ## Below an entry -/

variable {change change' : List (String × Entry) → List (String × Entry)}

theorem mapFolder_cons (first : String) (place : Location) (entries : List (String × Entry)) :
    (folder entries).mapFolder change (first :: place) =
      folder (entries.map fun x =>
        (x.1, if x.1 = first then mapFolder change place x.2 else x.2)) := by
  rw [mapFolder]
  congr 1
  refine List.map_congr_left fun x _ => ?_
  by_cases hx : x.1 = first <;> simp [hx]

theorem isFolder_mapFolder (place : Location) (e : Entry) :
    (e.mapFolder change place).isFolder = e.isFolder := by
  cases e with
  | file bytes mode => cases place <;> rfl
  | link target => cases place <;> rfl
  | folder entries => cases place <;> rfl

theorem bare_mapFolder (place : Location) (e : Entry) :
    (e.mapFolder change place).bare = e.bare := by
  cases e with
  | file bytes mode => cases place <;> rfl
  | link target => cases place <;> rfl
  | folder entries => cases place <;> rfl

theorem mapFolder_mapFolder (place : Location) (e : Entry) :
    (e.mapFolder change place).mapFolder change' place =
      e.mapFolder (fun entries => change' (change entries)) place := by
  induction place generalizing e with
  | nil => cases e <;> rfl
  | cons first place ih =>
    cases e with
    | file bytes mode => rfl
    | link target => rfl
    | folder entries =>
      rw [mapFolder_cons, mapFolder_cons, mapFolder_cons, List.map_map]
      congr 1
      refine List.map_congr_left fun x _ => ?_
      by_cases hx : x.1 = first <;> simp [hx, ih]

theorem mapFolder_eq_self {e : Entry} {place : Location} {entries : List (String × Entry)}
    (he : e.isProper) (h : e.find? place = some (folder entries))
    (hchange : change entries = entries) : e.mapFolder change place = e := by
  induction place generalizing e with
  | nil =>
    rw [find?_nil, Option.some_inj] at h
    rw [h, mapFolder, hchange]
  | cons first place ih =>
    obtain ⟨above, below, rfl, hl, hf⟩ := exists_folder_of_find?_cons h
    rw [isProper_folder] at he
    rw [mapFolder_cons]
    refine congrArg folder ((List.map_congr_left fun x hx => ?_).trans (List.map_id above))
    by_cases hn : x.1 = first
    · have hx' := (lookup_eq_some_iff_mem he.2.1 x.1 x.2).2 hx
      rw [hn, hl, Option.some_inj] at hx'
      have hmem := (lookup_eq_some_iff_mem he.2.1 first below).1 hl
      rw [if_pos hn, ← hx', ih (he.2.2 _ hmem) hf, hx']
      rfl
    · rw [if_neg hn]
      rfl

theorem isProper_mapFolder {e : Entry} (place : Location) (he : e.isProper)
    (hchange : ∀ entries, (folder entries).isProper → (folder (change entries)).isProper) :
    (e.mapFolder change place).isProper := by
  induction place generalizing e with
  | nil =>
    cases e with
    | file bytes mode => exact he
    | link target => exact he
    | folder entries => exact hchange entries he
  | cons first place ih =>
    cases e with
    | file bytes mode => exact he
    | link target => exact he
    | folder entries =>
      rw [mapFolder_cons]
      rw [isProper_folder] at he ⊢
      obtain ⟨hnames, hnodup, hbelow⟩ := he
      refine ⟨?_, by simpa [List.map_map, Function.comp_def] using hnodup, ?_⟩
      · intro x hx
        obtain ⟨y, hy, rfl⟩ := List.mem_map.1 hx
        exact hnames y hy
      · intro x hx
        obtain ⟨y, hy, rfl⟩ := List.mem_map.1 hx
        simp only
        split_ifs
        · exact ih (hbelow y hy)
        · exact hbelow y hy

theorem find?_mapFolder_self {e : Entry} {place : Location} {entries : List (String × Entry)}
    (h : e.find? place = some (folder entries)) :
    (e.mapFolder change place).find? place = some (folder (change entries)) := by
  induction place generalizing e with
  | nil =>
    rw [find?_nil, Option.some_inj] at h
    rw [h, mapFolder, find?_nil]
  | cons first place ih =>
    obtain ⟨above, below, rfl, hl, hf⟩ := exists_folder_of_find?_cons h
    rw [mapFolder_cons, find?_folder_cons, lookup_map_snd above fun n below =>
      if n = first then mapFolder change place below else below, hl]
    simpa using ih hf

/-- A change to one name in a folder is seen only through this name. -/
theorem bare_find?_mapFolder {name : String} (e : Entry) (place loc : Location)
    (hchange : ∀ entries other, other ≠ name → (change entries).lookup other = entries.lookup other)
    (hloc : ¬ place ++ [name] <+: loc) :
    ((e.mapFolder change place).find? loc).map bare = (e.find? loc).map bare := by
  induction place generalizing e loc with
  | nil =>
    cases loc with
    | nil => rw [find?_nil, find?_nil, Option.map_some, Option.map_some, bare_mapFolder]
    | cons first loc =>
      cases e with
      | file bytes mode => rfl
      | link target => rfl
      | folder entries =>
        have hne : first ≠ name := fun heq => hloc ⟨loc, by simp [heq]⟩
        rw [mapFolder, find?_folder_cons, find?_folder_cons, hchange entries first hne]
  | cons first place ih =>
    cases loc with
    | nil => rw [find?_nil, find?_nil, Option.map_some, Option.map_some, bare_mapFolder]
    | cons step loc =>
      cases e with
      | file bytes mode => rfl
      | link target => rfl
      | folder entries =>
        rw [mapFolder_cons, find?_folder_cons, find?_folder_cons,
          lookup_map_snd entries fun n below =>
            if n = first then mapFolder change place below else below]
        cases entries.lookup step with
        | none => rfl
        | some below =>
          by_cases hs : step = first
          · have hrest : ¬ place ++ [name] <+: loc := by
              rintro ⟨rest, rfl⟩
              exact hloc ⟨rest, by simp [hs]⟩
            simpa [hs] using ih below loc hrest
          · simp [hs]

end Entry

namespace FileSystem

/-- What stands at a place, without what is below it. -/
def bareAt? (fs : FileSystem) (place : Location) : Option Entry := (fs.at? place).map Entry.bare

theorem root_mapFolder (change : List (String × Entry) → List (String × Entry)) (place : Location)
    (fs : FileSystem) : (fs.mapFolder change place).root = fs.root.mapFolder change place := by
  have hfolder : (fs.root.mapFolder change place).isFolder := Entry.isFolder_mapFolder place fs.root
  unfold mapFolder
  cases hm : fs.root.mapFolder change place with
  | file bytes mode => simp [hm, Entry.isFolder] at hfolder
  | link target => simp [hm, Entry.isFolder] at hfolder
  | folder entries => rfl

theorem eq_of_root_eq {fs fs' : FileSystem} (h : fs.root = fs'.root) : fs = fs' := by
  cases fs
  cases fs'
  simpa [root] using h

theorem exists_of_bareAt? {fs fs' : FileSystem} {place : Location} {e : Entry}
    (h : fs'.bareAt? place = fs.bareAt? place) (hf : fs.at? place = some e) :
    ∃ e', fs'.at? place = some e' ∧ e'.bare = e.bare := by
  rwa [bareAt?, bareAt?, hf, Option.map_some, Option.map_eq_some_iff] at h

theorem exists_folder_of_bareAt? {fs fs' : FileSystem} {place : Location}
    {entries : List (String × Entry)} (h : fs'.bareAt? place = fs.bareAt? place)
    (hf : fs.at? place = some (.folder entries)) :
    ∃ entries', fs'.at? place = some (.folder entries') := by
  obtain ⟨e, he, hb⟩ := exists_of_bareAt? h hf
  obtain ⟨below, rfl⟩ := Entry.bare_eq_folder hb
  exact ⟨below, he⟩

theorem at?_eq_of_bareAt? {fs fs' : FileSystem} {place : Location} {e : Entry}
    (h : fs'.bareAt? place = fs.bareAt? place) (hf : fs.at? place = some e)
    (he : e.isFolder = false) : fs'.at? place = some e := by
  obtain ⟨e', he', hb⟩ := exists_of_bareAt? h hf
  rw [he', Entry.eq_of_bare_eq hb he]

theorem at?_eq_none_of_bareAt? {fs fs' : FileSystem} {place : Location}
    (h : fs'.bareAt? place = fs.bareAt? place) (hf : fs.at? place = none) :
    fs'.at? place = none := by
  simpa [bareAt?, hf] using h

theorem all_not_isFolder_bareAt? (fs : FileSystem) (place : Location) :
    (fs.bareAt? place).all (!·.isFolder) = (fs.at? place).all (!·.isFolder) := by
  rw [bareAt?, Option.all_map]
  congr 1
  funext e
  cases e <;> rfl

section Insert

variable {fs : FileSystem} {place : Location} {entries : List (String × Entry)} {name : String}
  {e : Entry}

theorem at?_insertAt (h : fs.at? place = some (.folder entries)) (e : Entry) (rest : Location) :
    (fs.insertAt place name e).at? (place ++ name :: rest) = e.find? rest := by
  have hself : (fs.insertAt place name e).at? place =
      some (.folder (Entry.insert entries name e)) := by
    rw [at?, insertAt, root_mapFolder]
    exact Entry.find?_mapFolder_self h
  rw [at?_append_of_folder hself, Entry.find?_folder_cons, Entry.lookup_insert, if_pos rfl]
  rfl

/-- Putting a file where no folder is changes nothing elsewhere. -/
theorem bareAt?_insertAt (h : fs.at? place = some (.folder entries)) (he : e.isFolder = false)
    (hold : (fs.at? (place ++ [name])).all (!·.isFolder)) {loc : Location}
    (hloc : loc ≠ place ++ [name]) : (fs.insertAt place name e).bareAt? loc = fs.bareAt? loc := by
  by_cases hbelow : place ++ [name] <+: loc
  · -- below a place that holds no folder, before or after, there is nothing
    obtain ⟨rest, rfl⟩ := hbelow
    obtain ⟨first, rest, rfl⟩ := List.exists_cons_of_ne_nil
      (show rest ≠ [] from fun hr => hloc (by simp [hr]))
    have hnew : (fs.insertAt place name e).at? (place ++ [name] ++ first :: rest) = none := by
      rw [List.append_assoc]
      exact (at?_insertAt h e (first :: rest)).trans (Entry.find?_cons_of_not_folder he first rest)
    have hnone : fs.at? (place ++ [name] ++ first :: rest) = none := by
      rw [at?_append]
      cases hf : fs.at? (place ++ [name]) with
      | none => rfl
      | some old =>
        rw [hf, Option.all_some, Bool.not_eq_true'] at hold
        exact Entry.find?_cons_of_not_folder hold first rest
    rw [bareAt?, bareAt?, hnew, hnone]
  · rw [bareAt?, at?, insertAt, root_mapFolder]
    refine Entry.bare_find?_mapFolder fs.root place loc ?_ hbelow
    intro entries other hne
    rw [Entry.lookup_insert, if_neg hne]

theorem all_not_isFolder_insertAt (h : fs.at? place = some (.folder entries))
    (hnone : fs.at? (place ++ [name]) = none) (he : e.isFolder = false) (loc : Location) :
    ((fs.insertAt place name e).at? loc).all (!·.isFolder) = (fs.at? loc).all (!·.isFolder) := by
  by_cases hloc : loc = place ++ [name]
  · subst hloc
    rw [at?_insertAt h, hnone]
    simp [he]
  · rw [← all_not_isFolder_bareAt?, ← all_not_isFolder_bareAt?,
      bareAt?_insertAt h he (by simp [hnone]) hloc]

theorem isProper_insertAt (hfs : fs.isProper) (place : Location) (hname : Path.IsName name)
    (he : e.isProper) : (fs.insertAt place name e).isProper := by
  rw [isProper, insertAt, root_mapFolder]
  exact Entry.isProper_mapFolder place hfs fun _ h => Entry.isProper_insert h hname he

theorem lookup_eq_of_at? (h : fs.at? place = some (.folder entries)) (name : String) :
    entries.lookup name = fs.at? (place ++ [name]) := by
  rw [at?_append_of_folder h, Entry.find?_folder_cons]
  cases entries.lookup name <;> simp

theorem eraseAt_insertAt (hfs : fs.isProper) (h : fs.at? place = some (.folder entries))
    (hnone : fs.at? (place ++ [name]) = none) (e : Entry) :
    (fs.insertAt place name e).eraseAt place name = fs := by
  apply eq_of_root_eq
  rw [eraseAt, root_mapFolder, insertAt, root_mapFolder, Entry.mapFolder_mapFolder]
  rw [← lookup_eq_of_at? h] at hnone
  exact Entry.mapFolder_eq_self hfs h (Entry.erase_insert hnone e)

theorem insertAt_insertAt (fs : FileSystem) (place : Location) (name : String) (e e' : Entry) :
    (fs.insertAt place name e).insertAt place name e' = fs.insertAt place name e' := by
  apply eq_of_root_eq
  simp only [insertAt, root_mapFolder, Entry.mapFolder_mapFolder, Entry.insert_insert]

theorem insertAt_eq_self (hfs : fs.isProper) (h : fs.at? place = some (.folder entries))
    (he : fs.at? (place ++ [name]) = some e) : fs.insertAt place name e = fs := by
  apply eq_of_root_eq
  rw [insertAt, root_mapFolder]
  rw [← lookup_eq_of_at? h] at he
  have hproper := isProper_of_at? hfs h
  rw [Entry.isProper_folder] at hproper
  exact Entry.mapFolder_eq_self hfs h (Entry.insert_eq_self hproper.2.1 he)

end Insert

end FileSystem

end Outline
