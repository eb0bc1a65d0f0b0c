import Outline.Proofs.FileSystem.Walk

set_option autoImplicit false

/-!
# Where links lead

A link leads to a folder or to a file, or it leads nowhere. In a file system whose links are settled
the only reason for leading nowhere is that something is missing: no link runs in a circle, passes
through a file or has a name that is too long.
-/
namespace Outline.FileSystem

/-- What an entry of the folder at a place is, looked at from there: a link is what it leads to. -/
def follow (fs : FileSystem) (place : Location) (name : String) : Except FileCause Entry :=
  match fs.walk maxLinks place [name] with
  | .error cause => .error cause
  | .ok goal =>
    match fs.at? goal with
    | some e => .ok e
    | none => .error .missing

/-- Whether a link stands at a place and something is missing on the way to its target. -/
def isDangling (fs : FileSystem) (place : Location) : Bool :=
  match fs.at? place, place.getLast? with
  | some (.link _), some name =>
    match fs.follow place.dropLast name with
    | .error .missing => true
    | _ => false
  | _, _ => false

mutual

/-- Whether every link among the entries of the folder at a place, or below them, leads somewhere or
lacks something on its way. -/
def settledAmong (fs : FileSystem) (place : Location) : List (String × Entry) → Bool
  | [] => true
  | (name, e) :: rest => settledAt fs place name e && settledAmong fs place rest

/-- Whether this holds of one entry. -/
def settledAt (fs : FileSystem) (place : Location) (name : String) : Entry → Bool
  | .file .. => true
  | .folder entries => settledAmong fs (place ++ [name]) entries
  | .link _ =>
    match fs.follow place name with
    | .ok _ | .error .missing => true
    | .error _ => false

end

/-- Whether every link leads somewhere or lacks something on its way. -/
def linksSettled (fs : FileSystem) : Bool := settledAmong fs [] fs.entries

theorem settledAmong_iff {fs : FileSystem} {place : Location} {entries : List (String × Entry)} :
    settledAmong fs place entries ↔ ∀ x ∈ entries, settledAt fs place x.1 x.2 := by
  induction entries with
  | nil => simp [settledAmong]
  | cons x rest ih => simp [settledAmong, ih]

theorem settledAt_of_find? {fs : FileSystem} {place folders : Location} {name : String}
    {entries : List (String × Entry)} {e : Entry} (h : (Entry.folder entries).isProper)
    (hs : settledAmong fs place entries)
    (hf : (Entry.folder entries).find? (folders ++ [name]) = some e) :
    settledAt fs (place ++ folders) name e := by
  induction folders generalizing place entries with
  | nil =>
    obtain ⟨_, below, he, hl, hb⟩ := Entry.exists_folder_of_find?_cons hf
    cases he
    rw [Entry.find?_nil, Option.some_inj] at hb
    rw [Entry.isProper_folder] at h
    have hm := (Entry.lookup_eq_some_iff_mem h.2.1 name below).1 hl
    simpa [hb] using settledAmong_iff.1 hs _ hm
  | cons first folders ih =>
    obtain ⟨_, below, he, hl, hb⟩ := Entry.exists_folder_of_find?_cons hf
    cases he
    rw [Entry.isProper_folder] at h
    have hm := (Entry.lookup_eq_some_iff_mem h.2.1 first below).1 hl
    obtain ⟨deeper, rfl⟩ := Entry.exists_folder_of_find?_concat hb
    have hdeeper : settledAmong fs (place ++ [first]) deeper := by
      simpa [settledAt] using settledAmong_iff.1 hs _ hm
    rw [List.append_cons]
    exact ih (h.2.2 _ hm) hdeeper hb

theorem settledAmong_of_at? {fs : FileSystem} {place : Location}
    {entries : List (String × Entry)} (hfs : fs.isProper) (hs : fs.linksSettled)
    (h : fs.at? place = some (.folder entries)) : settledAmong fs place entries := by
  rcases List.eq_nil_or_concat place with rfl | ⟨folders, name, rfl⟩
  · cases h
    exact hs
  · rw [List.concat_eq_append] at h ⊢
    have hfound := settledAt_of_find? hfs hs h
    simpa [settledAt] using hfound

theorem isDangling_link {fs : FileSystem} {place : Location} {name target : String}
    (h : fs.at? (place ++ [name]) = some (.link target)) :
    fs.isDangling (place ++ [name]) ↔ fs.follow place name = .error .missing := by
  unfold isDangling
  rw [h, List.getLast?_concat, List.dropLast_concat]
  cases hf : fs.follow place name with
  | ok e => simp [hf]
  | error cause => cases cause <;> simp [hf]

/-- What is found through a link is a folder or a file. -/
theorem follow_eq_ok {fs : FileSystem} {place : Location} {name : String} {e : Entry}
    {entries : List (String × Entry)} (hplace : fs.at? place = some (.folder entries))
    (h : fs.follow place name = .ok e) : e.isFolder ∨ e.isFile := by
  unfold follow at h
  split at h
  · cases h
  · rename_i goal hwalk
    obtain ⟨found, hf, hkind⟩ := (leads_of_walk hwalk).not_link hplace
    rw [hf] at h
    cases h
    exact hkind

end Outline.FileSystem
