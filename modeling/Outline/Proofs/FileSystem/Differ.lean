import Outline.Proofs.FileSystem.Links
import Outline.Proofs.FileSystem.Meets

set_option autoImplicit false

/-!
# File systems that differ at some places

Two file systems differ only away from a set of places if they show the same everywhere else, and if
at these places neither has a folder or anything named like a source. What a path or a link leads to
is then the same in both, unless it is reached through one of these places.
-/
namespace Outline.FileSystem

/-- Two file systems show the same except at places where neither has a folder and nothing is named
like a source. -/
structure DifferAt (away : Location → Prop) (fs fs' : FileSystem) : Prop where
  same : ∀ loc, ¬ away loc → fs'.bareAt? loc = fs.bareAt? loc
  left : ∀ loc, away loc → (fs.at? loc).all (!·.isFolder)
  right : ∀ loc, away loc → (fs'.at? loc).all (!·.isFolder)
  plain : ∀ place name, away (place ++ [name]) → Path.isSource name = false

/-- Names lead past all the places of a set. -/
def Avoids (fs : FileSystem) (away : Location → Prop) (place : Location) (names : List String) :
    Prop :=
  ¬ fs.Meets (fun p _ => away p) maxLinks place names

/-- A path leads past all the places of a set. -/
def PathAvoids (fs : FileSystem) (away : Location → Prop) (here path : String) : Prop :=
  fs.Avoids away (origin here path) (waypoints path)

/-- A link in a folder leads past all the places of a set. -/
def LinkAvoids (fs : FileSystem) (away : Location → Prop) (place : Location) (target : String) :
    Prop :=
  fs.Avoids away (if Path.isAbsolute target then [] else place) (waypoints target)

variable {fs fs' : FileSystem} {away : Location → Prop} {here path target : String}
  {place : Location}

theorem DifferAt.not_away_of_folder (h : DifferAt away fs fs') {entries : List (String × Entry)}
    (hplace : fs.at? place = some (.folder entries)) : ¬ away place := by
  intro ha
  have hleaf := h.left place ha
  simp [hplace, Entry.isFolder] at hleaf

theorem DifferAt.exists_folder (h : DifferAt away fs fs') {entries : List (String × Entry)}
    (hplace : fs.at? place = some (.folder entries)) :
    ∃ entries', fs'.at? place = some (.folder entries') :=
  exists_folder_of_bareAt? (h.same place (h.not_away_of_folder hplace)) hplace

theorem avoids_of_forall_not (h : ∀ loc, ¬ away loc) (place : Location) (names : List String) :
    fs.Avoids away place names := by
  unfold Avoids
  generalize maxLinks = links
  intro hm
  induction hm with
  | here _ hs => exact h _ hs
  | step _ _ ih => exact ih

theorem DifferAt.walk_eq (h : DifferAt away fs fs') {names : List String}
    (ha : fs.Avoids away place names) :
    fs'.walk maxLinks place names = fs.walk maxLinks place names :=
  walk_eq_of_not_meets (fun loc _ hloc => h.same loc hloc) ha

/-- A walk that avoids all places of a set does not end at one of them. -/
theorem DifferAt.not_away_of_walk (h : DifferAt away fs fs') {goal : Location} {names : List String}
    (hplace : ∀ loc, away loc → ∃ entries, fs.at? place = some (.folder entries))
    (ha : fs.Avoids away place names) (hwalk : fs.walk maxLinks place names = .ok goal) :
    ¬ away goal := by
  intro hgoal
  obtain ⟨entries, hfolder⟩ := hplace goal hgoal
  rcases meets_goal hfolder hwalk with ⟨below, hbelow⟩ | hm
  · exact h.not_away_of_folder hbelow hgoal
  · refine ha (hm.imp ?_)
    rintro p - rfl
    exact hgoal

theorem DifferAt.lookUp_cases (h : DifferAt away fs fs')
    (hhere : ∀ loc, away loc → fs.IsWorkingFolder here) (ha : fs.PathAvoids away here path) :
    (∃ e, fs.lookUp here path = .error e ∧ fs'.lookUp here path = .error e) ∨
    ∃ goal e e', fs.lookUp here path = .ok (goal, e) ∧ fs'.lookUp here path = .ok (goal, e') ∧
      e'.bare = e.bare := by
  unfold lookUp locate
  cases pathFault? path with
  | some cause => exact .inl ⟨_, rfl, rfl⟩
  | none =>
    simp only [h.walk_eq ha]
    cases hwalk : fs.walk maxLinks (origin here path) (waypoints path) with
    | error cause => exact .inl ⟨_, rfl, rfl⟩
    | ok goal =>
      have hgoal := h.not_away_of_walk (fun loc hloc => (hhere loc hloc).origin path) ha hwalk
      have hb := h.same goal hgoal
      cases he : fs.at? goal with
      | none =>
        simp only [he, at?_eq_none_of_bareAt? hb he]
        exact .inl ⟨_, rfl, rfl⟩
      | some e =>
        obtain ⟨e', he', hbare⟩ := exists_of_bareAt? hb he
        simp only [he, he']
        exact .inr ⟨goal, e, e', rfl, rfl, hbare⟩

theorem DifferAt.isFolder_eq (h : DifferAt away fs fs')
    (hhere : ∀ loc, away loc → fs.IsWorkingFolder here) (ha : fs.PathAvoids away here path) :
    fs'.isFolder here path = fs.isFolder here path := by
  unfold isFolder
  rcases h.lookUp_cases hhere ha with ⟨e, hl, hl'⟩ | ⟨goal, e, e', hl, hl', hbare⟩
  · rw [hl, hl']
  · rw [hl, hl']
    cases e <;> cases e' <;> cases hbare <;> rfl

theorem DifferAt.fileBytes_eq (h : DifferAt away fs fs')
    (hhere : ∀ loc, away loc → fs.IsWorkingFolder here) (ha : fs.PathAvoids away here path) :
    fs'.fileBytes here path = fs.fileBytes here path := by
  unfold fileBytes
  rcases h.lookUp_cases hhere ha with ⟨e, hl, hl'⟩ | ⟨goal, e, e', hl, hl', hbare⟩
  · rw [hl, hl']
  · rw [hl, hl']
    cases e <;> cases e' <;> cases hbare <;> rfl

theorem DifferAt.listFolder_cases (h : DifferAt away fs fs')
    (hhere : ∀ loc, away loc → fs.IsWorkingFolder here) (ha : fs.PathAvoids away here path) :
    (∃ e, fs.listFolder here path = .error e ∧ fs'.listFolder here path = .error e) ∨
    ∃ place entries entries', fs.listFolder here path = .ok (place, entries) ∧
      fs'.listFolder here path = .ok (place, entries') := by
  unfold listFolder
  rcases h.lookUp_cases hhere ha with ⟨e, hl, hl'⟩ | ⟨goal, e, e', hl, hl', hbare⟩
  · exact .inl ⟨e, by rw [hl], by rw [hl']⟩
  · rw [hl, hl']
    cases e <;> cases e' <;> cases hbare
    · exact .inl ⟨_, rfl, rfl⟩
    · exact .inl ⟨_, rfl, rfl⟩
    · exact .inr ⟨goal, _, _, rfl, rfl⟩

theorem DifferAt.isWorkingFolder (h : fs.DifferAt away fs') (hhere : fs.IsWorkingFolder here) :
    fs'.IsWorkingFolder here := by
  obtain ⟨entries, hplace⟩ := hhere.exists_folder
  obtain ⟨entries', hplace'⟩ := h.exists_folder hplace
  exact ⟨hhere.isAbsolute, by simp [hplace', Entry.isFolder]⟩

/-- A folder that avoids the places where two file systems differ has its names at the same place in
both. -/
theorem DifferAt.locateName_join_eq (h : fs.DifferAt away fs') {folder avoiding name : String}
    (hname : Path.IsName name) (hfolder : origin here folder = origin here avoiding ∧
      Path.steps folder = Path.steps avoiding)
    (ha : fs.PathAvoids away here avoiding)
    (hl : fs.locateName here (Path.join folder name) = .ok (place, some name)) :
    fs'.locateName here (Path.join folder name) = .ok (place, some name) := by
  refine locateName_eq_of_walk (h.walk_eq fun hm => ha ?_) hl
  rw [parentAndName_join hname, origin_join hname.1, hfolder.1, hfolder.2] at hm
  exact meets_waypoints_iff.2 (meets_concat_dot_iff.1 hm)

/-! ## Paths below a base -/

theorem Leads.unique {place goal goal' : Location} {names : List String}
    {entries : List (String × Entry)} (h : Leads fs place names goal)
    (hgoal : fs.at? goal = some (.folder entries)) (h' : Leads fs place names goal') :
    goal' = goal := by
  rw [← List.append_nil names] at h'
  cases h.of_append hgoal h'
  rfl

/-- A walk down through real folders meets a spot at one of them, or goes on from the last. -/
theorem Meets.down_of_append {spot : Location → List String → Prop} {links : ℕ} {place : Location}
    {folders rest : List String} {entries : List (String × Entry)}
    (hnames : ∀ name ∈ folders, Path.IsName name)
    (hfolder : fs.at? (place ++ folders) = some (.folder entries))
    (hspot : ∀ loc below names, fs.at? loc = some (.folder below) → names ≠ [] → ¬ spot loc names)
    (hrest : rest ≠ []) (h : fs.Meets spot links place (folders ++ rest)) :
    fs.Meets spot links (place ++ folders) rest := by
  induction folders generalizing links place with
  | nil => simpa using h
  | cons first folders ih =>
    have hfirst := hnames first (by simp)
    rw [List.append_cons] at hfolder ⊢
    obtain ⟨below, hb⟩ : ∃ below, fs.at? (place ++ [first]) = some (.folder below) := by
      cases folders with
      | nil => exact ⟨entries, by simpa using hfolder⟩
      | cons next folders => exact exists_folder_of_at?_append hfolder
    cases h with
    | here _ hs => exact absurd hs (hspot _ _ _ hb (by simp [hrest]))
    | step hs tail =>
      cases hs with
      | stay hdot => exact absurd hdot hfirst.2.1
      | up hup => exact absurd hup hfirst.2.2
      | down _ _ => exact ih (fun n hn => hnames n (by simp [hn])) hfolder tail
      | link _ hl => simp [hb] at hl

/-- A path that goes straight down to a folder avoids all places without a folder. -/
theorem pathAvoids_of_folder {entries : List (String × Entry)}
    (hnames : ∀ name ∈ waypoints path, Path.IsName name)
    (hfolder : fs.at? (origin here path ++ waypoints path) = some (.folder entries))
    (haway : ∀ loc below, fs.at? loc = some (.folder below) → ¬ away loc) :
    fs.PathAvoids away here path := by
  intro hm
  have hdot := hm.append ["."]
  have hend := hdot.down_of_append hnames hfolder (fun loc below _ hb _ => haway loc below hb)
    (by simp)
  exact not_meets_dot hend

/-- The way along a path through real folders below a base meets a spot before it comes to the base,
at its end, or, if there is a link, after that. -/
theorem meets_below_cases {spot : Location → List String → Prop} {base name : String}
    {folders : List String} {entries : List (String × Entry)} {e : Entry}
    (hl : fs.listFolder here base = .ok (place, entries))
    (hnames : ∀ n ∈ folders ++ [name], Path.IsName n)
    (he : fs.at? (place ++ folders ++ [name]) = some e)
    (hspot : ∀ loc below names, fs.at? loc = some (.folder below) → names ≠ [] → ¬ spot loc names)
    (h : fs.Meets spot maxLinks (origin here ((folders ++ [name]).foldl Path.join base))
      (waypoints ((folders ++ [name]).foldl Path.join base))) :
    fs.Meets (fun p rest => spot p (rest ++ (folders ++ [name]))) maxLinks (origin here base)
        (Path.steps base) ∨
      spot (place ++ folders ++ [name]) [] ∨
      ∃ target, e = .link target ∧ fs.Meets spot maxLinks
        (if Path.isAbsolute target then [] else place ++ folders) (waypoints target) := by
  have hpieces : ∀ n ∈ folders ++ [name], Path.IsPiece n := fun n hn => (hnames n hn).1
  have htop := at?_of_listFolder hl
  rw [origin, Path.isAbsolute_foldl_join base hpieces, ← origin,
    waypoints_foldl_join base (by simp) hpieces] at h
  rcases h.of_append rfl with hm | ⟨fewer, middle, hle, hleads, hm⟩
  · exact .inl hm
  · -- from the base on, the walk goes down to the end
    refine .inr ?_
    have hbase := (leads_of_walk (lookUp_eq_ok (listFolder_eq_ok hl)).1).of_waypoints
    rw [hbase.unique htop hleads] at hm
    obtain ⟨above, habove⟩ := exists_folder_of_at?_append he
    have hend := hm.down_of_append (fun n hn => hnames n (List.mem_append_left _ hn)) habove hspot
      (by simp)
    have hlast := hnames name (by simp)
    cases hend with
    | here _ hs => exact .inl hs
    | step hs tail =>
      cases hs with
      | stay hdot => exact absurd hdot hlast.2.1
      | up hup => exact absurd hup hlast.2.2
      | down _ _ => exact absurd tail not_meets_nil
      | link _ hlink =>
        rw [he, Option.some_inj] at hlink
        rw [List.append_nil] at tail
        exact .inr ⟨_, hlink, tail.mono (Nat.le_of_succ_le hle)⟩

theorem DifferAt.pathAvoids_below (h : DifferAt away fs fs') {base name : String}
    {folders : List String} {entries : List (String × Entry)} {e : Entry} (hfs : fs.isProper)
    (hl : fs.listFolder here base = .ok (place, entries)) (hbase : fs.PathAvoids away here base)
    (he : fs.at? (place ++ folders ++ [name]) = some e)
    (haway : ¬ away (place ++ folders ++ [name]))
    (hlink : ∀ target, e = .link target → fs.LinkAvoids away (place ++ folders) target) :
    fs.PathAvoids away here ((folders ++ [name]).foldl Path.join base) := by
  intro hm
  have hnames := isName_of_at?_append hfs (List.append_assoc place folders [name] ▸ he)
  rcases meets_below_cases hl hnames he (fun loc below _ hb _ => h.not_away_of_folder hb) hm with
    hm | hend | ⟨target, rfl, hm⟩
  · exact hbase (meets_waypoints_iff.2 hm)
  · exact haway hend
  · exact hlink target rfl hm

theorem DifferAt.pathAvoids_folder_below (h : DifferAt away fs fs') {base name : String}
    {folders : List String} {entries below : List (String × Entry)} (hfs : fs.isProper)
    (hl : fs.listFolder here base = .ok (place, entries)) (hbase : fs.PathAvoids away here base)
    (he : fs.at? (place ++ folders ++ [name]) = some (.folder below)) :
    fs.PathAvoids away here ((folders ++ [name]).foldl Path.join base) := by
  refine h.pathAvoids_below hfs hl hbase he (h.not_away_of_folder he) ?_
  intro target htarget
  cases htarget

end Outline.FileSystem
