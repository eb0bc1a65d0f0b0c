import Outline.Proofs.FileSystem.Change

set_option autoImplicit false

/-!
# Places that a walk meets

A walk looks only at the places that it comes to. `Meets` says that it comes to a spot, which is a
place together with the names that are still ahead. Two file systems that show the same at all other
places give the same walk, as long as it meets no spot.
-/
namespace Outline.FileSystem

/-- A name that is looked up in a folder. -/
def IsLookedUp (name : String) : Prop :=
  name ≠ "." ∧ name ≠ ".." ∧ name.utf8ByteSize ≤ maxNameSize

/-- One step of a walk: the links that may still be followed, the place and the names ahead, before
and after it. -/
inductive Step (fs : FileSystem) : ℕ → Location → List String → ℕ → Location → List String → Prop
  | stay {links : ℕ} {place : Location} {name : String} {rest : List String} (hdot : name = ".") :
      Step fs links place (name :: rest) links place rest
  | up {links : ℕ} {place : Location} {name : String} {rest : List String} (hup : name = "..") :
      Step fs links place (name :: rest) links place.dropLast rest
  | down {links : ℕ} {place : Location} {name : String} {rest : List String}
      {entries : List (String × Entry)} (hname : IsLookedUp name)
      (h : fs.at? (place ++ [name]) = some (.folder entries)) :
      Step fs links place (name :: rest) links (place ++ [name]) rest
  | link {links : ℕ} {place : Location} {name target : String} {rest : List String}
      (hname : IsLookedUp name) (h : fs.at? (place ++ [name]) = some (.link target)) :
      Step fs (links + 1) place (name :: rest) links
        (if Path.isAbsolute target then [] else place) (waypoints target ++ rest)

/-- A walk comes to a spot. -/
inductive Meets (fs : FileSystem) (spot : Location → List String → Prop) :
    ℕ → Location → List String → Prop
  | here {links : ℕ} {place : Location} {name : String} {rest : List String}
      (hname : IsLookedUp name) (h : spot (place ++ [name]) rest) :
      Meets fs spot links place (name :: rest)
  | step {links fewer : ℕ} {place next : Location} {names rest : List String}
      (h : Step fs links place names fewer next rest) (tail : Meets fs spot fewer next rest) :
      Meets fs spot links place names

variable {fs fs' : FileSystem} {spot : Location → List String → Prop}

/-! ## Walks step by step -/

theorem walk_cons (links : ℕ) (place : Location) {name : String} (hname : IsLookedUp name)
    (rest : List String) : fs.walk links place (name :: rest) =
      match fs.at? (place ++ [name]) with
      | none => .error .missing
      | some (.folder _) => fs.walk links (place ++ [name]) rest
      | some (.file ..) => if rest.isEmpty then .ok (place ++ [name]) else .error .notFolder
      | some (.link target) => match links with
        | 0 => .error .tooManyLinks
        | fewer + 1 =>
          fs.walk fewer (if Path.isAbsolute target then [] else place)
            (waypoints target ++ rest) := by
  obtain ⟨hdot, hup, hsize⟩ := hname
  have hlimit : ¬ maxNameSize < name.utf8ByteSize := by omega
  rcases he : fs.at? (place ++ [name]) with _ | (_ | _ | _) <;>
    cases links <;> simp [walk, walkWith, hdot, hup, hlimit, he]

theorem walk_of_step {links fewer : ℕ} {place next : Location} {names rest : List String}
    (h : Step fs links place names fewer next rest) :
    fs.walk links place names = fs.walk fewer next rest := by
  cases h with
  | stay hdot => cases links <;> simp [walk, walkWith, hdot]
  | up hup => cases links <;> simp [walk, walkWith, hup]
  | down hname hf => rw [walk_cons links place hname, hf]
  | link hname hl => rw [walk_cons _ place hname, hl]

/-- Induction over a walk that succeeds. -/
theorem walk_induction {motive : ℕ → Location → List String → Prop} {goal : Location}
    (arrived : ∀ links, motive links goal [])
    (file : ∀ links place name bytes mode, IsLookedUp name →
      fs.at? (place ++ [name]) = some (.file bytes mode) → goal = place ++ [name] →
      motive links place [name])
    (step : ∀ links place names fewer next rest, Step fs links place names fewer next rest →
      motive fewer next rest → motive links place names)
    {links : ℕ} {place : Location} {names : List String}
    (h : fs.walk links place names = .ok goal) : motive links place names := by
  -- a link adds names but uses up one of the links, so the induction on links is the outer one
  induction links using Nat.strong_induction_on generalizing place names with
  | _ links ihlinks =>
    induction names generalizing place with
    | nil =>
      have hgoal : place = goal := by cases links <;> simpa [walk, walkWith] using h
      exact hgoal ▸ arrived links
    | cons name rest ihnames =>
      by_cases hdot : name = "."
      · have hs : Step fs links place (name :: rest) links place rest := .stay hdot
        exact step _ _ _ _ _ _ hs (ihnames (walk_of_step hs ▸ h))
      by_cases hup : name = ".."
      · have hs : Step fs links place (name :: rest) links place.dropLast rest := .up hup
        exact step _ _ _ _ _ _ hs (ihnames (walk_of_step hs ▸ h))
      by_cases hsize : maxNameSize < name.utf8ByteSize
      · cases links <;> simp [walk, walkWith, hdot, hup, hsize] at h
      have hname : IsLookedUp name := ⟨hdot, hup, by omega⟩
      have hcons := @walk_cons fs links place name hname rest
      rcases he : fs.at? (place ++ [name]) with _ | (⟨bytes, mode⟩ | target | entries)
      · simp [hcons, he] at h
      · by_cases hrest : rest = []
        · subst hrest
          have hgoal : place ++ [name] = goal := by simpa [hcons, he] using h
          exact file links place name bytes mode hname he hgoal.symm
        · simp [hcons, he, hrest] at h
      · cases links with
        | zero => simp [hcons, he] at h
        | succ links =>
          have hs := @Step.link fs links place name target rest hname he
          exact step _ _ _ _ _ _ hs (ihlinks links (Nat.lt_succ_self links) (walk_of_step hs ▸ h))
      · have hs := @Step.down fs links place name rest entries hname he
        exact step _ _ _ _ _ _ hs (ihnames (walk_of_step hs ▸ h))

theorem Step.exists_folder {links fewer : ℕ} {place next : Location} {names rest : List String}
    (h : Step fs links place names fewer next rest) {entries : List (String × Entry)}
    (hplace : fs.at? place = some (.folder entries)) :
    ∃ below, fs.at? next = some (.folder below) := by
  cases h with
  | stay => exact ⟨entries, hplace⟩
  | up => exact exists_folder_at?_dropLast hplace
  | down _ hf => exact ⟨_, hf⟩
  | link =>
    split_ifs
    · exact ⟨fs.entries, rfl⟩
    · exact ⟨entries, hplace⟩

/-- A walk that does not end at a folder has met the place where it ends. -/
theorem meets_goal {links : ℕ} {place goal : Location} {names : List String}
    {entries : List (String × Entry)} (hplace : fs.at? place = some (.folder entries))
    (h : fs.walk links place names = .ok goal) :
    (∃ below, fs.at? goal = some (.folder below)) ∨
      fs.Meets (fun p _ => p = goal) links place names := by
  refine walk_induction (motive := fun links place names =>
    (∃ entries, fs.at? place = some (.folder entries)) →
      (∃ below, fs.at? goal = some (.folder below)) ∨
        fs.Meets (fun p _ => p = goal) links place names) ?_ ?_ ?_ h ⟨entries, hplace⟩
  · exact fun _ hfolder => .inl hfolder
  · intro links place name bytes mode hname _ hgoal _
    exact .inr (.here hname hgoal.symm)
  · intro links place names fewer next rest hs ih hfolder
    obtain ⟨above, ha⟩ := hfolder
    rcases ih (hs.exists_folder ha) with hf | hm
    · exact .inl hf
    · exact .inr (.step hs hm)

variable (spot) in
/-- A walk that succeeds meets no spot where there is nothing, or a file with names ahead. -/
theorem not_meets_of_walk_eq_ok {links : ℕ} {place goal : Location} {names : List String}
    (hspot : ∀ p rest, spot p rest → fs.at? p = none ∨
      rest ≠ [] ∧ ∃ bytes mode, fs.at? p = some (.file bytes mode))
    (h : fs.walk links place names = .ok goal) : ¬ fs.Meets spot links place names := by
  -- up to the spot, the walk is the same as from the next step on; at the spot it fails
  intro hm
  induction hm with
  | step hs _ ih =>
    rw [walk_of_step hs] at h
    exact ih h
  | here hname hs =>
    rw [walk_cons _ _ hname] at h
    rcases hspot _ _ hs with hnone | ⟨hrest, bytes, mode, hfile⟩
    · rw [hnone] at h
      cases h
    · rw [hfile] at h
      simp [hrest] at h

section Same

variable {halt : Location → Prop}

/-- What holds at a link holds of the whole walk: it is the same in both file systems, or in the
second it comes to a halt earlier. -/
theorem walkWith_eq_or_halts {links : ℕ}
    {atLink atLink' : Location → List String → Except FileCause Location}
    (hsame : ∀ p rest, ¬ spot p rest → fs'.bareAt? p = fs.bareAt? p ∨
      rest = [] ∧ halt p ∧ ∃ bytes mode, fs'.at? p = some (.file bytes mode))
    (hlink : ∀ place name target rest, IsLookedUp name →
      fs.at? (place ++ [name]) = some (.link target) →
      ¬ fs.Meets spot links place (name :: rest) →
      let start := if Path.isAbsolute target then [] else place
      atLink' start (waypoints target ++ rest) = atLink start (waypoints target ++ rest) ∨
        ∃ p, halt p ∧ atLink' start (waypoints target ++ rest) = .ok p)
    {place : Location} {names : List String} (h : ¬ fs.Meets spot links place names) :
    fs'.walkWith atLink' place names = fs.walkWith atLink place names ∨
      ∃ p, halt p ∧ fs'.walkWith atLink' place names = .ok p := by
  induction names generalizing place with
  | nil => exact .inl rfl
  | cons name rest ih =>
    rw [walkWith, walkWith]
    by_cases hdot : name = "."
    · simpa [hdot] using ih fun hm => h (.step (.stay hdot) hm)
    by_cases hup : name = ".."
    · simpa [hup] using ih fun hm => h (.step (.up hup) hm)
    by_cases hsize : maxNameSize < name.utf8ByteSize
    · simp [hdot, hup, hsize]
    have hname : IsLookedUp name := ⟨hdot, hup, by omega⟩
    simp only [beq_iff_eq, hdot, hup, hsize, if_false]
    rcases hsame (place ++ [name]) rest fun hs => h (.here hname hs) with
      hb | ⟨hrest, hhalt, bytes, mode, hfile⟩
    · cases he : fs.at? (place ++ [name]) with
      | none => exact .inl (by rw [at?_eq_none_of_bareAt? hb he])
      | some e =>
        cases e with
        | folder entries =>
          obtain ⟨entries', he'⟩ := exists_folder_of_bareAt? hb he
          rw [he']
          exact ih fun hm => h (.step (.down hname he) hm)
        | file bytes mode => exact .inl (by rw [at?_eq_of_bareAt? hb he rfl])
        | link target =>
          rw [at?_eq_of_bareAt? hb he rfl]
          exact hlink place name target rest hname he h
    · -- no names are ahead, so the second walk ends at the file, whatever the first one does here
      rw [hfile, hrest]
      exact .inr ⟨_, hhalt, rfl⟩

theorem walk_eq_or_halts {links : ℕ} {place : Location} {names : List String}
    (hsame : ∀ p rest, ¬ spot p rest → fs'.bareAt? p = fs.bareAt? p ∨
      rest = [] ∧ halt p ∧ ∃ bytes mode, fs'.at? p = some (.file bytes mode))
    (h : ¬ fs.Meets spot links place names) :
    fs'.walk links place names = fs.walk links place names ∨
      ∃ p, halt p ∧ fs'.walk links place names = .ok p := by
  induction links generalizing place names with
  | zero => exact walkWith_eq_or_halts hsame (fun _ _ _ _ _ _ _ => .inl rfl) h
  | succ links ih =>
    refine walkWith_eq_or_halts hsame ?_ h
    intro place name target rest hname hl hnot
    exact ih fun hm => hnot (.step (.link hname hl) hm)

/-- A walk that meets no place where two file systems differ is the same in both. -/
theorem walk_eq_of_not_meets {links : ℕ} {place : Location} {names : List String}
    (hsame : ∀ p rest, ¬ spot p rest → fs'.bareAt? p = fs.bareAt? p)
    (h : ¬ fs.Meets spot links place names) :
    fs'.walk links place names = fs.walk links place names := by
  have hor := @walk_eq_or_halts fs fs' spot (fun _ => False) links place names
    (fun p rest hs => .inl (hsame p rest hs)) h
  simpa using hor

end Same

/-! ## Names that go on -/

theorem not_meets_nil {links : ℕ} {place : Location} : ¬ fs.Meets spot links place [] := by
  intro h
  cases h with
  | step hs => cases hs

theorem not_meets_dot {links : ℕ} {place : Location} : ¬ fs.Meets spot links place ["."] := by
  intro h
  cases h with
  | here hname => exact hname.1 rfl
  | step hs tail =>
    cases hs with
    | stay => exact not_meets_nil tail
    | up hup => simp at hup
    | down hname => exact hname.1 rfl
    | link hname => exact hname.1 rfl

theorem Meets.imp {spot' : Location → List String → Prop} {links : ℕ} {place : Location}
    {names : List String} (hspot : ∀ p rest, spot p rest → spot' p rest)
    (h : fs.Meets spot links place names) : fs.Meets spot' links place names := by
  induction h with
  | here hname hs => exact .here hname (hspot _ _ hs)
  | step hs _ ih => exact .step hs ih

theorem Step.add {links fewer : ℕ} {place next : Location} {names rest : List String}
    (h : Step fs links place names fewer next rest) (more : ℕ) :
    Step fs (links + more) place names (fewer + more) next rest := by
  cases h with
  | stay hdot => exact .stay hdot
  | up hup => exact .up hup
  | down hname hf => exact .down hname hf
  | link hname hl =>
    rw [Nat.add_right_comm]
    exact .link hname hl

/-- With more links to follow, a walk still comes to where it came with fewer. -/
theorem Meets.mono {links links' : ℕ} {place : Location} {names : List String}
    (h : fs.Meets spot links place names) (hle : links ≤ links') :
    fs.Meets spot links' place names := by
  obtain ⟨more, rfl⟩ := Nat.exists_eq_add_of_le hle
  clear hle
  induction h with
  | here hname hs => exact .here hname hs
  | step hs _ ih => exact .step (hs.add more) ih

section Append

variable {here : Location → Prop}

/-- A walk along two lists of names meets a spot on the first part, or goes on from where this part
ends. -/
theorem Meets.of_append {links : ℕ} {place : Location} {all a b : List String}
    (h : fs.Meets spot links place all) (hall : all = a ++ b) :
    fs.Meets (fun p rest => spot p (rest ++ b)) links place a ∨ ∃ fewer middle, fewer ≤ links ∧
      Leads fs place a middle ∧ fs.Meets spot fewer middle b := by
  induction h generalizing a with
  | @here links place name rest hname hs =>
    cases a with
    | nil =>
      rw [List.nil_append] at hall
      exact .inr ⟨links, place, le_rfl, .arrived place, hall ▸ .here hname hs⟩
    | cons first a =>
      obtain ⟨rfl, rfl⟩ := List.cons.inj hall
      exact .inl (.here hname hs)
  | @step links fewer place next names rest hs tail ih =>
    cases a with
    | nil =>
      rw [List.nil_append] at hall
      exact .inr ⟨links, place, le_rfl, .arrived place, hall ▸ .step hs tail⟩
    | cons first a =>
      cases hs with
      | stay hdot =>
        obtain ⟨rfl, rfl⟩ := List.cons.inj hall
        rcases ih rfl with hm | ⟨fewer, middle, hle, hl, hm⟩
        · exact .inl (.step (.stay hdot) hm)
        · exact .inr ⟨fewer, middle, hle, .stay hdot hl, hm⟩
      | up hup =>
        obtain ⟨rfl, rfl⟩ := List.cons.inj hall
        rcases ih rfl with hm | ⟨fewer, middle, hle, hl, hm⟩
        · exact .inl (.step (.up hup) hm)
        · exact .inr ⟨fewer, middle, hle, .up hup hl, hm⟩
      | down hname hf =>
        obtain ⟨rfl, rfl⟩ := List.cons.inj hall
        rcases ih rfl with hm | ⟨fewer, middle, hle, hl, hm⟩
        · exact .inl (.step (.down hname hf) hm)
        · exact .inr ⟨fewer, middle, hle, .down hname.1 hname.2.1 hf hl, hm⟩
      | @link _ _ _ target _ hname hf =>
        obtain ⟨rfl, rfl⟩ := List.cons.inj hall
        rcases ih (List.append_assoc _ _ _).symm with hm | ⟨fewer, middle, hle, hl, hm⟩
        · exact .inl (.step (.link hname hf) hm)
        · exact .inr ⟨fewer, middle, hle.trans (Nat.le_succ _), .link hname.1 hname.2.1 hf hl, hm⟩

theorem Meets.append {links : ℕ} {place : Location} {names : List String}
    (h : fs.Meets (fun p _ => here p) links place names) (more : List String) :
    fs.Meets (fun p _ => here p) links place (names ++ more) := by
  induction h with
  | here hname hs => exact .here hname hs
  | step hs _ ih =>
    cases hs with
    | stay hdot => exact .step (.stay hdot) ih
    | up hup => exact .step (.up hup) ih
    | down hname hf => exact .step (.down hname hf) ih
    | link hname hl =>
      rw [List.append_assoc] at ih
      exact .step (.link hname hl) ih

/-- In front of a dot at the end, there are always names ahead. -/
theorem Meets.ahead_of_concat_dot {links : ℕ} {place : Location} {all names : List String}
    (h : fs.Meets (fun p _ => here p) links place all) (hall : all = names ++ ["."]) :
    fs.Meets (fun p rest => here p ∧ rest ≠ []) links place all := by
  induction h generalizing names with
  | here hname hs =>
    cases names with
    | nil => exact absurd (List.cons.inj hall).1 hname.1
    | cons first names =>
      obtain ⟨-, rfl⟩ := List.cons.inj hall
      exact .here hname ⟨hs, by simp⟩
  | step hs tail ih =>
    cases names with
    | nil => exact absurd (hall ▸ Meets.step hs tail) not_meets_dot
    | cons first names =>
      cases hs with
      | stay hdot => exact .step (.stay hdot) (ih (List.cons.inj hall).2)
      | up hup => exact .step (.up hup) (ih (List.cons.inj hall).2)
      | down hname hf => exact .step (.down hname hf) (ih (List.cons.inj hall).2)
      | @link _ _ _ target rest hname hl =>
        have hrest : waypoints target ++ rest = (waypoints target ++ names) ++ ["."] := by
          rw [(List.cons.inj hall).2, List.append_assoc]
          rfl
        exact .step (.link hname hl) (ih hrest)

theorem meets_concat_dot_iff {links : ℕ} {place : Location} {names : List String} :
    fs.Meets (fun p _ => here p) links place (names ++ ["."]) ↔
      fs.Meets (fun p _ => here p) links place names := by
  refine ⟨fun h => ?_, fun h => h.append ["."]⟩
  rcases h.of_append rfl with hm | ⟨_, _, -, -, hm⟩
  · exact hm
  · exact absurd hm not_meets_dot

theorem meets_waypoints_iff {links : ℕ} {place : Location} {path : String} :
    fs.Meets (fun p _ => here p) links place (waypoints path) ↔
      fs.Meets (fun p _ => here p) links place (Path.steps path) := by
  unfold waypoints
  split_ifs
  · exact meets_concat_dot_iff
  · rw [List.append_nil]

end Append

/-! ## The folder in which a path names an entry -/

/-- A working folder is given by the names from the root down to it, none of which is a link. -/
structure IsWorkingFolder (fs : FileSystem) (here : String) : Prop where
  isAbsolute : Path.isAbsolute here
  isFolder : (fs.at? (Path.steps here)).any Entry.isFolder

theorem IsWorkingFolder.exists_folder {here : String} (h : fs.IsWorkingFolder here) :
    ∃ entries, fs.at? (Path.steps here) = some (.folder entries) := by
  have hf := h.isFolder
  rcases he : fs.at? (Path.steps here) with _ | (_ | _ | entries)
  · simp [he] at hf
  · simp [he, Entry.isFolder] at hf
  · simp [he, Entry.isFolder] at hf
  · exact ⟨entries, rfl⟩

theorem IsWorkingFolder.origin {here : String} (h : fs.IsWorkingFolder here) (path : String) :
    ∃ entries, fs.at? (origin here path) = some (.folder entries) := by
  unfold FileSystem.origin
  split_ifs
  · exact ⟨fs.entries, rfl⟩
  · exact h.exists_folder

theorem Leads.exists_folder_of_concat_dot {place goal : Location} {all names : List String}
    (h : Leads fs place all goal) (hall : all = names ++ ["."]) {entries : List (String × Entry)}
    (hplace : fs.at? place = some (.folder entries)) :
    ∃ below, fs.at? goal = some (.folder below) := by
  induction h generalizing names entries with
  | arrived place => simp at hall
  | stay _ next ih =>
    cases names with
    | nil =>
      obtain rfl := (List.cons.inj hall).2
      cases next
      exact ⟨entries, hplace⟩
    | cons first names => exact ih (List.cons.inj hall).2 hplace
  | up hup _ ih =>
    cases names with
    | nil => simp [hup] at hall
    | cons first names =>
      obtain ⟨above, ha⟩ := exists_folder_at?_dropLast hplace
      exact ih (List.cons.inj hall).2 ha
  | down hdot _ hf _ ih =>
    cases names with
    | nil => exact absurd (List.cons.inj hall).1 hdot
    | cons first names => exact ih (List.cons.inj hall).2 hf
  | file hdot _ _ hrest =>
    cases names with
    | nil => exact absurd (List.cons.inj hall).1 hdot
    | cons first names => simp [hrest] at hall
  | @link place _ _ target rest hdot _ _ _ ih =>
    cases names with
    | nil => exact absurd (List.cons.inj hall).1 hdot
    | cons first names =>
      have hrest : waypoints target ++ rest = (waypoints target ++ names) ++ ["."] := by
        rw [(List.cons.inj hall).2, List.append_assoc]
        rfl
      by_cases ht : Path.isAbsolute target
      · rw [if_pos ht] at ih
        exact ih hrest rfl
      · rw [if_neg ht] at ih
        exact ih hrest hplace

theorem locateName_eq_ok_iff {here path name : String} {place : Location} :
    fs.locateName here path = .ok (place, some name) ↔
      pathFault? path = none ∧ (parentAndName path).2 = some name ∧
      name.utf8ByteSize ≤ maxNameSize ∧
      fs.walk maxLinks (origin here path) ((parentAndName path).1 ++ ["."]) = .ok place := by
  unfold locateName
  obtain ⟨before, last⟩ := parentAndName path
  cases pathFault? path with
  | some cause => simp
  | none =>
    cases hw : fs.walk maxLinks (origin here path) (before ++ ["."]) with
    | error cause => simp [hw, bind, Except.bind]
    | ok found =>
      cases last with
      | none => simp [hw, bind, Except.bind, pure, Except.pure]
      | some last =>
        simp only [hw, bind, Except.bind, pure, Except.pure, true_and, Option.some.injEq,
          Except.ok.injEq]
        split_ifs with hsize
        · constructor
          · intro h
            cases h
          · rintro ⟨rfl, hle, -⟩
            omega
        · simp only [Except.ok.injEq, Prod.mk.injEq, Option.some.injEq]
          constructor
          · rintro ⟨rfl, rfl⟩
            exact ⟨rfl, by omega, rfl⟩
          · rintro ⟨rfl, -, rfl⟩
            exact ⟨rfl, rfl⟩

theorem exists_folder_of_locateName {here path name : String} {place : Location}
    (hhere : fs.IsWorkingFolder here) (h : fs.locateName here path = .ok (place, some name)) :
    ∃ entries, fs.at? place = some (.folder entries) := by
  obtain ⟨-, -, -, hwalk⟩ := locateName_eq_ok_iff.1 h
  obtain ⟨entries, ho⟩ := hhere.origin path
  exact (leads_of_walk hwalk).exists_folder_of_concat_dot rfl ho

theorem parentAndName_eq_some {path name : String} (h : (parentAndName path).2 = some name) :
    Path.steps path = (parentAndName path).1 ++ [name] ∧ Path.IsName name := by
  unfold parentAndName at h ⊢
  split at h
  · cases h
  · rename_i last before hr
    have hsteps : Path.steps path = before.reverse ++ [last] := by
      rw [← List.reverse_reverse (Path.steps path), hr, List.reverse_cons]
    by_cases hlast : last == "." || last == ".."
    · simp [hlast] at h
    · simp only [hlast, if_false, Option.some.injEq, Bool.false_eq_true] at h
      subst h
      simp only [Bool.or_eq_true, beq_iff_eq, not_or] at hlast
      have hmem : last ∈ Path.steps path := by simp [hsteps]
      exact ⟨hsteps, Path.isPiece_of_mem_steps hmem, hlast⟩

theorem parentAndName_join {folder name : String} (h : Path.IsName name) :
    parentAndName (Path.join folder name) = (Path.steps folder, some name) := by
  have hsteps : Path.steps (Path.join folder name) = Path.steps folder ++ [name] := by
    rw [Path.steps_join (Path.isAbsolute_of_isPiece h.1), Path.steps_of_isPiece h.1]
  rw [parentAndName, hsteps, List.reverse_append]
  simp [h.2.1, h.2.2]

theorem origin_join {here folder name : String} (h : Path.IsPiece name) :
    origin here (Path.join folder name) = origin here folder := by
  rw [origin, origin, Path.isAbsolute_join h]

/-- Two names of one size, both without a null character, can stand at the end of the same paths. -/
theorem pathFault?_append {before name name' : String}
    (hsize : name'.utf8ByteSize = name.utf8ByteSize) (hname : name ≠ "" ∧ '\x00' ∉ name.toList)
    (hname' : name' ≠ "" ∧ '\x00' ∉ name'.toList) :
    pathFault? (before ++ name') = pathFault? (before ++ name) := by
  have hempty : ∀ last : String, last ≠ "" → (before ++ last).isEmpty = false := by
    intro last hlast
    rw [Bool.eq_false_iff, Ne, String.isEmpty_iff, ← String.toList_inj]
    simpa using fun _ => hlast
  unfold pathFault?
  rw [hempty name hname.1, hempty name' hname'.1, String.utf8ByteSize_append,
    String.utf8ByteSize_append, hsize]
  simp [hname.2, hname'.2]

theorem isName_of_locateName {here path name : String} {place : Location}
    (h : fs.locateName here path = .ok (place, some name)) : Path.IsName name :=
  (parentAndName_eq_some (locateName_eq_ok_iff.1 h).2.1).2

theorem locateName_eq_of_walk {here path name : String} {place : Location}
    (hwalk : fs'.walk maxLinks (origin here path) ((parentAndName path).1 ++ ["."]) =
      fs.walk maxLinks (origin here path) ((parentAndName path).1 ++ ["."]))
    (h : fs.locateName here path = .ok (place, some name)) :
    fs'.locateName here path = .ok (place, some name) := by
  rw [locateName_eq_ok_iff] at h ⊢
  rwa [hwalk]

/-- A new file does not change where a path names an entry: nothing leads through it. -/
theorem locateName_insertAt_iff {here path last name : String} {place goal : Location}
    {entries : List (String × Entry)} {bytes : List UInt8} {mode : ℕ}
    (hplace : fs.at? place = some (.folder entries)) (hnone : fs.at? (place ++ [name]) = none) :
    (fs.insertAt place name (.file bytes mode)).locateName here path = .ok (goal, some last) ↔
      fs.locateName here path = .ok (goal, some last) := by
  have hsame : ∀ loc (rest : List String), ¬ loc = place ++ [name] →
      (fs.insertAt place name (.file bytes mode)).bareAt? loc = fs.bareAt? loc :=
    fun _ _ hloc => bareAt?_insertAt hplace rfl (by simp [hnone]) hloc
  constructor
  · intro h
    -- the names end in a dot, so at the new file there would be names ahead
    have hnot := not_meets_of_walk_eq_ok (fun p rest => p = place ++ [name] ∧ rest ≠ [])
      ?_ (locateName_eq_ok_iff.1 h).2.2.2
    · have hclear := fun hm => hnot (Meets.ahead_of_concat_dot hm rfl)
      exact locateName_eq_of_walk
        (walk_eq_of_not_meets (fun loc rest hloc => (hsame loc rest hloc).symm) hclear) h
    · rintro p rest ⟨rfl, hrest⟩
      exact .inr ⟨hrest, bytes, mode, at?_insertAt hplace _ []⟩
  · intro h
    have hnot := not_meets_of_walk_eq_ok (fun p _ => p = place ++ [name])
      ?_ (locateName_eq_ok_iff.1 h).2.2.2
    · exact locateName_eq_of_walk (walk_eq_of_not_meets hsame hnot) h
    · rintro p rest rfl
      exact .inl hnone

/-- A new file stays at its place when it is changed. -/
theorem alterFile_insertAt {here path name : String} {place : Location}
    {entries : List (String × Entry)} {bytes : List UInt8} {mode : ℕ}
    (hplace : fs.at? place = some (.folder entries)) (hnone : fs.at? (place ++ [name]) = none)
    (hlocate : fs.locateName here path = .ok (place, some name))
    (change : List UInt8 → ℕ → List UInt8 × ℕ) :
    (fs.insertAt place name (.file bytes mode)).alterFile here path change =
      .ok (fs.insertAt place name (.file (change bytes mode).1 (change bytes mode).2)) := by
  rw [alterFile, (locateName_insertAt_iff hplace hnone).2 hlocate]
  simp only [at?_insertAt hplace, Entry.find?_nil, insertAt_insertAt]

theorem renameFile_eq_ok_iff {here source target : String} {renamed : FileSystem} :
    fs.renameFile here source target = .ok renamed ↔
      ∃ sourcePlace sourceName targetPlace targetName e,
        fs.locateName here source = .ok (sourcePlace, some sourceName) ∧
        fs.locateName here target = .ok (targetPlace, some targetName) ∧
        fs.at? (sourcePlace ++ [sourceName]) = some e ∧ target.toList.getLast? ≠ some '/' ∧
        (fs.at? (targetPlace ++ [targetName])).all (!·.isFolder) ∧
        renamed = (fs.eraseAt sourcePlace sourceName).insertAt targetPlace targetName e := by
  unfold renameFile
  rcases fs.locateName here source with cause | ⟨sourcePlace, _ | sourceName⟩
  · simp
  · rcases fs.locateName here target with cause | ⟨targetPlace, targetName⟩ <;> simp
  rcases fs.locateName here target with cause | ⟨targetPlace, _ | targetName⟩
  · simp
  · simp
  cases hs : fs.at? (sourcePlace ++ [sourceName]) with
  | none => simp [hs]
  | some e =>
    by_cases hslash : target.toList.getLast? = some '/'
    · simp [hs, hslash]
    · cases ht : fs.at? (targetPlace ++ [targetName]) with
      | none => simp [hs, hslash, ht, @eq_comm _ renamed]
      | some old => cases hold : old.isFolder <;> simp [hs, hslash, ht, hold, @eq_comm _ renamed]

end Outline.FileSystem
