import Outline.Proofs.FileSystem.Proper

set_option autoImplicit false

/-!
# Walks through a file system

`Leads` says where a walk ends, however many links it follows: every walk that succeeds is one of
its derivations. A walk never ends at a link, and a walk along real folders only goes down.
-/
namespace Outline.FileSystem

/-- From the folder at a place, names lead to another place. -/
inductive Leads (fs : FileSystem) : Location → List String → Location → Prop
  | arrived (place : Location) : Leads fs place [] place
  | stay {place goal : Location} {name : String} {rest : List String} (hdot : name = ".")
      (next : Leads fs place rest goal) : Leads fs place (name :: rest) goal
  | up {place goal : Location} {name : String} {rest : List String} (hup : name = "..")
      (next : Leads fs place.dropLast rest goal) : Leads fs place (name :: rest) goal
  | down {place goal : Location} {name : String} {rest : List String}
      {entries : List (String × Entry)} (hdot : name ≠ ".") (hup : name ≠ "..")
      (h : fs.at? (place ++ [name]) = some (.folder entries))
      (next : Leads fs (place ++ [name]) rest goal) : Leads fs place (name :: rest) goal
  | file {place : Location} {name : String} {rest : List String} {bytes : List UInt8} {mode : Nat}
      (hdot : name ≠ ".") (hup : name ≠ "..")
      (h : fs.at? (place ++ [name]) = some (.file bytes mode)) (hrest : rest = []) :
      Leads fs place (name :: rest) (place ++ [name])
  | link {place goal : Location} {name target : String} {rest : List String}
      (hdot : name ≠ ".") (hup : name ≠ "..")
      (h : fs.at? (place ++ [name]) = some (.link target))
      (next : Leads fs (if Path.isAbsolute target then [] else place)
        (waypoints target ++ rest) goal) :
      Leads fs place (name :: rest) goal

theorem leads_of_walkWith {fs : FileSystem}
    {atLink : Location → List String → Except FileCause Location}
    (hlink : ∀ place names goal, atLink place names = .ok goal → Leads fs place names goal)
    {place goal : Location} {names : List String}
    (h : fs.walkWith atLink place names = .ok goal) : Leads fs place names goal := by
  induction names generalizing place with
  | nil =>
    simp only [walkWith, Except.ok.injEq] at h
    exact h ▸ .arrived place
  | cons name rest ih =>
    rw [walkWith] at h
    by_cases hdot : name = "."
    · rw [if_pos (by simpa using hdot)] at h
      exact .stay hdot (ih h)
    rw [if_neg (by simpa using hdot)] at h
    by_cases hup : name = ".."
    · rw [if_pos (by simpa using hup)] at h
      exact .up hup (ih h)
    rw [if_neg (by simpa using hup)] at h
    by_cases hsize : maxNameSize < name.utf8ByteSize
    · rw [if_pos hsize] at h
      cases h
    rw [if_neg hsize] at h
    cases he : fs.at? (place ++ [name]) with
    | none => simp [he] at h
    | some e =>
      rw [he] at h
      cases e with
      | folder entries => exact .down hdot hup he (ih h)
      | link target => exact .link hdot hup he (hlink _ _ _ h)
      | file bytes mode =>
        by_cases hr : rest.isEmpty
        · simp only [hr, if_true, Except.ok.injEq] at h
          exact h ▸ .file hdot hup he (List.isEmpty_iff.1 hr)
        · simp [hr] at h

theorem leads_of_walk {fs : FileSystem} {links : ℕ} {place goal : Location} {names : List String}
    (h : fs.walk links place names = .ok goal) : Leads fs place names goal := by
  induction links generalizing place goal names with
  | zero => exact leads_of_walkWith (fun _ _ _ hl => by cases hl) h
  | succ links ih => exact leads_of_walkWith (fun _ _ _ hl => ih hl) h

theorem Leads.not_link {fs : FileSystem} {place goal : Location} {names : List String}
    (h : Leads fs place names goal) {entries : List (String × Entry)}
    (hplace : fs.at? place = some (.folder entries)) :
    ∃ e, fs.at? goal = some e ∧ (e.isFolder ∨ e.isFile) := by
  induction h generalizing entries with
  | arrived place => exact ⟨_, hplace, .inl rfl⟩
  | stay _ _ ih => exact ih hplace
  | up _ _ ih =>
    obtain ⟨above, ha⟩ := exists_folder_at?_dropLast hplace
    exact ih ha
  | down _ _ hf _ ih => exact ih hf
  | file _ _ hf _ => exact ⟨_, hf, .inr rfl⟩
  | @link place _ _ target _ _ _ _ _ ih =>
    by_cases ht : Path.isAbsolute target
    · rw [if_pos ht] at ih
      exact ih rfl
    · rw [if_neg ht] at ih
      exact ih hplace

/-- Names that go on from a folder start where the names before them end. -/
theorem Leads.of_append {fs : FileSystem} {place middle goal : Location} {a b : List String}
    (h : Leads fs place a middle) {entries : List (String × Entry)}
    (hmiddle : fs.at? middle = some (.folder entries)) (hall : Leads fs place (a ++ b) goal) :
    Leads fs middle b goal := by
  induction h with
  | arrived place => exact hall
  | stay heq _ ih =>
    cases hall with
    | stay _ next => exact ih hmiddle next
    | up hup => simp [heq] at hup
    | down hdot => exact absurd heq hdot
    | file hdot => exact absurd heq hdot
    | link hdot => exact absurd heq hdot
  | up heq _ ih =>
    cases hall with
    | stay hdot => simp [heq] at hdot
    | up _ next => exact ih hmiddle next
    | down _ hup => exact absurd heq hup
    | file _ hup => exact absurd heq hup
    | link _ hup => exact absurd heq hup
  | down hdot hup hf _ ih =>
    cases hall with
    | stay heq => exact absurd heq hdot
    | up heq => exact absurd heq hup
    | down _ _ _ next => exact ih hmiddle next
    | file _ _ hf' => simp [hf] at hf'
    | link _ _ hf' => simp [hf] at hf'
  | file _ _ hf _ => simp [hf] at hmiddle
  | link hdot hup hf _ ih =>
    cases hall with
    | stay heq => exact absurd heq hdot
    | up heq => exact absurd heq hup
    | down _ _ hf' => simp [hf] at hf'
    | file _ _ hf' => simp [hf] at hf'
    | link _ _ hf' next =>
      rw [hf, Option.some_inj, Entry.link.injEq] at hf'
      subst hf'
      exact ih hmiddle (by simpa using next)

/-- A dot at the end only asks for a folder. -/
theorem Leads.of_concat_dot {fs : FileSystem} {place goal : Location} {names all : List String}
    (h : Leads fs place all goal) (hall : all = names ++ ["."]) : Leads fs place names goal := by
  induction h generalizing names with
  | arrived place => simp at hall
  | stay hdot next ih =>
    cases names with
    | nil => exact (List.cons.inj hall).2 ▸ next
    | cons name names =>
      obtain ⟨rfl, hrest⟩ := List.cons.inj hall
      exact .stay hdot (ih hrest)
  | up hup next ih =>
    cases names with
    | nil => simp [hup] at hall
    | cons name names =>
      obtain ⟨rfl, hrest⟩ := List.cons.inj hall
      exact .up hup (ih hrest)
  | down hdot hup hf next ih =>
    cases names with
    | nil => exact absurd (List.cons.inj hall).1 hdot
    | cons name names =>
      obtain ⟨rfl, hrest⟩ := List.cons.inj hall
      exact .down hdot hup hf (ih hrest)
  | file hdot hup hf hrest =>
    cases names with
    | nil => exact absurd (List.cons.inj hall).1 hdot
    | cons name names => simp [hrest] at hall
  | link hdot hup hf next ih =>
    cases names with
    | nil => exact absurd (List.cons.inj hall).1 hdot
    | cons name names =>
      obtain ⟨rfl, hrest⟩ := List.cons.inj hall
      exact .link hdot hup hf (ih (by simp [hrest]))

theorem Leads.of_waypoints {fs : FileSystem} {place goal : Location} {path : String}
    (h : Leads fs place (waypoints path) goal) : Leads fs place (Path.steps path) goal := by
  unfold waypoints at h
  split_ifs at h
  · exact h.of_concat_dot rfl
  · simpa using h

/-- Along real folders a walk goes down name by name. -/
theorem Leads.eq_append {fs : FileSystem} {place goal : Location} {names : List String}
    (h : Leads fs place names goal) (hnames : ∀ name ∈ names, Path.IsName name)
    {entries : List (String × Entry)} (hf : fs.at? (place ++ names) = some (.folder entries)) :
    goal = place ++ names := by
  induction names generalizing place with
  | nil =>
    cases h
    simp
  | cons name rest ih =>
    have hname := hnames name (by simp)
    rw [List.append_cons] at hf ⊢
    obtain ⟨below, hb⟩ : ∃ below, fs.at? (place ++ [name]) = some (.folder below) := by
      cases rest with
      | nil => exact ⟨entries, by simpa using hf⟩
      | cons next rest => exact exists_folder_of_at?_append hf
    cases h with
    | stay heq => exact absurd heq hname.2.1
    | up heq => exact absurd heq hname.2.2
    | down _ _ _ next => exact ih next (fun n hn => hnames n (by simp [hn])) hf
    | file _ _ hf' => simp [hb] at hf'
    | link _ _ hf' => simp [hb] at hf'

/-! ## Folders and files that paths lead to -/

theorem lookUp_eq_ok {fs : FileSystem} {here path : String} {place : Location} {e : Entry}
    (h : fs.lookUp here path = .ok (place, e)) :
    fs.walk maxLinks (origin here path) (waypoints path) = .ok place ∧ fs.at? place = some e := by
  unfold lookUp locate at h
  split at h
  · cases h
  · rename_i goal hl
    split at hl
    · cases hl
    · split at h
      · rename_i e' he
        simp only [Except.ok.injEq, Prod.mk.injEq] at h
        obtain ⟨rfl, rfl⟩ := h
        exact ⟨hl, he⟩
      · cases h

theorem pathFault?_of_lookUp {fs : FileSystem} {here path : String} {found : Location × Entry}
    (h : fs.lookUp here path = .ok found) : pathFault? path = none := by
  unfold lookUp locate at h
  cases hfault : pathFault? path with
  | none => rfl
  | some cause => simp [hfault] at h

theorem listFolder_eq_ok {fs : FileSystem} {here path : String} {place : Location}
    {entries : List (String × Entry)} (h : fs.listFolder here path = .ok (place, entries)) :
    fs.lookUp here path = .ok (place, .folder entries) := by
  unfold listFolder at h
  split at h
  · cases h
  · rename_i heq
    simp only [Except.ok.injEq, Prod.mk.injEq] at h
    obtain ⟨rfl, rfl⟩ := h
    exact heq
  · cases h

theorem at?_of_listFolder {fs : FileSystem} {here path : String} {place : Location}
    {entries : List (String × Entry)} (h : fs.listFolder here path = .ok (place, entries)) :
    fs.at? place = some (.folder entries) :=
  (lookUp_eq_ok (listFolder_eq_ok h)).2

theorem listFolder_of_locate {fs : FileSystem} {here path : String} {place : Location}
    {entries : List (String × Entry)} (h : fs.locate here path = .ok place)
    (hat : fs.at? place = some (.folder entries)) :
    fs.listFolder here path = .ok (place, entries) := by
  simp only [listFolder, lookUp, h, hat]

theorem exists_listFolder_of_isFolder {fs : FileSystem} {here path : String}
    (h : fs.isFolder here path) :
    ∃ place entries, fs.listFolder here path = .ok (place, entries) := by
  unfold isFolder at h
  split at h
  · rename_i place e heq
    cases e with
    | file bytes mode => cases h
    | link target => cases h
    | folder entries => exact ⟨place, entries, by simp [listFolder, heq]⟩
  · cases h

theorem fileBytes_eq_ok {fs : FileSystem} {here path : String} {bytes : List UInt8}
    (h : fs.fileBytes here path = .ok bytes) :
    ∃ place mode, fs.lookUp here path = .ok (place, .file bytes mode) := by
  unfold fileBytes at h
  split at h
  · cases h
  · rename_i place found mode heq
    rw [Except.ok.injEq] at h
    subst h
    exact ⟨place, mode, heq⟩
  · cases h

theorem waypoints_foldl_join (base : String) {way : List String} (hne : way ≠ [])
    (h : ∀ name ∈ way, Path.IsPiece name) :
    waypoints (way.foldl Path.join base) = Path.steps base ++ way := by
  have hlast : (way.foldl Path.join base).toList.getLast? ≠ some '/' := by
    obtain ⟨front, name, rfl⟩ := (List.eq_nil_or_concat' way).resolve_left hne
    have hname : Path.IsPiece name := h name (by simp)
    obtain ⟨before, hb⟩ := Path.exists_toList_join (front.foldl Path.join base) hname
    rw [List.foldl_append, List.foldl_cons, List.foldl_nil, hb,
      List.getLast?_append_of_ne_nil _ (by simpa using hname.1)]
    exact fun hslash => hname.2 (List.mem_of_getLast? hslash)
  rw [waypoints, Path.steps_foldl_join base h, if_neg (by simpa using hlast), List.append_nil]

/-- Absolute paths with the same waypoints lead to the same file. -/
theorem fileBytes_inj {fs : FileSystem} {here path path' : String} {bytes bytes' : List UInt8}
    (hpath : Path.isAbsolute path) (hpath' : Path.isAbsolute path')
    (hway : waypoints path = waypoints path') (h : fs.fileBytes here path = .ok bytes)
    (h' : fs.fileBytes here path' = .ok bytes') : bytes = bytes' := by
  obtain ⟨place, mode, hl⟩ := fileBytes_eq_ok h
  obtain ⟨place', mode', hl'⟩ := fileBytes_eq_ok h'
  obtain ⟨hw, he⟩ := lookUp_eq_ok hl
  obtain ⟨hw', he'⟩ := lookUp_eq_ok hl'
  rw [origin, if_pos hpath, hway] at hw
  rw [origin, if_pos hpath', hw, Except.ok.injEq] at hw'
  subst hw'
  rw [he, Option.some_inj, Entry.file.injEq] at he'
  exact he'.1

/-- A path that goes on from another through real folders leads to the last of these. -/
theorem listFolder_of_steps_append {fs : FileSystem} {here root folder : String}
    {place : Location} {entries below : List (String × Entry)} {down : List String}
    (hroot : Path.isAbsolute root) (hfolder : Path.isAbsolute folder)
    (hsteps : Path.steps folder = Path.steps root ++ down)
    (hnames : ∀ name ∈ down, Path.IsName name)
    (hl : fs.listFolder here root = .ok (place, entries))
    (hdown : fs.at? (place ++ down) = some (.folder below)) (h : fs.isFolder here folder) :
    fs.listFolder here folder = .ok (place ++ down, below) := by
  obtain ⟨goal, found, hgoal⟩ := exists_listFolder_of_isFolder h
  have hwalk := (lookUp_eq_ok (listFolder_eq_ok hl)).1
  have hwalk' := (lookUp_eq_ok (listFolder_eq_ok hgoal)).1
  rw [origin, if_pos hroot] at hwalk
  rw [origin, if_pos hfolder] at hwalk'
  have hfrom := (leads_of_walk hwalk).of_waypoints
  have hall := (leads_of_walk hwalk').of_waypoints
  rw [hsteps] at hall
  have heq := (hfrom.of_append (at?_of_listFolder hl) hall).eq_append hnames hdown
  subst heq
  have hfound := at?_of_listFolder hgoal
  rw [hdown, Option.some_inj, Entry.folder.injEq] at hfound
  rw [hgoal, hfound]

end Outline.FileSystem
