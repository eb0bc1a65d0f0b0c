import Outline.Proofs.FileSystem.Links
import Outline.Proofs.FileSystem.Meets

set_option autoImplicit false

/-!
# Limits on the way to a file

A path that goes on from another spends the links that the first part has used up. So a link may
lead somewhere when it is followed on its own and still be out of reach at the end of a path. Within
the limits, a path through real folders below a base leads to what stands there, and if that is a
link, to what the link leads to.
-/
namespace Outline

/-- The causes that lie in a path itself and not in what it leads through. -/
def FileCause.isLimit : FileCause → Bool
  | tooManyLinks | nameTooLong | nullCharacter => true
  | _ => false

namespace FileSystem

/-- Whether a limit is met on the way along a path. -/
def exceedsLimit (fs : FileSystem) (here path : String) : Bool :=
  match fs.lookUp here path with
  | .error e => e.cause.isLimit
  | .ok _ => false

/-- Whether a path names a link to nothing. -/
def namesDangling (fs : FileSystem) (here path : String) : Bool :=
  match fs.locateName here path with
  | .ok (place, some name) => fs.isDangling (place ++ [name])
  | _ => false

variable {fs : FileSystem}

/-! ## Links that are left -/

theorem walkWith_fewer {atLink atLink' : Location → List String → Except FileCause Location}
    (h : ∀ place names, atLink place names = .error .tooManyLinks ∨
      atLink place names = atLink' place names) (place : Location) (names : List String) :
    fs.walkWith atLink place names = .error .tooManyLinks ∨
      fs.walkWith atLink place names = fs.walkWith atLink' place names := by
  induction names generalizing place with
  | nil => exact .inr rfl
  | cons name rest ih =>
    rw [walkWith, walkWith]
    by_cases hdot : name = "."
    · simpa [hdot] using ih place
    by_cases hup : name = ".."
    · simpa [hup] using ih place.dropLast
    by_cases hsize : maxNameSize < name.utf8ByteSize
    · simp [hdot, hup, hsize]
    simp only [beq_iff_eq, hdot, hup, hsize, if_false]
    rcases fs.at? (place ++ [name]) with _ | (_ | target | _)
    · exact .inr rfl
    · exact .inr rfl
    · exact h _ _
    · exact ih _

/-- With fewer links to follow, a walk comes to the same end or runs out of links. -/
theorem walk_fewer {fewer links : ℕ} (hle : fewer ≤ links) (place : Location)
    (names : List String) : fs.walk fewer place names = .error .tooManyLinks ∨
      fs.walk fewer place names = fs.walk links place names := by
  induction fewer generalizing links place names with
  | zero =>
    cases links with
    | zero => exact .inr rfl
    | succ links => exact walkWith_fewer (fun _ _ => .inl rfl) place names
  | succ fewer ih =>
    cases links with
    | zero => omega
    | succ links => exact walkWith_fewer (fun p ns => ih (by omega) p ns) place names

theorem Step.append {links fewer : ℕ} {place next : Location} {names rest : List String}
    (h : Step fs links place names fewer next rest) (more : List String) :
    Step fs links place (names ++ more) fewer next (rest ++ more) := by
  cases h with
  | stay hdot => exact .stay hdot
  | up hup => exact .up hup
  | down hname hf => exact .down hname hf
  | link hname hl =>
    rw [List.append_assoc]
    exact .link hname hl

theorem Step.of_concat_dot {links fewer : ℕ} {place next : Location} {names a rest : List String}
    (h : Step fs links place names fewer next rest) (hnames : names = a ++ ["."]) (ha : a ≠ []) :
    ∃ b, rest = b ++ ["."] ∧ Step fs links place a fewer next b := by
  obtain ⟨first, a, rfl⟩ := List.exists_cons_of_ne_nil ha
  cases h with
  | stay hdot =>
    obtain ⟨rfl, rfl⟩ := List.cons.inj hnames
    exact ⟨a, rfl, .stay hdot⟩
  | up hup =>
    obtain ⟨rfl, rfl⟩ := List.cons.inj hnames
    exact ⟨a, rfl, .up hup⟩
  | down hname hf =>
    obtain ⟨rfl, rfl⟩ := List.cons.inj hnames
    exact ⟨a, rfl, .down hname hf⟩
  | @link _ _ _ target _ hname hl =>
    obtain ⟨rfl, rfl⟩ := List.cons.inj hnames
    exact ⟨waypoints target ++ a, (List.append_assoc _ _ _).symm, .link hname hl⟩

/-- From a folder, names go on with the links that are left on arrival; a dot at the end of the way
to that folder makes no difference. -/
theorem exists_walk_append {links : ℕ} {place goal : Location} {names a : List String}
    {entries : List (String × Entry)} (hgoal : fs.at? goal = some (.folder entries))
    (h : fs.walk links place names = .ok goal) (ha : names = a ∨ names = a ++ ["."]) :
    ∃ fewer ≤ links, ∀ more, fs.walk links place (a ++ more) = fs.walk fewer goal more := by
  refine walk_induction (motive := fun links place names => ∀ a, names = a ∨ names = a ++ ["."] →
    ∃ fewer ≤ links, ∀ more, fs.walk links place (a ++ more) = fs.walk fewer goal more)
    ?_ ?_ ?_ h a ha
  · intro links a ha
    obtain rfl : a = [] := ha.elim Eq.symm fun hdot => by simp at hdot
    exact ⟨links, le_rfl, fun _ => rfl⟩
  · intro links place name bytes mode _ hfile hend
    rw [← hend, hgoal] at hfile
    cases hfile
  · intro links place names fewer next rest hs ih a ha
    have hspent : fewer ≤ links := by cases hs <;> omega
    rcases ha with rfl | ha
    · obtain ⟨left, hle, hmore⟩ := ih rest (.inl rfl)
      exact ⟨left, hle.trans hspent, fun more => by rw [walk_of_step (hs.append more), hmore]⟩
    · by_cases hnil : a = []
      · -- the names are a single dot, so the walk is at its end already
        rw [hnil, List.nil_append] at ha
        subst ha
        cases hs with
        | stay _ => exact hnil ▸ ih [] (.inl rfl)
        | up hup => simp at hup
        | down hname => exact absurd rfl hname.1
        | link hname => exact absurd rfl hname.1
      · obtain ⟨b, hb, hstep⟩ := hs.of_concat_dot ha hnil
        obtain ⟨left, hle, hmore⟩ := ih b (.inr hb)
        exact ⟨left, hle.trans hspent, fun more => by rw [walk_of_step (hstep.append more), hmore]⟩

/-! ## Paths below a base -/

theorem walk_of_tooLong (links : ℕ) (place : Location) {name : String} (hname : Path.IsName name)
    (hsize : maxNameSize < name.utf8ByteSize) (rest : List String) :
    fs.walk links place (name :: rest) = .error .nameTooLong := by
  cases links <;> simp [walk, walkWith, hname.2.1, hname.2.2, hsize]

theorem walk_down (links : ℕ) {place : Location} {folders : List String}
    {entries : List (String × Entry)} (hnames : ∀ name ∈ folders, Path.IsName name)
    (h : fs.at? (place ++ folders) = some (.folder entries)) :
    (∀ more, fs.walk links place (folders ++ more) = .error .nameTooLong) ∨
      ∀ more, fs.walk links place (folders ++ more) = fs.walk links (place ++ folders) more := by
  induction folders generalizing place with
  | nil => exact .inr fun more => by simp
  | cons first folders ih =>
    rw [List.forall_mem_cons] at hnames
    rw [List.append_cons] at h ⊢
    by_cases hsize : maxNameSize < first.utf8ByteSize
    · exact .inl fun more => walk_of_tooLong links place hnames.1 hsize _
    have hfirst : ∃ below, fs.at? (place ++ [first]) = some (.folder below) := by
      cases folders with
      | nil => exact ⟨entries, by simpa using h⟩
      | cons next folders => exact exists_folder_of_at?_append h
    obtain ⟨below, hbelow⟩ := hfirst
    have hlooked : IsLookedUp first := ⟨hnames.1.2.1, hnames.1.2.2, by omega⟩
    have hstep : ∀ more, fs.walk links place (first :: folders ++ more) =
        fs.walk links (place ++ [first]) (folders ++ more) :=
      fun more => walk_of_step (.down hlooked hbelow)
    simp only [hstep]
    exact ih hnames.2 h

section Below

variable {here base name : String} {place : Location} {folders : List String}
  {entries : List (String × Entry)} {e : Entry}

theorem locate_foldl_join (here base : String) {way : List String} (hne : way ≠ [])
    (h : ∀ name ∈ way, Path.IsPiece name) (hfault : pathFault? (way.foldl Path.join base) = none) :
    fs.locate here (way.foldl Path.join base) =
      fs.walk maxLinks (origin here base) (Path.steps base ++ way) := by
  have horigin : origin here (way.foldl Path.join base) = origin here base := by
    rw [origin, origin, Path.isAbsolute_foldl_join base h]
  simp only [locate, hfault, horigin, waypoints_foldl_join base hne h]

theorem isLimit_of_pathFault? {path : String} {cause : FileCause} (hpath : path ≠ "")
    (h : pathFault? path = some cause) : cause.isLimit := by
  unfold pathFault? at h
  split_ifs at h with hnull hempty
  · cases h
    rfl
  · exact absurd (String.isEmpty_iff.1 hempty) hpath
  · cases h
    rfl

theorem not_isLimit_of_locate {path : String} {cause : FileCause}
    (hlimit : fs.exceedsLimit here path = false) (h : fs.locate here path = .error cause) :
    cause.isLimit = false := by
  simpa only [exceedsLimit, lookUp, h] using hlimit

theorem pathFault?_eq_none {path : String} (hpath : path ≠ "")
    (hlimit : fs.exceedsLimit here path = false) : pathFault? path = none := by
  cases hfault : pathFault? path with
  | none => rfl
  | some cause =>
    have hlocate : fs.locate here path = .error cause := by simp only [locate, hfault]
    have hno := not_isLimit_of_locate hlimit hlocate
    rw [isLimit_of_pathFault? hpath hfault] at hno
    cases hno

theorem isFolder_of_size {path : String} (h : maxPathSize ≤ path.utf8ByteSize) :
    fs.isFolder here path = false := by
  unfold isFolder lookUp locate pathFault?
  split_ifs <;> rfl

theorem foldl_join_ne_empty (base : String) {way : List String} (hne : way ≠ [])
    (h : ∀ n ∈ way, Path.IsPiece n) : way.foldl Path.join base ≠ "" := by
  intro hempty
  have hsteps := Path.steps_foldl_join base h
  simp [hempty, hne] at hsteps

variable (hl : fs.listFolder here base = .ok (place, entries))
  (hnames : ∀ n ∈ folders ++ [name], Path.IsName n)
  (he : fs.at? (place ++ folders ++ [name]) = some e)
  (hlimit : fs.exceedsLimit here ((folders ++ [name]).foldl Path.join base) = false)

include hl hnames he hlimit

theorem exists_walk_below :
    pathFault? ((folders ++ [name]).foldl Path.join base) = none ∧ IsLookedUp name ∧
      ∃ fewer ≤ maxLinks, ∀ more,
        fs.walk maxLinks (origin here base) (Path.steps base ++ folders ++ more) =
          fs.walk fewer (place ++ folders) more := by
  have hpieces : ∀ n ∈ folders ++ [name], Path.IsPiece n := fun n hn => (hnames n hn).1
  have hne : folders ++ [name] ≠ [] := by simp
  have hfault := pathFault?_eq_none (foldl_join_ne_empty base hne hpieces) hlimit
  have hnot := fun cause => @not_isLimit_of_locate fs here _ cause hlimit
  rw [locate_foldl_join here base hne hpieces hfault] at hnot
  obtain ⟨above, habove⟩ := exists_folder_of_at?_append he
  obtain ⟨fewer, hle, hbase⟩ := exists_walk_append (a := Path.steps base) (at?_of_listFolder hl)
    (lookUp_eq_ok (listFolder_eq_ok hl)).1 (by unfold waypoints; split_ifs <;> simp)
  have hfolders : ∀ n ∈ folders, Path.IsName n := fun n hn => hnames n (List.mem_append_left _ hn)
  have hname := hnames name (by simp)
  rw [hbase] at hnot
  rcases walk_down fewer hfolders habove with hlong | hdown
  · cases hnot .nameTooLong (hlong [name])
  · rw [hdown] at hnot
    by_cases hsize : maxNameSize < name.utf8ByteSize
    · cases hnot .nameTooLong (walk_of_tooLong fewer _ hname hsize [])
    · refine ⟨hfault, ⟨hname.2.1, hname.2.2, by omega⟩, fewer, hle, fun more => ?_⟩
      rw [List.append_assoc, hbase, hdown]

theorem locateName_below : fs.locateName here ((folders ++ [name]).foldl Path.join base) =
    .ok (place ++ folders, some name) := by
  obtain ⟨hfault, hname, fewer, -, hwalk⟩ := exists_walk_below hl hnames he hlimit
  have hlast := hnames name (by simp)
  have hfolders : ∀ n ∈ folders, Path.IsPiece n := fun n hn =>
    (hnames n (List.mem_append_left _ hn)).1
  have hjoin : (folders ++ [name]).foldl Path.join base =
      Path.join (folders.foldl Path.join base) name := by simp
  have horigin : origin here (folders.foldl Path.join base) = origin here base := by
    rw [origin, origin, Path.isAbsolute_foldl_join base hfolders]
  rw [hjoin] at hfault ⊢
  rw [locateName_eq_ok_iff, parentAndName_join hlast, origin_join hlast.1, horigin,
    Path.steps_foldl_join base hfolders, hwalk]
  refine ⟨hfault, rfl, hname.2.2, ?_⟩
  cases fewer <;> simp [walk, walkWith]

theorem exists_locate_below : IsLookedUp name ∧ ∃ fewer ≤ maxLinks,
    fs.locate here ((folders ++ [name]).foldl Path.join base) =
      fs.walk fewer (place ++ folders) [name] := by
  obtain ⟨hfault, hname, fewer, hle, hwalk⟩ := exists_walk_below hl hnames he hlimit
  refine ⟨hname, fewer, hle, ?_⟩
  rw [locate_foldl_join here base (by simp) (fun n hn => (hnames n hn).1) hfault,
    ← List.append_assoc, hwalk]

/-- Within the limits, a path below a base leads to what stands at its end, looked at from the
folder above. -/
theorem lookUp_below : (fs.lookUp here ((folders ++ [name]).foldl Path.join base)).map Prod.snd =
    (fs.follow (place ++ folders) name).mapError
      fun cause => ⟨cause, (folders ++ [name]).foldl Path.join base, none⟩ := by
  obtain ⟨-, fewer, hle, hlocate⟩ := exists_locate_below hl hnames he hlimit
  have hnot : fs.walk fewer (place ++ folders) [name] ≠ .error .tooManyLinks := by
    intro hmany
    cases not_isLimit_of_locate hlimit (hlocate.trans hmany)
  rw [(fs.walk_fewer hle _ _).resolve_left hnot] at hlocate
  simp only [lookUp, follow, hlocate]
  cases fs.walk maxLinks (place ++ folders) [name] with
  | error cause => rfl
  | ok goal => cases hgoal : fs.at? goal <;> simp [hgoal, Except.map, Except.mapError]

theorem lookUp_below_of_not_link (hkind : e.isFolder ∨ e.isFile) :
    fs.lookUp here ((folders ++ [name]).foldl Path.join base) =
      .ok (place ++ folders ++ [name], e) := by
  obtain ⟨hname, fewer, -, hlocate⟩ := exists_locate_below hl hnames he hlimit
  rw [walk_cons fewer _ hname, he] at hlocate
  cases e with
  | link target => simp [Entry.isFolder, Entry.isFile] at hkind
  | file bytes mode =>
    simp only [List.isEmpty_nil, if_true] at hlocate
    simp only [lookUp, hlocate, he]
  | folder below =>
    have hend : fs.walk fewer (place ++ folders ++ [name]) [] =
        .ok (place ++ folders ++ [name]) := by
      cases fewer <;> rfl
    simp only [hend] at hlocate
    simp only [lookUp, hlocate, he]

end Below

/-- A real folder whose path meets no limit can be opened. -/
theorem isFolder_below {here base name : String} {place : Location} {folders : List String}
    {entries below : List (String × Entry)} (hfs : fs.isProper)
    (hl : fs.listFolder here base = .ok (place, entries))
    (he : fs.at? (place ++ folders ++ [name]) = some (.folder below))
    (hlimit : fs.exceedsLimit here ((folders ++ [name]).foldl Path.join base) = false) :
    fs.isFolder here ((folders ++ [name]).foldl Path.join base) := by
  have hnames := isName_of_at?_append hfs (List.append_assoc place folders [name] ▸ he)
  rw [isFolder, lookUp_below_of_not_link hl hnames he hlimit (.inl rfl)]
  rfl

end FileSystem

end Outline
