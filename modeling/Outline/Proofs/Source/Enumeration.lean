import Mathlib.Data.List.Induction
import Outline.Proofs.FileSystem.Limits
import Outline.Proofs.Outcome
import Outline.Proofs.Source.Ways

set_option autoImplicit false

/-!
# The list of source files

`Enters` follows a search step by step: from the base into subfolders that are no links, are not
ignored and can be opened by their paths. The list has every source file of the folders that are
entered and nothing else, by its path from the base, and these paths increase. No folder that is
entered lies on an ignored path, so that asking again for its whole path would change nothing.

Whether a folder can be opened and what a link leads to is asked by a whole path. Within the limits
on paths this is the same as looking at the folder or the link itself.
-/
namespace Outline.Source

/-- The folders that a search comes to, by their names from the base down. A place has only folders
above it, never links. -/
inductive Enters (fs : FileSystem) (here : String) (ignored : String → Bool) (base : String)
    (top : Location) : List String → Prop
  | base : Enters fs here ignored base top []
  | subfolder {folders : List String} {name : String} {entries : List (String × Entry)}
      (above : Enters fs here ignored base top folders) (hname : ignored name = false)
      (h : fs.at? (top ++ (folders ++ [name])) = some (.folder entries))
      (hopens : fs.isFolder here ((folders ++ [name]).foldl Path.join base)) :
      Enters fs here ignored base top (folders ++ [name])

/-- At the end of a way down from the base there is an entry that is named like a source and is
neither a folder nor a link whose path leads to one. -/
def HoldsSource (fs : FileSystem) (here base : String) (top : Location) (folders : List String)
    (name : String) : Prop :=
  ∃ e, fs.at? (top ++ folders ++ [name]) = some e ∧ Path.isSource name ∧ e.isFolder = false ∧
    ∀ target, e = .link target →
      fs.isFolder here ((folders ++ [name]).foldl Path.join base) = false

/-- The folder at a place has an entry that is named like a source and is neither a folder nor a
link to one. -/
def HoldsSourceItself (fs : FileSystem) (place : Location) (name : String) : Prop :=
  ∃ e, fs.at? (place ++ [name]) = some e ∧ Path.isSource name ∧ e.isFolder = false ∧
    ∀ target, e = .link target → ∀ entries, fs.follow place name ≠ .ok (.folder entries)

/-- No limit is met where a search asks about a way: at the paths of the folders on it, and at its
end if there is a link. -/
structure WithinLimits (fs : FileSystem) (here base : String) (top : Location)
    (folders : List String) (name : String) : Prop where
  folder : ∀ front, front ≠ [] → front <+: folders →
    fs.exceedsLimit here (front.foldl Path.join base) = false
  link : ∀ target, fs.at? (top ++ folders ++ [name]) = some (.link target) →
    fs.exceedsLimit here ((folders ++ [name]).foldl Path.join base) = false

variable {fs : FileSystem} {here base : String} {ignored : String → Bool} {top : Location}

theorem enters_iff {entries : List (String × Entry)} (htop : fs.at? top = some (.folder entries))
    (folders : List String) : Enters fs here ignored base top folders ↔
      Entry.Passes ignored (fs.isFolder here) base folders ∧
        ∃ below, fs.at? (top ++ folders) = some (.folder below) := by
  constructor
  · intro h
    induction h with
    | base => exact ⟨trivial, entries, by rwa [List.append_nil]⟩
    | subfolder _ hname hf hopens ih =>
      rw [List.foldl_append] at hopens
      exact ⟨Entry.passes_append_iff.2 ⟨ih.1, ⟨hname, hopens⟩, trivial⟩, _, hf⟩
  · -- a folder is entered after the folder above it
    induction folders using List.reverseRecOn with
    | nil => exact fun _ => .base
    | append_singleton folders name ih =>
      rintro ⟨hpass, below, hbelow⟩
      obtain ⟨hpass, ⟨hname, hopens⟩, -⟩ := Entry.passes_append_iff.1 hpass
      have habove : ∃ above, fs.at? (top ++ folders) = some (.folder above) := by
        rw [← List.append_assoc] at hbelow
        exact fs.exists_folder_of_at?_append hbelow
      exact .subfolder (ih ⟨hpass, habove⟩) hname hbelow (by rwa [List.foldl_append])

theorem countsAsFile_iff (path : String) (e : Entry) : countsAsFile fs here path e ↔
    e.isFolder = false ∧ ∀ target, e = .link target → fs.isFolder here path = false := by
  cases e <;> simp [countsAsFile, Entry.isFolder]

theorem offers_iff_enters {entries : List (String × Entry)}
    (htop : fs.at? top = some (.folder entries)) (way : List String) :
    (Entry.folder entries).Offers ignored (fs.isFolder here) (countsAsFile fs here) base way ↔
      ∃ folders name, way = folders ++ [name] ∧ Enters fs here ignored base top folders ∧
        HoldsSource fs here base top folders name := by
  refine exists_congr fun folders => exists_congr fun name => ?_
  constructor
  · rintro ⟨found, rfl, hpass, hf, hsource, hcounts⟩
    rw [← fs.at?_append_of_folder htop, ← List.append_assoc] at hf
    obtain ⟨above, habove⟩ := fs.exists_folder_of_at?_append hf
    exact ⟨rfl, (enters_iff htop folders).2 ⟨hpass, above, habove⟩, found, hf, hsource,
      (countsAsFile_iff _ _).1 hcounts⟩
  · rintro ⟨rfl, henters, found, hf, hsource, hkind⟩
    rw [List.append_assoc, fs.at?_append_of_folder htop] at hf
    exact ⟨found, rfl, ((enters_iff htop folders).1 henters).1, hf, hsource,
      (countsAsFile_iff _ _).2 hkind⟩

/-! ## Within the limits -/

section Limits

variable {entries : List (String × Entry)} {folders : List String} {name : String}

/-- A link whose path meets no limit leads to a folder exactly if it does so on its own. -/
theorem isFolder_iff_follow {target : String} (hfs : fs.isProper)
    (hl : fs.listFolder here base = .ok (top, entries))
    (hf : fs.at? (top ++ folders ++ [name]) = some (.link target))
    (hlimit : fs.exceedsLimit here ((folders ++ [name]).foldl Path.join base) = false) :
    fs.isFolder here ((folders ++ [name]).foldl Path.join base) ↔
      ∃ below, fs.follow (top ++ folders) name = .ok (.folder below) := by
  have hnames := fs.isName_of_at?_append hfs (List.append_assoc top folders [name] ▸ hf)
  have hsame := FileSystem.lookUp_below hl hnames hf hlimit
  rw [FileSystem.isFolder]
  rcases hlook : fs.lookUp here ((folders ++ [name]).foldl Path.join base) with e | ⟨goal, e⟩ <;>
    rcases hfollow : fs.follow (top ++ folders) name with cause | e' <;>
    rw [hlook, hfollow] at hsame <;> cases hsame
  · simp
  · cases e <;> simp [Entry.isFolder]

theorem enters_and_holdsSource_iff (hfs : fs.isProper)
    (hl : fs.listFolder here base = .ok (top, entries))
    (hlimits : WithinLimits fs here base top folders name) :
    Enters fs here ignored base top folders ∧ HoldsSource fs here base top folders name ↔
      (∀ folder ∈ folders, ignored folder = false) ∧
        HoldsSourceItself fs (top ++ folders) name := by
  have htop := fs.at?_of_listFolder hl
  have henters : ∀ above, fs.at? (top ++ folders) = some (.folder above) →
      (∀ folder ∈ folders, ignored folder = false) →
      Enters fs here ignored base top folders := by
    have hfolder := hlimits.folder
    clear hlimits
    induction folders using List.reverseRecOn with
    | nil => exact fun _ _ _ => .base
    | append_singleton folders last ih =>
      intro above habove hign
      rw [List.forall_mem_append] at hign
      have hup := habove
      rw [← List.append_assoc] at hup
      obtain ⟨before, hbefore⟩ := fs.exists_folder_of_at?_append hup
      refine .subfolder (ih (fun front hne hfront => hfolder front hne
        (hfront.trans (List.prefix_append _ _))) before hbefore hign.1)
        (hign.2 last (List.mem_singleton_self last)) habove ?_
      exact fs.isFolder_below hfs hl hup (hfolder _ (by simp) List.prefix_rfl)
  have hlink : ∀ target, fs.at? (top ++ folders ++ [name]) = some (.link target) →
      (fs.isFolder here ((folders ++ [name]).foldl Path.join base) = false ↔
        ∀ below, fs.follow (top ++ folders) name ≠ .ok (.folder below)) := by
    intro target hat
    rw [Bool.eq_false_iff, ne_eq, isFolder_iff_follow hfs hl hat (hlimits.link target hat)]
    exact not_exists
  constructor
  · rintro ⟨hin, e, he, hsource, hkind, hleads⟩
    refine ⟨((enters_iff htop folders).1 hin).1.unignored, e, he, hsource, hkind, ?_⟩
    rintro target rfl
    exact (hlink target he).1 (hleads target rfl)
  · rintro ⟨hign, e, he, hsource, hkind, hleads⟩
    obtain ⟨above, habove⟩ := fs.exists_folder_of_at?_append he
    refine ⟨henters above habove hign, e, he, hsource, hkind, ?_⟩
    rintro target rfl
    exact (hlink target he).2 (hleads target rfl)

end Limits

theorem pairwise_lt_sortWays {ways : List (List String)} (hways : ways.Nodup)
    (hpieces : ∀ way ∈ ways, ∀ name ∈ way, Path.IsPiece name) :
    ((sortWays ways).map Path.ofSteps).Pairwise (· < ·) := by
  have hnodup : (sortWays ways).Nodup := (sortWays_perm ways).nodup_iff.2 hways
  rw [List.pairwise_map]
  refine ((pairwise_sortWays ways).and hnodup).imp_of_mem ?_
  rintro a b ha hb ⟨hle, hne⟩
  have ha' := hpieces a ((sortWays_perm ways).mem_iff.1 ha)
  have hb' := hpieces b ((sortWays_perm ways).mem_iff.1 hb)
  exact String.not_le.1 fun hba => hne (ofSteps_inj ha' hb' (String.le_antisymm hle hba))

theorem Enters.not_ignoresPath {f : Filter} {folders : List String} (hfs : fs.isProper)
    (hhere : Path.isAbsolute here) {entries : List (String × Entry)}
    (htop : fs.at? top = some (.folder entries))
    (h : Enters fs here f.ignores base top folders) :
    f.ignoresPath (Path.relative here (folders.foldl Path.join base) base) = false := by
  obtain ⟨hpass, below, hbelow⟩ := (enters_iff htop folders).1 h
  have hnames : ∀ name ∈ folders, Path.IsName name := by
    rw [fs.at?_append_of_folder htop] at hbelow
    exact Entry.isName_of_find? (fs.isProper_of_at? hfs htop) hbelow
  rw [Path.relative_of_append (Path.fullSteps_foldl_join hhere base hnames)]
  by_cases hne : folders = []
  · simp [hne, Filter.ignoresPath]
  · rw [if_neg (by simpa using hne), Filter.ignoresPath,
      Path.steps_ofSteps fun name hn => (hnames name hn).1]
    simpa using fun _ => hpass.unignored

/-- Below a folder that is not ignored itself, the list has the paths of all source files in the
folders that the search enters, each once and in increasing order. Where no limit is met on a way,
the search enters all folders on it that are not ignored, and a link there counts for what it leads
to on its own. -/
theorem enumeration_exact_and_sorted (hfs : fs.isProper) (hhere : Path.isAbsolute here)
    (hbase : fs.isFolder here base) (f : Filter) :
    ∃ place entries, fs.listFolder here base = .ok (place, entries) ∧
      (f.ignores (Folder.ownName here base) → (files fs here f base).result = .ok []) ∧
      (f.ignores (Folder.ownName here base) = false → ∃ relatives : List String,
        (files fs here f base).result = .ok (relatives.map (Path.join base)) ∧
        relatives.Pairwise (· < ·) ∧
        ∀ relative, relative ∈ relatives ↔ ∃ folders name,
          relative = Path.ofSteps (folders ++ [name]) ∧
            Enters fs here f.ignores base place folders ∧
            HoldsSource fs here base place folders name) ∧
      (∀ folders name, WithinLimits fs here base place folders name →
        (Enters fs here f.ignores base place folders ∧
            HoldsSource fs here base place folders name ↔
          (∀ folder ∈ folders, f.ignores folder = false) ∧
            HoldsSourceItself fs (place ++ folders) name)) ∧
      ∀ folders, Enters fs here f.ignores base place folders →
        f.ignoresPath (Path.relative here (folders.foldl Path.join base) base) = false := by
  obtain ⟨place, entries, hl⟩ := fs.exists_listFolder_of_isFolder hbase
  have htop := fs.at?_of_listFolder hl
  have hproper := fs.isProper_of_at? hfs htop
  refine ⟨place, entries, hl, files_of_ignored, ?_,
    fun folders name hlimits => enters_and_holdsSource_iff hfs hl hlimits,
    fun folders henters => henters.not_ignoresPath hfs hhere htop⟩
  intro hname
  have hoffers := fun way => @mem_waysAmong_iff fs here f.ignores entries hproper base way
  have hpieces : ∀ way ∈ waysAmong fs here f.ignores base entries, ∀ name ∈ way,
      Path.IsPiece name := fun way hway name hn =>
    (((hoffers way).1 hway).isName hproper name hn).1
  refine ⟨(sortWays (waysAmong fs here f.ignores base entries)).map Path.ofSteps, ?_,
    pairwise_lt_sortWays (nodup_waysAmong hproper base) hpieces, ?_⟩
  · rw [files_of_listFolder hfs hname hl, List.map_map]
    congr 1
    refine List.map_congr_left fun way hway => ?_
    have hmem := (sortWays_perm _).mem_iff.1 hway
    exact Path.foldl_join base ((hoffers way).1 hmem).unignored.1 (hpieces way hmem)
  · intro relative
    simp only [List.mem_map, (sortWays_perm _).mem_iff, hoffers, offers_iff_enters htop]
    constructor
    · rintro ⟨_, ⟨folders, name, rfl, hsource⟩, rfl⟩
      exact ⟨folders, name, rfl, hsource⟩
    · rintro ⟨folders, name, rfl, hsource⟩
      exact ⟨_, ⟨folders, name, rfl, hsource⟩, rfl⟩

/-- Two folders whose order is not that of their files' paths, a link to nothing, a link to a folder
and an ignored folder. -/
def hyphenated : FileSystem :=
  ⟨[("r", .folder [("Gone.cs", .link "none"), ("a", .folder [("X.cs", .file [] 0o644)]),
    ("a-b", .folder [("X.cs", .file [] 0o644)]), ("obj", .folder [("X.cs", .file [] 0o644)]),
    ("t.cs", .link "a")])]⟩

theorem enumeration_exact_and_sorted_hyphenated :
    ∃ (f : Filter) (relatives : List String), Filter.read "obj" = .ok f ∧
      (files hyphenated "/" f "/r").result = .ok (relatives.map (Path.join "/r")) ∧
      relatives.Pairwise (· < ·) ∧ "a-b/X.cs" ∈ relatives ∧ "a/X.cs" ∈ relatives ∧
      "Gone.cs" ∈ relatives := by
  obtain ⟨f, hf⟩ : ∃ f, Filter.read "obj" = .ok f := Except.exists_eq_ok (by decide +kernel)
  have hclear : (Filter.read "obj").toOption.all fun f =>
      !f.ignores (Folder.ownName "/" "/r") && !f.ignores "a" && !f.ignores "a-b" := by
    decide +kernel
  simp only [hf, Except.toOption, Option.all_some, Bool.and_eq_true, Bool.not_eq_true'] at hclear
  obtain ⟨⟨hroot, ha⟩, hab⟩ := hclear
  obtain ⟨place, entries, hl, -, hlist, -⟩ := @enumeration_exact_and_sorted hyphenated "/" "/r"
    (by decide +kernel) (by decide +kernel) (by decide +kernel) f
  obtain ⟨relatives, hfiles, hsorted, hmem⟩ := hlist hroot
  have hplace : (hyphenated.listFolder "/" "/r").toOption.map Prod.fst = some ["r"] := by
    decide +kernel
  rw [hl, Except.toOption, Option.map_some, Option.some_inj] at hplace
  subst hplace
  have hsource : ∀ name ∈ ["X.cs", "Gone.cs"], Path.isSource name := by decide +kernel
  refine ⟨f, relatives, hf, hfiles, hsorted, ?_, ?_, ?_⟩
  · exact (hmem _).2 ⟨["a-b"], "X.cs", rfl, .subfolder .base hab rfl (by decide +kernel), _, rfl,
      hsource _ (by simp), rfl, fun _ h => by cases h⟩
  · exact (hmem _).2 ⟨["a"], "X.cs", rfl, .subfolder .base ha rfl (by decide +kernel), _, rfl,
      hsource _ (by simp), rfl, fun _ h => by cases h⟩
  · exact (hmem _).2 ⟨[], "Gone.cs", rfl, .base, _, rfl, hsource _ (by simp), rfl,
      fun _ _ => by decide +kernel⟩

/-! ## Beyond the limits -/

/-- A source file below a number of folders of one name. -/
def buried (name : String) : Nat → Entry
  | 0 => .folder [("A.cs", .file [] 0o644)]
  | depth + 1 => .folder [(name, buried name depth)]

/-- The search does not come to a file whose path is too long at one of the folders above it. -/
theorem waysTo_buried {path name : String} {depth : ℕ} (hname : Path.IsPiece name)
    (h : FileSystem.maxPathSize ≤ path.utf8ByteSize + (depth + 1) * name.utf8ByteSize) :
    waysTo fs here ignored path name (buried name depth) = [] := by
  have hsize := Path.utf8ByteSize_join_ge path hname
  induction depth generalizing path with
  | zero => rw [buried, waysTo, FileSystem.isFolder_of_size (by omega), if_pos (by simp)]
  | succ depth ih =>
    have hbelow := @ih (Path.join path name) (by grind) (Path.utf8ByteSize_join_ge _ hname)
    rw [buried, waysTo, waysAmong, waysAmong, hbelow]
    split_ifs <;> rfl

/-- A link that leads to a folder through so many others that it cannot be followed from the end of
another such link. -/
def hopping : FileSystem :=
  ⟨[("r", .folder [("s", .link "."), ("sub", .folder []),
      ("t.cs", .link "s/s/s/s/s/s/s/s/s/s/s/s/s/s/s/s/s/s/s/s/s/s/s/s/sub")]),
    ("w", .link "r/s/s/s/s/s/s/s/s/s/s/s/s/s/s/s/s/s/s/s/s/s/s/s/s")]⟩

def longName : String := String.ofList (List.replicate 250 'a')

def distant : FileSystem := ⟨[("w", buried longName 17)]⟩

/-- A link to a folder is listed where following it meets a limit, and a source file is not where a
folder above it cannot be opened. -/
theorem enumeration_not_exact : ∃ f, Filter.read "bin" = .ok f ∧
    (hopping.isProper ∧ hopping.isFolder "/" "/w" ∧
      (files hopping "/" f "/w").result = .ok ["/w/t.cs"] ∧
      ∃ below, hopping.follow ["r"] "t.cs" = .ok (.folder below)) ∧
    (distant.isProper ∧ distant.isFolder "/" "/w" ∧
      (files distant "/" f "/w").result = .ok [] ∧ f.ignores longName = false ∧
      HoldsSourceItself distant ("w" :: List.replicate 17 longName) "A.cs") := by
  obtain ⟨f, hf⟩ : ∃ f, Filter.read "bin" = .ok f := Except.exists_eq_ok (by decide +kernel)
  have hclear : (Filter.read "bin").toOption.all fun f =>
      !f.ignores (Folder.ownName "/" "/w") && !f.ignores longName := by
    decide +kernel
  have hlist : (Filter.read "bin").toOption.all fun f =>
      (files hopping "/" f "/w").result.toOption == some ["/w/t.cs"] := by
    decide +kernel
  have hfollow : (hopping.follow ["r"] "t.cs").toOption.any Entry.isFolder := by decide +kernel
  have hread : (Filter.read "bin").toOption = some f := by rw [hf, Except.toOption]
  simp only [hread, Option.all_some, Bool.and_eq_true, Bool.not_eq_true', beq_iff_eq]
    at hclear hlist
  refine ⟨f, hf, ⟨by decide +kernel, by decide +kernel, Except.eq_ok_of_toOption hlist, ?_⟩,
    by decide +kernel, by decide +kernel, ?_, hclear.2, ?_⟩
  · rw [Option.any_eq_true] at hfollow
    obtain ⟨e, he, hfolder⟩ := hfollow
    cases e with
    | file bytes mode => cases hfolder
    | link target => cases hfolder
    | folder below => exact ⟨below, Except.eq_ok_of_toOption he⟩
  · obtain ⟨place, entries, hl⟩ := distant.exists_listFolder_of_isFolder
      (show distant.isFolder "/" "/w" by decide +kernel)
    have hplace : (distant.listFolder "/" "/w").toOption.map Prod.fst = some ["w"] := by
      decide +kernel
    rw [hl, Except.toOption, Option.map_some, Option.some_inj] at hplace
    subst hplace
    obtain rfl : entries = [(longName, buried longName 16)] := by
      simpa [distant, FileSystem.at?, FileSystem.root, buried] using
        (distant.at?_of_listFolder hl).symm
    have hpiece : Path.IsPiece longName := ⟨by decide +kernel, by decide +kernel⟩
    have hways : waysTo distant "/" f.ignores "/w" longName (buried longName 16) = [] :=
      waysTo_buried hpiece (by decide +kernel)
    rw [files_of_listFolder (by decide +kernel) hclear.1 hl, waysAmong, waysAmong, hways]
    simp [sortWays]
  · have hfile : (distant.at? ("w" :: List.replicate 17 longName ++ ["A.cs"])).any
        Entry.isFile := by
      decide +kernel
    rw [Option.any_eq_true] at hfile
    obtain ⟨e, he, hkind⟩ := hfile
    refine ⟨e, he, by decide +kernel, ?_, ?_⟩
    · cases e <;> simp_all [Entry.isFile, Entry.isFolder]
    · rintro target rfl
      cases hkind

end Outline.Source
