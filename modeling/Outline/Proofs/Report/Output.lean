import Outline.Proofs.Report.Layout
import Outline.Proofs.Report.Unseen
import Outline.Proofs.Report.Writing

set_option autoImplicit false

/-!
# A report does not see itself

The report is written into the folder that it describes. It is not named like a source, so a later
run comes across it only through a path or a link. If none of them leads through the output, the
later run gives the same report as before.
-/
namespace Outline

namespace FileSystem

/-- A link does not lead beyond a place. -/
def LinkStops (fs : FileSystem) (output place : Location) (target : String) : Prop :=
  ¬ fs.Meets (fun p rest => p = output ∧ rest ≠ []) maxLinks
    (if Path.isAbsolute target then [] else place) (waypoints target)

end FileSystem

/-- After a file was put at a place that the path of a link does not lead beyond, there is still an
answer about the link. -/
theorem Folder.isAnswered_of_stops {fs fs' : FileSystem} {output : Location} {here : String}
    {ignored : String → Bool} {bytes : List UInt8} {mode : ℕ} {path name target : String}
    (h : fs.DifferAt (· = output) fs') (hfile : fs'.at? output = some (.file bytes mode))
    (hstops : ¬ fs.Meets (fun p rest => p = output ∧ rest ≠ []) FileSystem.maxLinks
      (FileSystem.origin here (Path.join path name))
      (FileSystem.waypoints (Path.join path name)))
    (hs : isAnswered fs here ignored path name (.link target)) :
    isAnswered fs' here ignored path name (.link target) := by
  have hsame : ∀ p (rest : List String), ¬ (p = output ∧ rest ≠ []) →
      fs'.bareAt? p = fs.bareAt? p ∨
        rest = [] ∧ p = output ∧ ∃ bytes mode, fs'.at? p = some (.file bytes mode) := by
    intro p rest hspot
    by_cases hp : p = output
    · subst hp
      exact .inr ⟨by simpa using hspot, rfl, bytes, mode, hfile⟩
    · exact .inl (h.same p hp)
  rw [isAnswered, FileSystem.lookUp, FileSystem.locate] at hs ⊢
  cases hfault : FileSystem.pathFault? (Path.join path name) with
  | some cause =>
    rw [hfault] at hs
    exact hs
  | none =>
    rw [hfault] at hs
    rcases fs.walk_eq_or_halts hsame hstops with heq | ⟨p, -, hp⟩
    · -- the same walk: an error stays what it is, and any place where it ends is good enough
      rw [heq]
      cases hw : fs.walk FileSystem.maxLinks (FileSystem.origin here (Path.join path name))
          (FileSystem.waypoints (Path.join path name)) with
      | ok goal =>
        simp only
        cases fs'.at? goal <;> rfl
      | error cause =>
        rw [hw] at hs
        exact hs
    · rw [hp]
      simp only
      cases fs'.at? p <;> rfl

namespace Report

variable {fs fs' : FileSystem} {output : Location} {here : String} {s : Settings} {f : Filter}

/-- Neither the path of the entities nor a link that is named like a source, below the root or the
entities, leads through the output. -/
structure ListingAvoids (fs : FileSystem) (output : Location) (here : String) (s : Settings)
    (f : Filter) : Prop where
  entities : ∀ path, s.entities = some path → fs.PathAvoids (· = output) here path
  links : ∀ base, base = s.root ∨ s.entities = some base → ∀ place name target,
    Source.IsLinkBelow fs here f.ignores base place name target → Path.isSource name →
    fs.LinkAvoids (· = output) place target

/-- Nor does the path of the root lead through the output, and no other link below the root leads
beyond it. -/
structure OutputAvoided (fs : FileSystem) (output : Location) (here : String) (s : Settings)
    (f : Filter) : Prop extends ListingAvoids fs output here s f where
  root : ∀ path, path = s.root ∨ path = Path.absolute here s.root →
    fs.PathAvoids (· = output) here path
  others : ∀ place name target, Source.IsLinkBelow fs here f.ignores s.root place name target →
    place ++ [name] ≠ output → fs.LinkStops output place target

theorem OutputAvoided.buildAvoids (h : OutputAvoided fs output here s f) :
    BuildAvoids fs (· = output) here s f where
  root := ⟨h.root s.root (.inl rfl), h.links s.root (.inl rfl)⟩
  entities path hpath := ⟨h.entities path hpath, h.links path (.inr hpath)⟩

theorem isSource_outputName : Path.isSource Settings.outputName = false := by
  decide +kernel

theorem locateName_outputPath {place : Location} {name : String}
    (h : fs.locateName here s.outputPath = .ok (place, some name)) :
    name = Settings.outputName ∧ (FileSystem.parentAndName s.outputPath).1 = Path.steps s.root := by
  have hpiece : Path.IsPiece Settings.outputName := by decide +kernel
  have hsteps : Path.steps s.outputPath = Path.steps s.root ++ [Settings.outputName] := by
    rw [Settings.outputPath, Path.steps_join (Path.isAbsolute_of_isPiece hpiece),
      Path.steps_of_isPiece hpiece]
  have hname := (FileSystem.parentAndName_eq_some (FileSystem.locateName_eq_ok_iff.1 h).2.1).1
  rw [hsteps] at hname
  obtain ⟨hparent, hlast⟩ := List.append_inj' hname rfl
  exact ⟨(List.cons.inj hlast).1.symm, hparent.symm⟩

theorem differAt_output {place : Location} {entries : List (String × Entry)}
    (hplace : fs.at? place = some (.folder entries))
    (hold : (fs.at? (place ++ [Settings.outputName])).all (!·.isFolder)) (r : Report) :
    fs.DifferAt (· = place ++ [Settings.outputName])
      (fs.insertAt place Settings.outputName (outputFile r)) where
  same loc hloc := fs.bareAt?_insertAt hplace rfl hold hloc
  left loc hloc := hloc ▸ hold
  right loc hloc := by
    rw [hloc, fs.at?_insertAt hplace, Entry.find?_nil]
    rfl
  plain above name hloc := by
    obtain ⟨-, hname⟩ := List.append_inj' hloc rfl
    rw [(List.cons.inj hname).1]
    exact isSource_outputName

theorem OutputAvoided.stops {top : Location} {entries : List (String × Entry)}
    {folders : List String} {name target : String} (ha : OutputAvoided fs output here s f)
    (hfs : fs.isProper) (houtput : (fs.at? output).all (!·.isFolder))
    (hname : f.ignores (Folder.ownName here s.root) = false)
    (hl : fs.listFolder here s.root = .ok (top, entries))
    (hfolders : ∀ folder ∈ folders, f.ignores folder = false)
    (hlink : fs.at? (top ++ folders ++ [name]) = some (.link target))
    (hother : top ++ folders ++ [name] ≠ output) :
    ¬ fs.Meets (fun p rest => p = output ∧ rest ≠ []) FileSystem.maxLinks
      (FileSystem.origin here ((folders ++ [name]).foldl Path.join s.root))
      (FileSystem.waypoints ((folders ++ [name]).foldl Path.join s.root)) := by
  intro hm
  have hnames := fs.isName_of_at?_append hfs (List.append_assoc top folders [name] ▸ hlink)
  have hspot : ∀ loc below (names : List String), fs.at? loc = some (.folder below) →
      names ≠ [] → ¬ (loc = output ∧ names ≠ []) := by
    rintro _ below names hb - ⟨rfl, -⟩
    simp [hb, Entry.isFolder] at houtput
  rcases FileSystem.meets_below_cases hl hnames hlink hspot hm with hm | hend | ⟨_, heq, hm⟩
  · refine ha.root s.root (.inl rfl) (FileSystem.meets_waypoints_iff.2 (hm.imp ?_))
    exact fun p rest h => h.1
  · exact hother hend.1
  · cases heq
    exact ha.others _ name target ⟨hname, top, entries, folders, hl, rfl, hfolders, hlink⟩ hother hm

/-- The output shows nowhere in the snapshot of the root. -/
theorem showsSame_output {bytes : List UInt8} {mode : ℕ} {top : Location} {folder : Folder}
    {entries : List (String × Entry)} (hfs : fs.isProper) (hhere : fs.IsWorkingFolder here)
    (h : fs.DifferAt (· = output) fs')
    (hfile : fs'.at? output = some (.file bytes mode)) (ha : OutputAvoided fs output here s f)
    (hname : f.ignores (Folder.ownName here s.root) = false)
    (hl : fs.listFolder here s.root = .ok (top, entries))
    (hsnapshot : Folder.snapshot fs here f.ignores s.root = .ok folder) :
    Folder.ShowsSame fs fs' (· = output) here f.ignores s.root top := by
  have htop := fs.at?_of_listFolder hl
  have hanswered : ∀ folders name target, (∀ folder ∈ folders, f.ignores folder = false) →
      fs.at? (top ++ folders ++ [name]) = some (.link target) →
      Folder.isAnswered fs here f.ignores (folders.foldl Path.join s.root) name
        (.link target) := by
    intro folders name target hfolders hlink
    rw [List.append_assoc, fs.at?_append_of_folder htop] at hlink
    exact Folder.isAnswered_of_assemble (fs.isProper_of_at? hfs htop)
      (Folder.assemble_of_snapshot hname hl hsnapshot) hfolders hlink
  refine ⟨?_, ?_, ?_⟩
  · intro folders name target hfolders haway hlink
    have hjoin : Path.join (folders.foldl Path.join s.root) name =
        (folders ++ [name]).foldl Path.join s.root := by simp
    cases hsource : Path.isSource name with
    | true =>
      refine Folder.showEntry_link_eq h (fun _ _ => hhere) ?_ target
      rw [hjoin]
      refine h.pathAvoids_below hfs hl (ha.root s.root (.inl rfl)) hlink haway ?_
      rintro _ ⟨⟩
      exact ha.links s.root (.inl rfl) _ name target
        ⟨hname, top, entries, folders, hl, rfl, hfolders, hlink⟩ hsource
    | false =>
      have hs := hanswered folders name target hfolders hlink
      have hstops := ha.stops hfs (h.left output rfl) hname hl hfolders hlink haway
      rw [← hjoin] at hstops
      have hs' := Folder.isAnswered_of_stops h hfile hstops hs
      rw [Folder.showEntry_of_isAnswered hsource hs, Folder.showEntry_of_isAnswered hsource hs']
  · intro folders name e hfolders haway he
    have hplain := h.plain _ _ haway
    cases e with
    | file bytes mode => simp [Folder.showEntry, hplain]
    | folder below => exact absurd haway (h.not_away_of_folder he)
    | link target =>
      exact Folder.showEntry_of_isAnswered hplain (hanswered folders name target hfolders he)
  · intro folders name e hfolders haway he
    have hplain := h.plain _ _ haway
    -- the output itself is a file now, and it is not named like a source
    change top ++ folders ++ [name] = output at haway
    rw [haway, hfile, Option.some_inj] at he
    subst he
    simp [Folder.showEntry, hplain]

/-- A run that succeeded gives the same report again after it was written. -/
theorem build_after_output [CharacterNames] {bytes : List UInt8} {mode : ℕ} {parse : Parser}
    {r : Report} (hfs : fs.isProper) (hfs' : fs'.isProper) (hhere : fs.IsWorkingFolder here)
    (h : fs.DifferAt (· = output) fs') (hfile : fs'.at? output = some (.file bytes mode))
    (ha : ∀ f, Filter.read s.filter = .ok f → OutputAvoided fs output here s f)
    (hbuild : (build fs here s parse).result = .ok r) :
    build fs' here s parse = build fs here s parse := by
  obtain ⟨l, hdescribes, -⟩ := build_eq_ok_iff.1 hbuild
  refine build_eq hfs hfs' h (fun _ _ => hhere) ?_ (fun f hf => (ha f hf).buildAvoids) parse
  intro f hf
  have hfilter := hdescribes.filter_eq
  rw [hf, Except.ok.injEq] at hfilter
  have hsnapshot := hdescribes.folder_eq
  rw [← hfilter] at hsnapshot
  refine Folder.snapshot_eq hfs hfs' h (fun _ _ => hhere) ((ha f hf).root s.root (.inl rfl)) ?_
  intro top entries hname hl
  exact showsSame_output hfs hhere h hfile (ha f hf) hname hl hsnapshot

end Report

end Outline
