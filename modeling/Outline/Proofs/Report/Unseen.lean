import Outline.Proofs.Folder.Unseen
import Outline.Proofs.Outcome
import Outline.Proofs.Source.Unseen
import Outline.Report.Build

set_option autoImplicit false

/-!
# What a report does not see

A run that looks past all the places where two file systems differ gives the same report in both, or
fails with the same error, and it takes the same notes on the way.
-/
namespace Outline.Report

/-- The searches of a run, below the root and below the folder of entities, lead past all the places
of a set. -/
structure BuildAvoids (fs : FileSystem) (away : Location → Prop) (here : String) (s : Settings)
    (f : Filter) : Prop where
  root : Source.SearchAvoids fs away here f.ignores s.root
  entities : ∀ path, s.entities = some path → Source.SearchAvoids fs away here f.ignores path

variable {fs fs' : FileSystem} {away : Location → Prop} {here : String} {s : Settings} {f : Filter}

section

variable (hfs : fs.isProper) (hfs' : fs'.isProper) (h : fs.DifferAt away fs')
  (hhere : ∀ loc, away loc → fs.IsWorkingFolder here)

include hfs hfs' h hhere

theorem blocks_eq {base : String} (ha : Source.SearchAvoids fs away here f.ignores base)
    (root : String) (parse : Parser) (detail : Listing.Detail) :
    blocks fs' here root f parse detail base = blocks fs here root f parse detail base := by
  unfold blocks
  rw [Source.files_eq hfs hfs' h hhere ha]
  refine Outcome.bind_congr fun paths hpaths => Outcome.forEach_congr fun path hpath => ?_
  have havoids := Source.pathAvoids_of_mem_files hfs h hpaths (List.mem_of_mem_filter hpath) ha
  rw [blockOf, blockOf, h.fileBytes_eq hhere havoids]

theorem entitySections_eq (ha : BuildAvoids fs away here s f) (parse : Parser) :
    entitySections fs' here s f parse = entitySections fs here s f parse := by
  have hfolder : s.entitiesFolder? fs' here = s.entitiesFolder? fs here := by
    unfold Settings.entitiesFolder?
    cases hs : s.entities with
    | none => rfl
    | some path =>
      rw [Option.filter_some, Option.filter_some, h.isFolder_eq hhere (ha.entities path hs).path]
  unfold entitySections
  rw [hfolder]
  cases hentities : s.entitiesFolder? fs here with
  | none => cases s.entities <;> rfl
  | some folder =>
    have hgiven : s.entities = some folder := (Option.filter_eq_some_iff.1 hentities).1
    simp only [blocks_eq hfs hfs' h hhere (ha.entities folder hgiven)]

/-- A run gives the same outcome in two file systems if it avoids the places where they differ and
the root has the same snapshot in both. -/
theorem build_eq [CharacterNames] (hsnapshot : ∀ f, Filter.read s.filter = .ok f →
      Folder.snapshot fs' here f.ignores s.root = Folder.snapshot fs here f.ignores s.root)
    (ha : ∀ f, Filter.read s.filter = .ok f → BuildAvoids fs away here s f) (parse : Parser) :
    build fs' here s parse = build fs here s parse := by
  unfold build
  refine Outcome.bind_congr fun f hf => ?_
  rw [Outcome.result_ofResult, Except.mapError_eq_ok_iff] at hf
  have havoids := ha f hf
  rw [hsnapshot f hf, blocks_eq hfs hfs' h hhere havoids.root,
    entitySections_eq hfs hfs' h hhere havoids]

end

end Outline.Report
