import Outline.Proofs.FileSystem.Contents
import Outline.Proofs.Folder.Snapshot
import Outline.Proofs.Report.Layout

set_option autoImplicit false

/-!
# What the bytes of a file show

Which files a run lists, under which headers and in which order, does not depend on what any file
holds. If two file systems differ only in the bytes of one file, a run succeeds in both or in
neither, and the reports differ at most in the bodies of the blocks whose paths lead to that file.
-/
namespace Outline

variable {change : Location → List UInt8 → List UInt8} {fs fs' : FileSystem} {g : Location}
  {ignored : String → Bool}

namespace Source

theorem waysTo_refill (e : Entry) (here : String) (loc : Location) (path name : String) :
    waysTo (fs.refill change) here ignored path name (e.refill change loc) =
      waysTo fs here ignored path name e := by
  induction e generalizing loc path name with
  | file bytes mode => rfl
  | link target => rw [Entry.refill, waysTo, waysTo, fs.isFolder_refill]
  | folder entries ih =>
    rw [Entry.refill, waysTo, waysTo, fs.isFolder_refill]
    split_ifs
    · rfl
    · rw [waysAmong_eq_flatMap, waysAmong_eq_flatMap, Entry.refillAll_eq_map, List.flatMap_map]
      congr 1
      exact List.flatMap_congr fun x hx => ih x hx _ _ x.1

theorem files_refill (here : String) (f : Filter) (base : String) :
    files (fs.refill change) here f base = files fs here f base := by
  unfold files
  rw [fs.listFolder_refill]
  split_ifs
  · rfl
  · rcases fs.listFolder here base with ⟨cause, path, target⟩ | ⟨place, entries⟩
    · cases cause <;> rfl
    · simp only [Except.map, waysAmong_eq_flatMap, Entry.refillAll_eq_map, List.flatMap_map,
        waysTo_refill]

end Source

namespace Folder

theorem showEntry_refill (e : Entry) (here : String) (loc : Location) (path name : String) :
    showEntry (fs.refill change) here ignored path name (e.refill change loc) =
      showEntry fs here ignored path name e := by
  induction e generalizing loc path name with
  | file bytes mode => rfl
  | link target =>
    rw [Entry.refill, showEntry, showEntry, fs.lookUp_refill]
    rcases fs.lookUp here (Path.join path name) with _ | ⟨goal, _ | _ | _⟩ <;> rfl
  | folder entries ih =>
    have hsame : (Entry.refillAll change loc entries).map (fun x =>
        (x.1, showEntry (fs.refill change) here ignored (Path.join path name) x.1 x.2)) =
        entries.map fun x => (x.1, showEntry fs here ignored (Path.join path name) x.1 x.2) := by
      rw [Entry.refillAll_eq_map, List.map_map]
      exact List.map_congr_left fun x hx => congrArg (Prod.mk x.1) (ih x hx _ _ x.1)
    rw [Entry.refill, showEntry, showEntry, showEntries_eq_map, showEntries_eq_map, hsame,
      fs.listFolder_refill]
    cases fs.listFolder here (Path.join path name) <;> rfl

theorem snapshot_refill (here path : String) :
    snapshot (fs.refill change) here ignored path = snapshot fs here ignored path := by
  unfold snapshot
  rw [fs.listFolder_refill]
  rcases fs.listFolder here path with e | ⟨place, entries⟩
  · rfl
  · simp only [Except.map, bind, Except.bind, showEntries_eq_map, Entry.refillAll_eq_map,
      List.map_map, Function.comp_def, showEntry_refill]

end Folder

namespace FileSystem

theorem DifferInBytes.files_eq (h : fs.DifferInBytes g fs') (here : String) (f : Filter)
    (base : String) : Source.files fs' here f base = Source.files fs here f base := by
  have hsame := congrArg (fun system => Source.files system here f base) h
  simpa only [withBytes, Source.files_refill] using hsame

theorem DifferInBytes.snapshot_eq (h : fs.DifferInBytes g fs') (here path : String) :
    Folder.snapshot fs' here ignored path = Folder.snapshot fs here ignored path := by
  have hsame := congrArg (fun system => Folder.snapshot system here ignored path) h
  simpa only [withBytes, Folder.snapshot_refill] using hsame

theorem DifferInBytes.entitiesFolder?_eq (h : fs.DifferInBytes g fs') (here : String)
    (s : Settings) : s.entitiesFolder? fs' here = s.entitiesFolder? fs here := by
  have hfolder : fs'.isFolder here = fs.isFolder here := by
    funext path
    exact h.isFolder_eq here path
  rw [Settings.entitiesFolder?, Settings.entitiesFolder?, hfolder]

end FileSystem

namespace Report

variable {here root : String} {parse : Parser} {detail : Listing.Detail}

/-- Two blocks under one header, with the same text unless their path leads to a place. -/
structure FileBlock.Agree (fs : FileSystem) (here : String) (g : Location) (b b' : FileBlock) :
    Prop where
  relative_eq : b'.relative = b.relative
  text_eq : fs.locate here b.path ≠ .ok g → b'.text = b.text

def Layout.blocks (l : Layout) : List FileBlock := l.structural ++ l.entities.getD []

/-- Two sections are equal, or they are blocks of one file under the same header, and the path of
that file leads to a place. -/
def Layout.AgreeAt (fs : FileSystem) (here : String) (g : Location) (l : Layout)
    (text text' : String) : Prop :=
  text' = text ∨ ∃ b ∈ l.blocks, fs.locate here b.path = .ok g ∧ text = b.text ∧
    ∃ body, text' = fileBlock b.relative body

theorem exists_forall₂ {α β γ : Type} {R : α → β → Prop} {S : α → γ → Prop} {T : β → γ → Prop}
    {as : List α} {bs : List β} (hstep : ∀ a b, R a b → ∃ c, S a c ∧ T b c)
    (h : List.Forall₂ R as bs) : ∃ cs, List.Forall₂ S as cs ∧ List.Forall₂ T bs cs := by
  induction h with
  | nil => exact ⟨[], .nil, .nil⟩
  | cons first _ ih =>
    obtain ⟨c, hs, ht⟩ := hstep _ _ first
    obtain ⟨cs, hss, hts⟩ := ih
    exact ⟨c :: cs, .cons hs hss, .cons ht hts⟩

section Transfer

variable (h : fs.DifferInBytes g fs') (hparse : ∀ text, ∃ o, (parse text).result = .ok o)

include h hparse

theorem IsBlockOf.transfer {path : String} {b : FileBlock}
    (hb : IsBlockOf fs here root parse detail path b) :
    ∃ b', IsBlockOf fs' here root parse detail path b' ∧ b.Agree fs here g b' := by
  obtain ⟨hpath, hrelative, hdetail, found, hfound, houtline⟩ := hb
  rcases h.fileBytes_cases here path with ⟨e, he, -⟩ | ⟨bytes, bytes', hbytes, hbytes', hsame⟩
  · rw [he] at hfound
    cases hfound
  · rw [hbytes, Except.ok.injEq] at hfound
    subst hfound
    by_cases hg : fs.locate here path = .ok g
    · obtain ⟨outline, ho⟩ := hparse (Text.sourceText bytes')
      refine ⟨⟨path, b.relative, outline, detail⟩, ⟨rfl, hrelative, rfl, bytes', hbytes', ho⟩,
        rfl, fun hne => absurd ?_ hne⟩
      rw [hpath, hg]
    · rw [hsame hg] at hbytes'
      exact ⟨b, ⟨hpath, hrelative, hdetail, bytes, hbytes', houtline⟩, rfl, fun _ => rfl⟩

theorem AreBlocks.transfer {f : Filter} {base : String} {blocks : List FileBlock}
    (hblocks : AreBlocks fs here root parse f detail base blocks) :
    ∃ blocks', AreBlocks fs' here root parse f detail base blocks' ∧
      List.Forall₂ (FileBlock.Agree fs here g) blocks blocks' := by
  obtain ⟨paths, hpaths, hshown⟩ := hblocks
  obtain ⟨blocks', hblocks', hagree⟩ := exists_forall₂ (fun _ _ hb => hb.transfer h hparse) hshown
  exact ⟨blocks', ⟨paths, by rw [h.files_eq, hpaths], hblocks'⟩, hagree⟩

end Transfer

theorem forall₂_map_text {l : Layout} {blocks blocks' : List FileBlock}
    (hmem : ∀ b ∈ blocks, b ∈ l.blocks)
    (h : List.Forall₂ (FileBlock.Agree fs here g) blocks blocks') :
    List.Forall₂ (l.AgreeAt fs here g) (blocks.map FileBlock.text)
      (blocks'.map FileBlock.text) := by
  induction h with
  | nil => exact .nil
  | @cons b b' _ _ first _ ih =>
    rw [List.forall_mem_cons] at hmem
    refine .cons ?_ (ih hmem.2)
    by_cases hg : fs.locate here b.path = .ok g
    · refine .inr ⟨b, hmem.1, hg, rfl, b'.outline.listing b'.detail, ?_⟩
      rw [FileBlock.text, first.relative_eq]
    · exact .inl (first.text_eq hg)

theorem Layout.Describes.transfer [CharacterNames] {s : Settings} {l : Layout}
    (h : fs.DifferInBytes g fs') (hparse : ∀ text, ∃ o, (parse text).result = .ok o)
    (hl : l.Describes fs here parse s) :
    ∃ l' : Layout, l'.Describes fs' here parse s ∧
      List.Forall₂ (l.AgreeAt fs here g) l.report.sections l'.report.sections := by
  obtain ⟨structural, hstructural, hagree⟩ := hl.structural_eq.transfer h hparse
  have htexts := forall₂_map_text (l := l) (fun b hb => List.mem_append_left _ hb) hagree
  have hfolder := hl.folder_eq
  rw [← h.snapshot_eq] at hfolder
  have hentities := hl.entities_eq
  rw [← h.entitiesFolder?_eq] at hentities
  cases hgiven : s.entitiesFolder? fs' here with
  | none =>
    rw [hgiven] at hentities
    refine ⟨⟨l.filter, l.folder, structural, none⟩,
      ⟨hl.filter_eq, hfolder, hstructural, by rw [hgiven]⟩, ?_⟩
    rw [Layout.report, Layout.report, hentities]
    exact .cons (.inl rfl) (.cons (.inl rfl) (List.rel_append htexts .nil))
  | some folder =>
    rw [hgiven] at hentities
    obtain ⟨blocks, hblocks, hare⟩ := hentities
    obtain ⟨blocks', hare', hagree'⟩ := hare.transfer h hparse
    have hmem : ∀ b ∈ blocks, b ∈ l.blocks := fun b hb => by simp [Layout.blocks, hblocks, hb]
    refine ⟨⟨l.filter, l.folder, structural, some blocks'⟩,
      ⟨hl.filter_eq, hfolder, hstructural, by rw [hgiven]; exact ⟨blocks', rfl, hare'⟩⟩, ?_⟩
    rw [Layout.report, Layout.report, hblocks]
    exact .cons (.inl rfl) (.cons (.inl rfl)
      (List.rel_append htexts (.cons (.inl rfl) (forall₂_map_text hmem hagree'))))

theorem exists_build [CharacterNames] (h : fs.DifferInBytes g fs') (here : String) (s : Settings)
    (hparse : ∀ text, ∃ o, (parse text).result = .ok o)
    (hr : ∃ r, (build fs here s parse).result = .ok r) :
    ∃ r, (build fs' here s parse).result = .ok r := by
  obtain ⟨r, hr⟩ := hr
  obtain ⟨l, hl, -⟩ := build_eq_ok_iff.1 hr
  obtain ⟨l', hl', -⟩ := hl.transfer h hparse
  exact ⟨l'.report, build_eq_ok_iff.2 ⟨l', hl', rfl⟩⟩

/-- The bytes of a file matter only to the bodies of its own blocks. -/
theorem contents_show_in_own_blocks [CharacterNames] (h : fs.DifferInBytes g fs') (here : String)
    (s : Settings) (hparse : ∀ text, ∃ o, (parse text).result = .ok o) :
    ((∃ r, (build fs here s parse).result = .ok r) ↔
      ∃ r, (build fs' here s parse).result = .ok r) ∧
    ∀ r r', (build fs here s parse).result = .ok r → (build fs' here s parse).result = .ok r' →
      ∃ l : Layout, l.Describes fs here parse s ∧ r = l.report ∧
        r'.sections.length = r.sections.length ∧
        List.Forall₂ (l.AgreeAt fs here g) r.sections r'.sections := by
  refine ⟨⟨exists_build h here s hparse, exists_build h.symm here s hparse⟩, ?_⟩
  intro r r' hr hr'
  obtain ⟨l, hl, rfl⟩ := build_eq_ok_iff.1 hr
  obtain ⟨l', hl', hagree⟩ := hl.transfer h hparse
  have hreport := build_eq_ok_iff.2 ⟨l', hl', rfl⟩
  rw [hr', Except.ok.injEq] at hreport
  subst hreport
  exact ⟨l, hl, rfl, hagree.length_eq.symm, hagree⟩

/-- A file below the root, and a link to it in a folder of entities. -/
def sharedFile : FileSystem :=
  ⟨[("e", .folder [("Same.cs", .link "../r/A.cs")]),
    ("r", .folder [("A.cs", .file "class A { }".toUTF8.toList 0o644)])]⟩

theorem contents_show_in_own_blocks_linked :
    sharedFile.locate "/" "/e/Same.cs" = .ok ["r", "A.cs"] ∧
    ∃ (r r' : Report) (l : Layout),
      (build sharedFile "/" ⟨"/r", some "/e", "bin"⟩ csharp).result = .ok r ∧
      (build (sharedFile.withBytes ["r", "A.cs"] "class C { int c; }".toUTF8.toList) "/"
        ⟨"/r", some "/e", "bin"⟩ csharp).result = .ok r' ∧
      r ≠ r' ∧ r = l.report ∧ r'.sections.length = r.sections.length ∧
      List.Forall₂ (l.AgreeAt sharedFile "/" ["r", "A.cs"]) r.sections r'.sections := by
  have hparse : ∀ text, ∃ o, (csharp text).result = .ok o := fun text => ⟨_, result_csharp text⟩
  have hlocate : (sharedFile.locate "/" "/e/Same.cs").toOption = some ["r", "A.cs"] := by
    decide +kernel
  have hdiffer : (build sharedFile "/" ⟨"/r", some "/e", "bin"⟩ csharp).result.toOption ≠
      (build (sharedFile.withBytes ["r", "A.cs"] "class C { int c; }".toUTF8.toList) "/"
        ⟨"/r", some "/e", "bin"⟩ csharp).result.toOption := by
    decide +kernel
  obtain ⟨r, hr⟩ : ∃ r, (build sharedFile "/" ⟨"/r", some "/e", "bin"⟩ csharp).result = .ok r :=
    Except.exists_eq_ok (by decide +kernel)
  obtain ⟨hboth, hagree⟩ := contents_show_in_own_blocks
    (sharedFile.differInBytes_withBytes ["r", "A.cs"] "class C { int c; }".toUTF8.toList) "/"
    ⟨"/r", some "/e", "bin"⟩ hparse
  obtain ⟨r', hr'⟩ := hboth.1 ⟨r, hr⟩
  obtain ⟨l, -, hl, hlength, hsections⟩ := hagree r r' hr hr'
  refine ⟨Except.eq_ok_of_toOption hlocate, r, r', l, hr, hr', ?_, hl, hlength, hsections⟩
  rintro rfl
  exact hdiffer (by rw [hr, hr'])

end Report

end Outline
