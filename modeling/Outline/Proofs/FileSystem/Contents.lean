import Outline.Proofs.FileSystem.Proper

set_option autoImplicit false

/-!
# Files with other contents

Walking, listing a folder and looking up a path look at names, folders and links, never at what a
file holds. `refill` gives the files of a file system other bytes, depending on their places; every
path then leads to the same place as before, or fails to for the same reason.
-/
namespace Outline

namespace Entry

mutual

/-- The entry at a place, with other bytes in the files at or below it. -/
def refill (change : Location → List UInt8 → List UInt8) (place : Location) : Entry → Entry
  | file bytes mode => file (change place bytes) mode
  | link target => link target
  | folder entries => folder (refillAll change place entries)

def refillAll (change : Location → List UInt8 → List UInt8) (place : Location) :
    List (String × Entry) → List (String × Entry)
  | [] => []
  | (name, e) :: rest => (name, refill change (place ++ [name]) e) :: refillAll change place rest

end

variable (change : Location → List UInt8 → List UInt8)

theorem refillAll_eq_map (place : Location) (entries : List (String × Entry)) :
    refillAll change place entries =
      entries.map fun x => (x.1, x.2.refill change (place ++ [x.1])) := by
  induction entries with
  | nil => rfl
  | cons x rest ih => rw [refillAll, ih, List.map_cons]

theorem lookup_refillAll (place : Location) (entries : List (String × Entry)) (name : String) :
    (refillAll change place entries).lookup name =
      (entries.lookup name).map (refill change (place ++ [name])) := by
  induction entries with
  | nil => rfl
  | cons x rest ih =>
    obtain ⟨first, e⟩ := x
    rw [refillAll, List.lookup_cons, List.lookup_cons]
    cases h : name == first with
    | true => rw [beq_iff_eq.1 h]; rfl
    | false => exact ih

theorem find?_refill (place loc : Location) (e : Entry) :
    (e.refill change place).find? loc = (e.find? loc).map (refill change (place ++ loc)) := by
  induction loc generalizing place e with
  | nil => simp
  | cons name loc ih =>
    cases e with
    | file bytes mode => rfl
    | link target => rfl
    | folder entries =>
      rw [refill, find?_folder_cons, find?_folder_cons, lookup_refillAll]
      cases entries.lookup name with
      | none => rfl
      | some below =>
        rw [Option.map_some, Option.bind_some, Option.bind_some, ih, List.append_assoc]
        rfl

theorem refill_refill (change' : Location → List UInt8 → List UInt8) (e : Entry)
    (place : Location) : (e.refill change place).refill change' place =
      e.refill (fun loc bytes => change' loc (change loc bytes)) place := by
  induction e generalizing place with
  | file bytes mode => rfl
  | link target => rfl
  | folder entries ih =>
    rw [refill, refill, refill, refillAll_eq_map, refillAll_eq_map, refillAll_eq_map, List.map_map]
    congr 1
    refine List.map_congr_left fun x hx => ?_
    rw [Function.comp_apply, ih x hx]

@[simp]
theorem isFolder_refill (place : Location) (e : Entry) :
    (e.refill change place).isFolder = e.isFolder := by
  cases e <;> rfl

end Entry

namespace FileSystem

/-- The same folders and links, with other bytes in the files. -/
def refill (change : Location → List UInt8 → List UInt8) (fs : FileSystem) : FileSystem :=
  ⟨Entry.refillAll change [] fs.entries⟩

variable (change : Location → List UInt8 → List UInt8) (fs : FileSystem)

theorem at?_refill (loc : Location) :
    (fs.refill change).at? loc = (fs.at? loc).map (Entry.refill change loc) :=
  Entry.find?_refill change [] loc fs.root

theorem walkWith_refill (atLink : Location → List String → Except FileCause Location)
    (place : Location) (names : List String) :
    (fs.refill change).walkWith atLink place names = fs.walkWith atLink place names := by
  induction names generalizing place with
  | nil => rfl
  | cons name rest ih =>
    rw [walkWith, walkWith, ih, ih, ih, at?_refill]
    rcases fs.at? (place ++ [name]) with _ | (_ | _ | _) <;> rfl

theorem walk_refill (links : ℕ) (place : Location) (names : List String) :
    (fs.refill change).walk links place names = fs.walk links place names := by
  induction links generalizing place names with
  | zero => exact walkWith_refill change fs _ place names
  | succ links ih =>
    have hlink : (fs.refill change).walk links = fs.walk links := by
      funext place names
      exact ih place names
    rw [walk, walk, hlink]
    exact walkWith_refill change fs _ place names

theorem locate_refill (here path : String) :
    (fs.refill change).locate here path = fs.locate here path := by
  unfold locate
  rw [walk_refill]

theorem lookUp_refill (here path : String) : (fs.refill change).lookUp here path =
    (fs.lookUp here path).map fun found => (found.1, found.2.refill change found.1) := by
  unfold lookUp
  rw [locate_refill]
  cases fs.locate here path with
  | error cause => rfl
  | ok place =>
    simp only [at?_refill]
    cases fs.at? place <;> rfl

theorem isFolder_refill (here path : String) :
    (fs.refill change).isFolder here path = fs.isFolder here path := by
  unfold isFolder
  rw [lookUp_refill]
  cases fs.lookUp here path with
  | error e => rfl
  | ok found => exact Entry.isFolder_refill change found.1 found.2

theorem listFolder_refill (here path : String) : (fs.refill change).listFolder here path =
    (fs.listFolder here path).map fun found =>
      (found.1, Entry.refillAll change found.1 found.2) := by
  unfold listFolder
  rw [lookUp_refill]
  rcases fs.lookUp here path with _ | ⟨place, _ | _ | _⟩ <;> rfl

/-! ## One file -/

theorem locate_of_lookUp {fs : FileSystem} {here path : String} {place : Location} {e : Entry}
    (h : fs.lookUp here path = .ok (place, e)) : fs.locate here path = .ok place := by
  unfold lookUp at h
  cases hl : fs.locate here path with
  | error cause => simp [hl] at h
  | ok goal =>
    simp only [hl] at h
    cases hf : fs.at? goal with
    | none => simp [hf] at h
    | some found =>
      rw [hf, Except.ok.injEq, Prod.mk.injEq] at h
      rw [h.1]

def withBytes (fs : FileSystem) (place : Location) (bytes : List UInt8) : FileSystem :=
  fs.refill fun loc old => if loc = place then bytes else old

/-- Two file systems differ at most in the bytes of the file at a place. -/
def DifferInBytes (place : Location) (fs fs' : FileSystem) : Prop :=
  fs'.withBytes place [] = fs.withBytes place []

variable {fs} {fs' : FileSystem} {place : Location}

theorem differInBytes_withBytes (fs : FileSystem) (place : Location) (bytes : List UInt8) :
    fs.DifferInBytes place (fs.withBytes place bytes) := by
  have hroot := Entry.refill_refill (fun loc old => if loc = place then bytes else old)
    (fun loc old => if loc = place then [] else old) fs.root []
  have hchange : (fun (loc : Location) (old : List UInt8) =>
      if loc = place then [] else if loc = place then bytes else old) =
      fun loc old => if loc = place then [] else old := by
    funext loc old
    split_ifs <;> rfl
  rw [hchange] at hroot
  exact congrArg FileSystem.mk (Entry.folder.inj hroot)

theorem DifferInBytes.symm (h : fs.DifferInBytes place fs') : fs'.DifferInBytes place fs :=
  Eq.symm h

theorem DifferInBytes.isFolder_eq (h : fs.DifferInBytes place fs') (here path : String) :
    fs'.isFolder here path = fs.isFolder here path := by
  have hsame := congrArg (fun system => system.isFolder here path) h
  simpa only [withBytes, isFolder_refill] using hsame

theorem DifferInBytes.fileBytes_cases (h : fs.DifferInBytes place fs') (here path : String) :
    (∃ e, fs.fileBytes here path = .error e ∧ fs'.fileBytes here path = .error e) ∨
    ∃ bytes bytes', fs.fileBytes here path = .ok bytes ∧ fs'.fileBytes here path = .ok bytes' ∧
      (fs.locate here path ≠ .ok place → bytes' = bytes) := by
  have hsame := congrArg (fun system => system.lookUp here path) h
  simp only [withBytes, lookUp_refill] at hsame
  unfold fileBytes
  rcases hl : fs.lookUp here path with e | ⟨goal, found⟩ <;>
    rcases hl' : fs'.lookUp here path with e' | ⟨goal', found'⟩ <;>
    simp only [hl, hl', Except.map, Except.ok.injEq, Except.error.injEq, Prod.mk.injEq,
      reduceCtorEq] at hsame
  · exact .inl ⟨e, rfl, by rw [hsame]⟩
  · obtain ⟨rfl, hfound⟩ := hsame
    cases found <;> cases found' <;>
      simp only [Entry.refill, Entry.file.injEq, Entry.link.injEq, reduceCtorEq] at hfound
    · rename_i bytes mode bytes' mode'
      refine .inr ⟨bytes, bytes', rfl, rfl, fun hne => ?_⟩
      have hgoal : goal' ≠ place := by
        rintro rfl
        exact hne (locate_of_lookUp hl)
      simpa [hgoal] using hfound.1
    · exact .inl ⟨_, rfl, rfl⟩
    · exact .inl ⟨_, rfl, rfl⟩

end FileSystem

end Outline
