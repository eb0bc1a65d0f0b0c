import Mathlib.Data.List.Forall2
import Outline.Decl.Json
import Outline.Folder.Json
import Outline.Proofs.Folder.Reading

set_option autoImplicit false

/-!
# Forms and what is read from them

A value may be written in several forms: fields in any order, fields that nothing asks for, and
fields left out that have a value for their absence. A form is full if no field is left out, at any
depth. A check accepts exactly the forms of a value, and a value is written in a full form.
-/
namespace Outline

namespace Json

/-! ## Checks that succeed -/

section Checks

variable {α β : Type}

@[simp]
theorem both_eq_ok_iff {x : Checked (α → β)} {y : Checked α} {b : β} :
    both x y = .ok b ↔ ∃ f, x = .ok f ∧ ∃ a, y = .ok a ∧ f a = b := by
  cases x <;> cases y <;> simp [both]

@[simp]
theorem within_eq_ok_iff {step : Step} {x : Checked α} {a : α} :
    within step x = .ok a ↔ x = .ok a := by
  cases x <;> simp [within]

@[simp]
theorem checkText_eq_ok_iff {j : Json} {text : String} :
    checkText j = .ok text ↔ j = .string text := by
  cases j <;> simp [checkText, refuse]

@[simp]
theorem checkOptionalText_eq_ok_iff {j : Json} {text : Option String} :
    checkOptionalText j = .ok text ↔ j = optionalToJson text := by
  cases text <;> cases j <;> simp [checkOptionalText, optionalToJson, refuse]

@[simp]
theorem checkItems_eq_ok_iff {check : Json → Checked α} {position : ℕ} {items : List Json}
    {values : List α} :
    checkItems check position items = .ok values ↔
      List.Forall₂ (fun value item => check item = .ok value) values items := by
  induction items generalizing position values with
  | nil => simp [checkItems, eq_comm]
  | cons item items ih =>
    simp only [checkItems, both_eq_ok_iff, within_eq_ok_iff, ih, Except.ok.injEq,
      exists_eq_left']
    constructor
    · rintro ⟨_, ⟨value, hvalue, rfl⟩, rest, hrest, rfl⟩
      exact .cons hvalue hrest
    · rintro (_ | ⟨hvalue, hrest⟩)
      exact ⟨_, ⟨_, hvalue, rfl⟩, _, hrest, rfl⟩

@[simp]
theorem checkTexts_eq_ok_iff {fault : Fault} {j : Json} {texts : List String} :
    checkTexts fault j = .ok texts ↔ j = textsToJson texts := by
  cases j with
  | array items =>
    have hitems : items = texts.map string ↔
        List.Forall₂ (fun text item => item = string text) texts items := by
      rw [eq_comm, ← List.forall₂_eq_eq_eq, List.forall₂_map_left_iff]
      simp only [eq_comm]
    simp [checkTexts, textsToJson, hitems]
  | _ => simp [checkTexts, textsToJson, refuse]

theorem field?_cons (key : String) (value : Json) (fields : List (String × Json))
    (name : String) : field? ((key, value) :: fields) name =
      if key = name then some value else field? fields name := by
  rw [field?, field?]
  split_ifs with h
  · rw [List.find?_cons_of_pos (by simpa using h)]
    rfl
  · rw [List.find?_cons_of_neg (by simpa using h)]

/-- A field is there, and its value has a form. -/
def Has (fields : List (String × Json)) (key : String) (form : Json → Prop) : Prop :=
  ∃ value, field? fields key = some value ∧ form value

/-- A field is there, and its value has a form; unless all fields have to be there, it may also be
left out on a condition. -/
def HasUnless (full : Bool) (fields : List (String × Json)) (key : String) (form : Json → Prop)
    (absent : Prop) : Prop :=
  Has fields key form ∨ full = false ∧ field? fields key = none ∧ absent

@[simp]
theorem requiredField_eq_ok_iff {fields : List (String × Json)} {key : String}
    {check : Json → Checked α} {a : α} :
    requiredField fields key check = .ok a ↔ Has fields key fun value => check value = .ok a := by
  rw [requiredField, Has]
  cases field? fields key with
  | none => simp [within, refuse]
  | some value => simp [within_eq_ok_iff]

@[simp]
theorem optionalField_eq_ok_iff {fields : List (String × Json)} {key : String} {absent : α}
    {check : Json → Checked α} {a : α} :
    optionalField fields key absent check = .ok a ↔
      HasUnless false fields key (fun value => check value = .ok a) (a = absent) := by
  rw [optionalField, HasUnless, Has]
  cases field? fields key with
  | none => simp [eq_comm]
  | some value => simp [within_eq_ok_iff]

/-- An array of forms, one for each value. -/
def AreForms (form : α → Json → Prop) (values : List α) (j : Json) : Prop :=
  ∃ items, j = .array items ∧ List.Forall₂ form values items

theorem areForms_map {form : α → Json → Prop} {toJson : α → Json} (h : ∀ a, form a (toJson a))
    (values : List α) : AreForms form values (.array (values.map toJson)) := by
  refine ⟨_, rfl, ?_⟩
  rw [List.forall₂_map_right_iff, List.forall₂_same]
  exact fun a _ => h a

end Checks

end Json

open Json

/-! ## Declarations -/

/-- The fields that constructors and methods share. -/
def Signature.HasForm (full : Bool) (s : Signature) (fields : List (String × Json)) : Prop :=
  HasUnless full fields "modifiers" (· = textsToJson s.modifiers) (s.modifiers = []) ∧
  Has fields "name" (· = .string s.name) ∧
  HasUnless full fields "summary" (· = optionalToJson s.summary) (s.summary = none) ∧
  HasUnless full fields "parameters" (· = textsToJson s.parameters) (s.parameters = [])

@[simp]
theorem Signature.check_eq_ok_iff {s : Signature} {fields : List (String × Json)} :
    check fields = .ok s ↔ s.HasForm false fields := by
  obtain ⟨modifiers, name, summary, parameters⟩ := s
  simp [check, HasForm, and_assoc]

namespace Member

def tag : Member → String
  | constructor _ => "constructor"
  | method .. => "method"
  | field .. => "field"
  | property .. => "property"

/-- The fields for a member, apart from its tag. -/
def HasOwnFields (full : Bool) (fields : List (String × Json)) : Member → Prop
  | constructor s => s.HasForm full fields
  | method s returnType => s.HasForm full fields ∧ Has fields "return_type" (· = .string returnType)
  | field modifiers type names summary =>
    HasUnless full fields "modifiers" (· = textsToJson modifiers) (modifiers = []) ∧
    Has fields "type" (· = .string type) ∧
    Has fields "names" (· = textsToJson names) ∧
    HasUnless full fields "summary" (· = optionalToJson summary) (summary = none)
  | property modifiers type name summary =>
    HasUnless full fields "modifiers" (· = textsToJson modifiers) (modifiers = []) ∧
    Has fields "type" (· = .string type) ∧
    Has fields "name" (· = .string name) ∧
    HasUnless full fields "summary" (· = optionalToJson summary) (summary = none)

def HasForm (full : Bool) (m : Member) (j : Json) : Prop :=
  ∃ fields, j = .object fields ∧ Has fields "member_kind" (· = .string m.tag) ∧
    m.HasOwnFields full fields

@[simp]
theorem checkAs_eq_ok_iff {tag : Json} {fields : List (String × Json)} {m : Member} :
    checkAs tag fields = .ok m ↔ tag = .string m.tag ∧ m.HasOwnFields false fields := by
  unfold checkAs
  split
  -- one goal for each tag, and in it one for each kind of member
  · cases m <;> simp [Member.tag, HasOwnFields]
  · cases m <;> simp [Member.tag, HasOwnFields]
  · cases m <;> simp [Member.tag, HasOwnFields, and_assoc]
  · cases m <;> simp [Member.tag, HasOwnFields, and_assoc]
  · -- no member has another tag
    cases m <;> simp_all [refuse, Member.tag]

theorem check_eq_ok_iff {j : Json} {m : Member} : check j = .ok m ↔ m.HasForm false j := by
  cases j with
  | object fields =>
    simp only [check, HasForm, Has, Json.object.injEq, exists_eq_left']
    cases field? fields "member_kind" with
    | none => simp [refuse]
    | some tag => simp
  | _ => simp [check, HasForm, refuse]

theorem hasForm_toJson (full : Bool) (m : Member) : m.HasForm full m.toJson := by
  cases m <;> exact ⟨_, rfl, by
    simp [Has, HasUnless, HasOwnFields, Signature.HasForm, Signature.toFields, field?_cons,
      Member.tag]⟩

end Member

namespace TypeDecl

def HasForm (full : Bool) (t : TypeDecl) (j : Json) : Prop :=
  ∃ fields, j = .object fields ∧
    Has fields "kind" (· = .string t.kind) ∧
    HasUnless full fields "modifiers" (· = textsToJson t.modifiers) (t.modifiers = []) ∧
    Has fields "name" (· = .string t.name) ∧
    HasUnless full fields "summary" (· = optionalToJson t.summary) (t.summary = none) ∧
    HasUnless full fields "members" (AreForms (Member.HasForm full) t.members) (t.members = [])

theorem checkMembers_eq_ok_iff {j : Json} {members : List Member} :
    checkMembers j = .ok members ↔ AreForms (Member.HasForm false) members j := by
  cases j with
  | array items => simp [checkMembers, AreForms, Member.check_eq_ok_iff]
  | _ => simp [checkMembers, AreForms, refuse]

theorem check_eq_ok_iff {j : Json} {t : TypeDecl} : check j = .ok t ↔ t.HasForm false j := by
  obtain ⟨kind, modifiers, name, summary, members⟩ := t
  cases j with
  | object fields => simp [check, HasForm, checkMembers_eq_ok_iff, and_assoc]
  | _ => simp [check, HasForm, refuse]

theorem hasForm_toJson (full : Bool) (t : TypeDecl) : t.HasForm full t.toJson := by
  have hmembers := areForms_map (Member.hasForm_toJson full) t.members
  exact ⟨_, rfl, by simp [Has, HasUnless, field?_cons, hmembers]⟩

end TypeDecl

namespace SourceOutline

def HasForm (full : Bool) (o : SourceOutline) (j : Json) : Prop :=
  ∃ fields, j = .object fields ∧
    HasUnless full fields "types" (AreForms (TypeDecl.HasForm full) o.types) (o.types = [])

theorem checkTypes_eq_ok_iff {j : Json} {types : List TypeDecl} :
    checkTypes j = .ok types ↔ AreForms (TypeDecl.HasForm false) types j := by
  cases j with
  | array items => simp [checkTypes, AreForms, TypeDecl.check_eq_ok_iff]
  | _ => simp [checkTypes, AreForms, refuse]

theorem check_eq_ok_iff {j : Json} {o : SourceOutline} : check j = .ok o ↔ o.HasForm false j := by
  obtain ⟨types⟩ := o
  cases j with
  | object fields => simp [check, HasForm, checkTypes_eq_ok_iff]
  | _ => simp [check, HasForm, refuse]

theorem hasForm_toJson (full : Bool) (o : SourceOutline) : o.HasForm full o.toJson := by
  have htypes := areForms_map (TypeDecl.hasForm_toJson full) o.types
  exact ⟨_, rfl, by simp [Has, HasUnless, field?_cons, htypes]⟩

end SourceOutline

/-! ## Folders -/

namespace Folder

mutual

def HasForm (full : Bool) : Folder → Json → Prop
  | mk name files folders, j => ∃ fields, j = .object fields ∧
    Has fields "name" (· = .string name) ∧
    HasUnless full fields "files" (· = textsToJson files) (files = []) ∧
    HasUnless full fields "directories"
      (fun value => ∃ items, value = .array items ∧ HaveForms full folders items) (folders = [])

def HaveForms (full : Bool) : List Folder → List Json → Prop
  | [], items => items = []
  | f :: rest, items => ∃ first others, items = first :: others ∧
    HasForm full f first ∧ HaveForms full rest others

end

theorem checkFrom_eq (position : ℕ) (items : List Json) :
    checkFrom position items = checkItems check position items := by
  induction items generalizing position with
  | nil => rfl
  | cons item items ih => rw [checkFrom, checkItems, ih]

theorem checkSubfolders_eq (fields : List (String × Json)) :
    checkSubfolders fields = optionalField fields "directories" [] checkList := by
  induction fields with
  | nil => rfl
  | cons field fields ih =>
    obtain ⟨key, value⟩ := field
    rw [checkSubfolders, ih, optionalField, optionalField, field?_cons]
    by_cases hkey : key = "directories"
    · simp [hkey]
    · simp [hkey]

theorem haveForms_iff (full : Bool) (folders : List Folder) (items : List Json) :
    HaveForms full folders items ↔ List.Forall₂ (HasForm full) folders items := by
  induction folders generalizing items with
  | nil => simp [HaveForms]
  | cons f folders ih =>
    simp only [HaveForms, ih]
    constructor
    · rintro ⟨first, others, rfl, hfirst, hothers⟩
      exact .cons hfirst hothers
    · rintro (_ | ⟨hfirst, hothers⟩)
      exact ⟨_, _, rfl, hfirst, hothers⟩

theorem checkList_eq_ok_iff {folders : List Folder} {j : Json}
    (h : ∀ f ∈ folders, ∀ j, check j = .ok f ↔ f.HasForm false j) :
    checkList j = .ok folders ↔ ∃ items, j = .array items ∧ HaveForms false folders items := by
  cases j with
  | array items =>
    simp only [checkList, checkFrom_eq, checkItems_eq_ok_iff, Json.array.injEq, exists_eq_left',
      haveForms_iff]
    constructor
    · intro hitems
      exact ((List.forall₂_and_left _ _).2 ⟨h, hitems⟩).imp fun f j hf => (hf.1 j).1 hf.2
    · intro hitems
      exact ((List.forall₂_and_left _ _).2 ⟨h, hitems⟩).imp fun f j hf => (hf.1 j).2 hf.2
  | _ => simp [checkList, refuse]

theorem check_eq_ok_iff {f : Folder} {j : Json} : check j = .ok f ↔ f.HasForm false j := by
  induction f generalizing j with
  | mk name files folders ih =>
    cases j with
    | object fields =>
      simp [check, HasForm, checkSubfolders_eq, checkList_eq_ok_iff fun f hf j => ih f hf]
    | _ => simp [check, HasForm, refuse]

theorem hasForm_toJson (full : Bool) (f : Folder) : f.HasForm full f.toJson := by
  induction f with
  | mk name files folders ih =>
    have hfolders : HaveForms full folders (listToJson folders) := by
      induction folders with
      | nil => rfl
      | cons f folders ihFolders =>
        rw [List.forall_mem_cons] at ih
        exact ⟨_, _, rfl, ih.1, ihFolders ih.2⟩
    exact ⟨_, rfl, by simp [Has, HasUnless, field?_cons, hfolders, textsToJson]⟩

end Folder

/-! ## There and back -/

/-- Values survive being written and read. What is written has all fields and is read back as the
same value; what is accepted is any form of the value, and the value can be written and read
again. -/
structure Survives {α : Type} (toJson : α → Json) (check : Json → Checked α)
    (HasForm : Bool → α → Json → Prop) : Prop where
  full : ∀ a, HasForm true a (toJson a)
  read : ∀ a, check (toJson a) = .ok a
  accepted : ∀ j a, check j = .ok a ↔ HasForm false a j
  again : ∀ j a, check j = .ok a → check (toJson a) = .ok a

theorem Survives.of_forms {α : Type} {toJson : α → Json} {check : Json → Checked α}
    {HasForm : Bool → α → Json → Prop} (hform : ∀ full a, HasForm full a (toJson a))
    (hcheck : ∀ j a, check j = .ok a ↔ HasForm false a j) : Survives toJson check HasForm :=
  ⟨hform true, fun a => (hcheck _ _).2 (hform false a), hcheck,
    fun _ a _ => (hcheck _ _).2 (hform false a)⟩

/-- Folders and outlines survive being written as JSON and read back, in their full form and in any
other that is accepted. -/
theorem forms_survive_reading :
    Survives Folder.toJson Folder.check Folder.HasForm ∧
    Survives SourceOutline.toJson SourceOutline.check SourceOutline.HasForm :=
  ⟨.of_forms Folder.hasForm_toJson fun _ _ => Folder.check_eq_ok_iff,
    .of_forms SourceOutline.hasForm_toJson fun _ _ => SourceOutline.check_eq_ok_iff⟩

end Outline
