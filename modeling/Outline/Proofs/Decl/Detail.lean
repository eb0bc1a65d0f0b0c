import Outline.Decl.Listing

set_option autoImplicit false

/-!
# The two forms of a listing

Fields and properties are all that the two forms differ in. Without them, the detailed listing is
the structural one; with them, their entries are inserted into the structural listing at the places
where they are declared, and nothing else changes.
-/
namespace Outline

/-- Constructors and methods, which both forms show. -/
def Member.isSignature : Member → Bool
  | constructor _ | method .. => true
  | field .. | property .. => false

def TypeDecl.withoutData (t : TypeDecl) : TypeDecl :=
  { t with members := t.members.filter Member.isSignature }

def SourceOutline.withoutData (o : SourceOutline) : SourceOutline :=
  ⟨o.types.map TypeDecl.withoutData⟩

namespace Listing

def fieldEntry (modifiers : List String) (type name : String) : String :=
  indent ++ join (modifiers ++ [type, name ++ ";"])

def propertyEntry (modifiers : List String) (type name : String) (summary : Option String) :
    String :=
  indent ++ annotate (join (modifiers ++ [type, name, accessors])) summary

/-- How two lists of entries for the same members differ: at each field, the second one has an entry
for each of its names, and at each property a single entry; all else is the same in both. -/
inductive MembersFilledIn : List Member → List String → List String → Prop
  | nil : MembersFilledIn [] [] []
  | signature {m : Member} {members : List Member} {short long : List String} (entry : String)
      (hm : m.isSignature) (h : MembersFilledIn members short long) :
      MembersFilledIn (m :: members) (entry :: short) (entry :: long)
  | field {modifiers names : List String} {type : String} {summary : Option String}
      {members : List Member} {short long : List String} (h : MembersFilledIn members short long) :
      MembersFilledIn (.field modifiers type names summary :: members) short
        (names.map (fieldEntry modifiers type) ++ long)
  | property {modifiers : List String} {type name : String} {summary : Option String}
      {members : List Member} {short long : List String} (h : MembersFilledIn members short long) :
      MembersFilledIn (.property modifiers type name summary :: members) short
        (propertyEntry modifiers type name summary :: long)

/-- The same for types: each has one entry in both lists, with those of its members behind it. -/
inductive FilledIn : List TypeDecl → List String → List String → Prop
  | nil : FilledIn [] [] []
  | type {t : TypeDecl} {types : List TypeDecl} {short long shortRest longRest : List String}
      (hmembers : MembersFilledIn t.members short long)
      (htypes : FilledIn types shortRest longRest) :
      FilledIn (t :: types) (header t :: short ++ shortRest) (header t :: long ++ longRest)

theorem exists_entry_of_isSignature {m : Member} (h : m.isSignature) :
    ∃ entry, ∀ detail, memberEntries detail m = [entry] := by
  cases m with
  | constructor s => exact ⟨signature s "", fun _ => rfl⟩
  | method s returnType => exact ⟨signature s returnType, fun _ => rfl⟩
  | field => cases h
  | property => cases h

theorem memberEntries_structural {m : Member} (h : m.isSignature = false) :
    memberEntries .structural m = [] := by
  cases m with
  | constructor => cases h
  | method => cases h
  | field => rfl
  | property => rfl

/-- The entries below the header of a type. -/
def bodyEntries (detail : Detail) (members : List Member) : List String :=
  members.flatMap fun m => (memberEntries detail m).map (indent ++ ·)

theorem bodyEntries_cons (detail : Detail) (m : Member) (members : List Member) :
    bodyEntries detail (m :: members) =
      (memberEntries detail m).map (indent ++ ·) ++ bodyEntries detail members := rfl

theorem typeEntries_eq (detail : Detail) (t : TypeDecl) :
    typeEntries detail t = header t :: bodyEntries detail t.members := rfl

theorem bodyEntries_filter (members : List Member) :
    bodyEntries .detailed (members.filter Member.isSignature) =
      bodyEntries .structural members := by
  induction members with
  | nil => rfl
  | cons m members ih =>
    cases hm : m.isSignature with
    | true =>
      obtain ⟨entry, hentry⟩ := exists_entry_of_isSignature hm
      rw [List.filter_cons_of_pos hm, bodyEntries_cons, bodyEntries_cons, hentry, hentry, ih]
    | false =>
      rw [List.filter_cons_of_neg (by simp [hm]), bodyEntries_cons, memberEntries_structural hm, ih]
      rfl

theorem entries_withoutData (o : SourceOutline) :
    entries .detailed o.withoutData = entries .structural o := by
  have htype : (fun t : TypeDecl => typeEntries .detailed t.withoutData) =
      typeEntries .structural := by
    funext t
    rw [typeEntries_eq, typeEntries_eq, TypeDecl.withoutData, bodyEntries_filter]
    rfl
  rw [entries, entries, SourceOutline.withoutData, List.flatMap_map, htype]

theorem membersFilledIn_bodyEntries (members : List Member) :
    MembersFilledIn members (bodyEntries .structural members) (bodyEntries .detailed members) := by
  induction members with
  | nil => exact .nil
  | cons m members ih =>
    rw [bodyEntries_cons, bodyEntries_cons]
    cases m with
    | constructor s => exact .signature _ rfl ih
    | method s returnType => exact .signature _ rfl ih
    | field modifiers type names summary =>
      rw [memberEntries_structural rfl, memberEntries, List.map_map]
      exact .field ih
    | property modifiers type name summary => exact .property ih

theorem filledIn_entries (types : List TypeDecl) :
    FilledIn types (types.flatMap (typeEntries .structural))
      (types.flatMap (typeEntries .detailed)) := by
  induction types with
  | nil => exact .nil
  | cons t types ih => exact .type (membersFilledIn_bodyEntries t.members) ih

end Listing

/-- The structural listing is the detailed listing of what is left without fields and properties.
The detailed one has the same entries and, where a field or a property stands, one more for each
name that it binds. -/
theorem SourceOutline.detail_fills_in_data (o : SourceOutline) :
    o.listing .structural = o.withoutData.listing .detailed ∧
    (∀ detail, o.listing detail = "\n".intercalate (Listing.entries detail o)) ∧
    Listing.FilledIn o.types (Listing.entries .structural o) (Listing.entries .detailed o) := by
  refine ⟨?_, fun _ => rfl, Listing.filledIn_entries o.types⟩
  rw [listing, listing, Listing.entries_withoutData]

/-- A field without a name has no entry, one with two names has two, and a type may be left with
nothing but its header. -/
example : Listing.entries .detailed
    ⟨[⟨"Class", [], "A", none, [.field [] "int" [] none,
      .property ["public"] "int" "P" (some " x "), .constructor ⟨[], "A", none, []⟩,
      .field [] "int" ["a", "b"] none]⟩, ⟨"enum", [], "E", none, []⟩]⟩ =
    ["class A", "    public int P \x7b get; set; \x7d; // x", "    A();", "    int a;",
      "    int b;", "enum E"] := by decide +kernel

end Outline
