import Outline.Decl.Basic
import Outline.Json.Check

set_option autoImplicit false

/-!
# Declarations as JSON

Every declaration has a JSON form in which all fields are present, and `SourceOutline.check` reads
such forms back. Most fields may be left out; a member is recognised by its `member_kind`.
-/
namespace Outline

open Json

def textsToJson (texts : List String) : Json := .array (texts.map .string)

def optionalToJson : Option String → Json
  | some text => .string text
  | none => .null

namespace Signature

def toFields (s : Signature) : List (String × Json) :=
  [("modifiers", textsToJson s.modifiers), ("name", .string s.name),
    ("summary", optionalToJson s.summary), ("parameters", textsToJson s.parameters)]

def check (fields : List (String × Json)) : Checked Signature :=
  both (both (both (both (.ok Signature.mk)
    (optionalField fields "modifiers" [] (checkTexts .notList)))
    (requiredField fields "name" checkText))
    (optionalField fields "summary" none checkOptionalText))
    (optionalField fields "parameters" [] (checkTexts .notList))

end Signature

namespace Member

def tags : List String := ["constructor", "method", "field", "property"]

def toJson : Member → Json
  | constructor s => .object (s.toFields ++ [("member_kind", .string "constructor")])
  | method s returnType =>
    .object (s.toFields ++
      [("member_kind", .string "method"), ("return_type", .string returnType)])
  | field modifiers type names summary =>
    .object [("member_kind", .string "field"), ("modifiers", textsToJson modifiers),
      ("type", .string type), ("names", textsToJson names), ("summary", optionalToJson summary)]
  | property modifiers type name summary =>
    .object [("member_kind", .string "property"), ("modifiers", textsToJson modifiers),
      ("type", .string type), ("name", .string name), ("summary", optionalToJson summary)]

/-- Reads the fields of a member of a known kind; an unknown kind is refused. -/
def checkAs (tag : Json) (fields : List (String × Json)) : Checked Member :=
  match tag with
  | .string "constructor" =>
    within (.key "constructor") (both (.ok constructor) (Signature.check fields))
  | .string "method" =>
    within (.key "method") (both (both (.ok method) (Signature.check fields))
      (requiredField fields "return_type" checkText))
  | .string "field" =>
    within (.key "field") (both (both (both (both (.ok field)
      (optionalField fields "modifiers" [] (checkTexts .notList)))
      (requiredField fields "type" checkText))
      (requiredField fields "names" (checkTexts .notList)))
      (optionalField fields "summary" none checkOptionalText))
  | .string "property" =>
    within (.key "property") (both (both (both (both (.ok property)
      (optionalField fields "modifiers" [] (checkTexts .notList)))
      (requiredField fields "type" checkText))
      (requiredField fields "name" checkText))
      (optionalField fields "summary" none checkOptionalText))
  | other => refuse (.unknownTag "member_kind" other.displayBare tags) (.object fields)

def check : Json → Checked Member
  | .object fields =>
    match field? fields "member_kind" with
    | some tag => checkAs tag fields
    | none => refuse (.noTag "member_kind") (.object fields)
  | other => refuse .notFields other

end Member

namespace TypeDecl

def toJson (t : TypeDecl) : Json :=
  .object [("kind", .string t.kind), ("modifiers", textsToJson t.modifiers),
    ("name", .string t.name), ("summary", optionalToJson t.summary),
    ("members", .array (t.members.map Member.toJson))]

def checkMembers : Json → Checked (List Member)
  | .array items => checkItems Member.check 0 items
  | other => refuse .notList other

def check : Json → Checked TypeDecl
  | .object fields =>
    both (both (both (both (both (.ok TypeDecl.mk)
      (requiredField fields "kind" checkText))
      (optionalField fields "modifiers" [] (checkTexts .notList)))
      (requiredField fields "name" checkText))
      (optionalField fields "summary" none checkOptionalText))
      (optionalField fields "members" [] checkMembers)
  | other => refuse (.notModel "TypeDeclaration") other

end TypeDecl

namespace SourceOutline

def toJson (o : SourceOutline) : Json :=
  .object [("types", .array (o.types.map TypeDecl.toJson))]

def checkTypes : Json → Checked (List TypeDecl)
  | .array items => checkItems TypeDecl.check 0 items
  | other => refuse .notList other

def check : Json → Checked SourceOutline
  | .object fields => both (.ok SourceOutline.mk) (optionalField fields "types" [] checkTypes)
  | other => refuse (.notModel "ParsedSource") other

end SourceOutline

end Outline
