import Outline.Json.Basic

set_option autoImplicit false

/-!
# Checking JSON against a shape

A check turns a JSON value into a typed one or lists every place where it does not fit, in the
order of the fields and items. Keys that a shape does not name are ignored.
-/
namespace Outline.Json

inductive Step where
  | key (name : String)
  | index (position : Nat)
deriving Repr, DecidableEq

inductive Fault where
  | missing
  | notText
  | notList
  | notTuple
  | notModel (model : String)
  | notFields
  | noTag (discriminator : String)
  | unknownTag (discriminator : String) (tag : String) (expected : List String)
  | notBool
  | unclearBool
deriving Repr, DecidableEq

namespace Fault

def code : Fault → String
  | missing => "missing"
  | notText => "string_type"
  | notList => "list_type"
  | notTuple => "tuple_type"
  | notModel _ => "model_type"
  | notFields => "model_attributes_type"
  | noTag _ => "union_tag_not_found"
  | unknownTag .. => "union_tag_invalid"
  | notBool => "bool_type"
  | unclearBool => "bool_parsing"

def message : Fault → String
  | missing => "Field required"
  | notText => "Input should be a valid string"
  | notList => "Input should be a valid list"
  | notTuple => "Input should be a valid tuple"
  | notModel model => "Input should be a valid dictionary or instance of " ++ model
  | notFields => "Input should be a valid dictionary or object to extract fields from"
  | noTag discriminator => "Unable to extract tag using discriminator '" ++ discriminator ++ "'"
  | unknownTag discriminator tag expected =>
    "Input tag '" ++ tag ++ "' found using '" ++ discriminator ++
      "' does not match any of the expected tags: " ++
      ", ".intercalate (expected.map fun t => "'" ++ t ++ "'")
  | notBool => "Input should be a valid boolean"
  | unclearBool => "Input should be a valid boolean, unable to interpret input"

end Fault

/-- A fault, the way to its place and the value found there. -/
structure Issue where
  fault : Fault
  path : List Step
  input : Json
deriving Repr

/-- A typed value or the issues, at least one of them. -/
abbrev Checked (α : Type) := Except (List Issue) α

def within {α : Type} (step : Step) : Checked α → Checked α
  | .ok a => .ok a
  | .error issues => .error (issues.map fun i => { i with path := step :: i.path })

def refuse {α : Type} (fault : Fault) (input : Json) : Checked α := .error [⟨fault, [], input⟩]

/-- Applies a checked function to a checked value; the issues of both are kept, in this order. -/
def both {α β : Type} : Checked (α → β) → Checked α → Checked β
  | .ok f, .ok a => .ok (f a)
  | .ok _, .error issues => .error issues
  | .error issues, .ok _ => .error issues
  | .error first, .error second => .error (first ++ second)

def checkText : Json → Checked String
  | .string s => .ok s
  | other => refuse .notText other

def checkOptionalText : Json → Checked (Option String)
  | .null => .ok none
  | .string s => .ok (some s)
  | other => refuse .notText other

def checkItems {α : Type} (check : Json → Checked α) : Nat → List Json → Checked (List α)
  | _, [] => .ok []
  | position, item :: rest =>
    both (both (.ok List.cons) (within (.index position) (check item)))
      (checkItems check (position + 1) rest)

/-- A list of texts, called a tuple or a list in the message. -/
def checkTexts (fault : Fault) : Json → Checked (List String)
  | .array items => checkItems checkText 0 items
  | other => refuse fault other

def requiredField {α : Type} (fields : List (String × Json)) (name : String)
    (check : Json → Checked α) : Checked α :=
  match field? fields name with
  | some value => within (.key name) (check value)
  | none => within (.key name) (refuse .missing (.object fields))

def optionalField {α : Type} (fields : List (String × Json)) (name : String) (absent : α)
    (check : Json → Checked α) : Checked α :=
  match field? fields name with
  | some value => within (.key name) (check value)
  | none => .ok absent

end Outline.Json
