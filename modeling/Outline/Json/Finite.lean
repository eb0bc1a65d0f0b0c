import Outline.Json.Basic
import Outline.Json.Decimal

set_option autoImplicit false

/-!
# Finite values

A value can be written down again if all its numbers are finite. The special numbers are not, and
neither is a literal that is too large for a number of binary64.
-/
namespace Outline.Json

mutual

def isFinite : Json → Bool
  | .float literal => ((Decimal.ofLiteral? literal).bind Decimal.round).isSome
  | .array items => areFinite items
  | .object fields => areFieldsFinite fields
  | _ => true

def areFinite : List Json → Bool
  | [] => true
  | item :: rest => isFinite item && areFinite rest

def areFieldsFinite : List (String × Json) → Bool
  | [] => true
  | (_, value) :: rest => isFinite value && areFieldsFinite rest

end

end Outline.Json
