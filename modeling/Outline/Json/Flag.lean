import Outline.Json.Check
import Outline.Json.Decimal

set_option autoImplicit false

/-!
# Truth values in other spellings

A truth value may also be given as zero or one, or as a word for no or yes. Numbers and words that
mean neither are told apart from values of which nothing of the kind is expected.
-/
namespace Outline.Json

def flagWords : List (String × Bool) :=
  [("0", false), ("off", false), ("f", false), ("false", false), ("n", false), ("no", false),
    ("1", true), ("on", true), ("t", true), ("true", true), ("y", true), ("yes", true)]

def flagOfInt? (n : Int) : Option Bool :=
  if n = 0 then some false else if n = 1 then some true else none

/-- The truth value that a word stands for, in any case of ASCII letters. -/
def flagOfWord? (word : String) : Option Bool :=
  flagWords.lookup (String.ofList (word.toList.map Char.toLower))

/-- The integer that a literal with a fraction or an exponent denotes, if it denotes one. -/
def integerOf? (literal : String) : Option Int :=
  ((Decimal.ofLiteral? literal).bind Decimal.round).bind Binary.toInt?

/-- A truth value. Only integers of 64 bits count as attempts at one. -/
def checkFlag (value : Json) : Checked Bool :=
  let orUnclear (flag : Option Bool) : Checked Bool :=
    match flag with
    | some b => .ok b
    | none => refuse .unclearBool value
  match value with
  | .bool b => .ok b
  | .string word => orUnclear (flagOfWord? word)
  | .int n =>
    if -Int.pow 2 63 ≤ n ∧ n < Int.pow 2 63 then orUnclear (flagOfInt? n)
    else refuse .notBool value
  | .float literal =>
    match integerOf? literal with
    | some n =>
      if -Int.pow 2 63 < n ∧ n < Int.pow 2 63 then orUnclear (flagOfInt? n)
      else refuse .notBool value
    | none => refuse .notBool value
  | _ => refuse .notBool value

end Outline.Json
