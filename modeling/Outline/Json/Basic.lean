import Outline.Text.Quoted

set_option autoImplicit false

/-!
# JSON values

Integers keep their exact value. Numbers with a fraction or an exponent, and the three special
numbers, keep the text they were written with. An object lists each key once, in the order in which
the keys first appeared.
-/
namespace Outline

inductive Json where
  | null
  | bool (value : Bool)
  | int (value : Int)
  | float (literal : String)
  | string (value : String)
  | array (items : List Json)
  | object (fields : List (String × Json))
deriving Repr, Inhabited

namespace Json

def field? (fields : List (String × Json)) (key : String) : Option Json :=
  (fields.find? (·.1 == key)).map (·.2)

/-- Adds a field; the value of a key that is already there is replaced where it stands. -/
def setField (fields : List (String × Json)) (key : String) (value : Json) :
    List (String × Json) :=
  if fields.any (·.1 == key) then
    fields.map fun f => if f.1 == key then (key, value) else f
  else fields ++ [(key, value)]

mutual

def display : Json → String
  | null => "None"
  | bool true => "True"
  | bool false => "False"
  | int n => toString n
  | float literal => literal
  | string s => Text.quoted s
  | array items => "[" ++ ", ".intercalate (displayItems items) ++ "]"
  | object fields => "\x7b" ++ ", ".intercalate (displayFields fields) ++ "\x7d"

def displayItems : List Json → List String
  | [] => []
  | item :: rest => display item :: displayItems rest

def displayFields : List (String × Json) → List String
  | [] => []
  | (key, value) :: rest => (Text.quoted key ++ ": " ++ display value) :: displayFields rest

end

/-- A value as a message shows it on its own: a text without its quotes. -/
def displayBare : Json → String
  | string s => s
  | other => display other

end Json

end Outline
