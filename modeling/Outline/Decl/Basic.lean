set_option autoImplicit false

/-!
# Declarations

What the outline of a source file shows: its types in order and, for each type, its constructors,
methods, fields and properties. All texts are as written in the source.
-/
namespace Outline

structure Signature where
  modifiers : List String
  name : String
  summary : Option String
  parameters : List String
deriving Repr, DecidableEq

/-- A member of a type. One field declaration may bind several names. -/
inductive Member where
  | constructor (signature : Signature)
  | method (signature : Signature) (returnType : String)
  | field (modifiers : List String) (type : String) (names : List String)
      (summary : Option String)
  | property (modifiers : List String) (type : String) (name : String) (summary : Option String)
deriving Repr, DecidableEq

structure TypeDecl where
  kind : String
  modifiers : List String
  name : String
  summary : Option String
  members : List Member
deriving Repr, DecidableEq

/-- The types of one source file, an enclosing type before the types in it. -/
structure SourceOutline where
  types : List TypeDecl
deriving Repr, DecidableEq

end Outline
