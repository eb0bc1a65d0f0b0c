import Outline.SyntaxTree.Basic
import Outline.Text.Utf8
import Outline.Doc.Summary
import Outline.Decl.Basic

set_option autoImplicit false

/-!
# The declarations of a syntax tree

The types are found anywhere in the tree, an enclosing type before the types in it; the members of
a type are direct children of its body. Texts are cut out of the bytes of the source.
-/
namespace Outline

namespace SyntaxTree

abbrev Source := List UInt8

def nodeText (source : Source) : Option Node → String
  | some n => Text.Utf8.slice source n.start n.stop
  | none => ""

def typeKinds : List (String × String) :=
  [("class_declaration", "class"), ("struct_declaration", "struct"),
    ("interface_declaration", "interface"), ("enum_declaration", "enum"),
    ("record_declaration", "record"), ("record_struct_declaration", "recordstruct")]

def isType (n : Node) : Bool := typeKinds.any (·.1 == n.kind)

/-- The kind of a type; a record that is marked as a struct is one of its own. -/
def typeKind (n : Node) : String :=
  if n.kind == "record_declaration" && n.children.any (·.kind == "struct") then "recordstruct"
  else (typeKinds.lookup n.kind).getD ""

def modifiers (source : Source) (n : Node) : List String :=
  (n.children.filter (·.kind == "modifier")).map fun m => nodeText source (some m)

/-- The comments in front of the first child that is neither a comment nor an attribute list. -/
def innerComments (n : Node) : List Node :=
  (n.children.takeWhile fun c => c.isComment || c.kind == "attribute_list").filter Node.isComment

/-- The comments that belong to a declaration: the unbroken run before it, then those inside it
ahead of its first token. -/
def leadingComments (source : Source) (p : Placed) : List String :=
  ((p.before.takeWhile Node.isComment).reverse ++ innerComments p.node).map fun c =>
    nodeText source (some c)

def summary? (source : Source) (p : Placed) : Option String :=
  Doc.summary? (leadingComments source p)

def breaksLine (c : Char) : Bool := c == '\n' || c == '\r'

/-- Replaces each line break, with the spaces and tabs before it and the blanks after it, by one
space. The result and the spaces and tabs that may still belong to a break are reversed; the flag
tells whether a break is under way. -/
def foldBreaksFrom : List Char → List Char → Bool → List Char → List Char
  | result, held, _, [] => (held ++ result).reverse
  | result, held, inBreak, c :: rest =>
    if inBreak && Text.isBlank c then foldBreaksFrom result [] true rest
    else if breaksLine c then foldBreaksFrom (' ' :: result) [] true rest
    else if c == ' ' || c == '\t' then foldBreaksFrom result (c :: held) false rest
    else foldBreaksFrom (c :: held ++ result) [] false rest

def foldBreaks (text : String) : String := String.ofList (foldBreaksFrom [] [] false text.toList)

/-- The children of a parameter list in groups between commas, brackets and comments left out. -/
def parameterGroups : List Node → List (List Node)
  | [] => [[]]
  | n :: rest =>
    let groups := parameterGroups rest
    if n.kind == "," then [] :: groups
    else if n.kind == "(" || n.kind == ")" || n.isComment then groups
    else match groups with
      | group :: others => (n :: group) :: others
      | [] => [[n]]

def groupText? (source : Source) : List Node → Option String
  | [] => none
  | first :: rest =>
    some (foldBreaks (Text.Utf8.slice source first.start ((rest.getLastD first).stop)))

def parameters (source : Source) (n : Node) : List String :=
  match n.childFor? "parameters" "parameter_list" with
  | some list => (parameterGroups list.children).filterMap (groupText? source)
  | none => []

def signature (source : Source) (p : Placed) : Signature where
  modifiers := modifiers source p.node
  name := nodeText source (p.node.childInRole? "name")
  summary := summary? source p
  parameters := parameters source p.node

def boundNames (source : Source) (declaration : Node) : List String :=
  (declaration.children.filter (·.kind == "variable_declarator")).map fun d =>
    nodeText source (d.childFor? "name" "identifier")

def member? (source : Source) (p : Placed) : Option Member :=
  let n := p.node
  if n.kind == "constructor_declaration" then some (.constructor (signature source p))
  else if n.kind == "method_declaration" then
    some (.method (signature source p)
      (nodeText source ((n.childInRole? "returns").or (n.childInRole? "type"))))
  else if n.kind == "field_declaration" then
    (n.childFor? "declaration" "variable_declaration").map fun declaration =>
      .field (modifiers source n) (nodeText source (declaration.childInRole? "type"))
        (boundNames source declaration) (summary? source p)
  else if n.kind == "property_declaration" then
    some (.property (modifiers source n) (nodeText source (n.childInRole? "type"))
      (nodeText source (n.childInRole? "name")) (summary? source p))
  else none

def members (source : Source) (n : Node) : List Member :=
  match n.childFor? "body" "declaration_list" with
  | some body => (Placed.root body).children.filterMap (member? source)
  | none => []

def typeDecl (source : Source) (p : Placed) : TypeDecl where
  kind := typeKind p.node
  modifiers := modifiers source p.node
  name := nodeText source (p.node.childInRole? "name")
  summary := summary? source p
  members := members source p.node

def typeNodes (tree : Node) : List Placed := (Placed.visit [.root tree]).filter (isType ·.node)

end SyntaxTree

def SourceOutline.ofTree (source : String) (tree : Node) : SourceOutline :=
  let bytes := Text.Utf8.encode source.toList
  ⟨(SyntaxTree.typeNodes tree).map (SyntaxTree.typeDecl bytes)⟩

end Outline
