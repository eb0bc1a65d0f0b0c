import Outline.Decl.Basic
import Outline.Text.Blank
import Outline.Text.Lowercase

set_option autoImplicit false

/-!
# Listings of declarations

A listing has one entry per type and, indented below it, one per member. Constructors and methods
are always listed; fields and properties only in the detailed form, a field once for each of its
names. A summary follows its declaration on the same line.
-/
namespace Outline

namespace Listing

inductive Detail where
  | structural
  | detailed
deriving Repr, DecidableEq

/-- Every maximal run of blanks as a single space; the flag tells whether a run is under way, and
the result is reversed. -/
def collapseFrom : Bool → List Char → List Char → List Char
  | _, result, [] => result.reverse
  | inRun, result, c :: rest =>
    if Text.isBlank c then
      if inRun then collapseFrom true result rest else collapseFrom true (' ' :: result) rest
    else collapseFrom false (c :: result) rest

def collapse (chars : List Char) : List Char := collapseFrom false [] chars

/-- A summary on one line, empty when there is nothing to show. -/
def normalize : Option String → String
  | none => ""
  | some text => String.ofList (Text.trimBlank (collapse text.toList))

def annotate (line : String) (summary : Option String) : String :=
  let text := normalize summary
  if text.isEmpty then line else line ++ " // " ++ text

def join (parts : List String) : String := " ".intercalate (parts.filter (!·.isEmpty))

def header (t : TypeDecl) : String :=
  annotate (join (t.modifiers ++ [Text.lower t.kind, t.name])) t.summary

def signature (s : Signature) (returnType : String) : String :=
  annotate
    (join (s.modifiers ++ [returnType, s.name ++ "(" ++ ", ".intercalate s.parameters ++ ");"]))
    s.summary

def accessors : String := "\x7b get; set; \x7d;"

def memberEntries (detail : Detail) : Member → List String
  | .constructor s => [signature s ""]
  | .method s returnType => [signature s returnType]
  | .field modifiers type names _ =>
    match detail with
    | .structural => []
    | .detailed => names.map fun name => join (modifiers ++ [type, name ++ ";"])
  | .property modifiers type name summary =>
    match detail with
    | .structural => []
    | .detailed => [annotate (join (modifiers ++ [type, name, accessors])) summary]

def indent : String := "    "

def typeEntries (detail : Detail) (t : TypeDecl) : List String :=
  header t :: t.members.flatMap fun m => (memberEntries detail m).map (indent ++ ·)

def entries (detail : Detail) (o : SourceOutline) : List String :=
  o.types.flatMap (typeEntries detail)

end Listing

def SourceOutline.listing (detail : Listing.Detail) (o : SourceOutline) : String :=
  "\n".intercalate (Listing.entries detail o)

end Outline
