import Outline.Text.Blank

set_option autoImplicit false

/-!
# Summaries of documentation comments

A run of comments documents a declaration. The lines of its documentation comments are put
together, and the summary is the text of the first `summary` element in them, as written.
-/
namespace Outline.Doc

def startsWith (mark : String) (chars : List Char) : Bool := mark.toList.isPrefixOf chars

def endsWith (mark : String) (chars : List Char) : Bool := mark.toList.isSuffixOf chars

/-- A line of a block comment without the star in front, unless that star closes a comment. -/
def dropStar (line : List Char) : List Char :=
  match line.dropWhile Text.isBlank with
  | '*' :: '/' :: _ => line
  | '*' :: rest => rest
  | _ => line

def blockBody (comment : List Char) : List Char :=
  if endsWith "*/" comment then (comment.drop 3).take (comment.length - 5) else comment.drop 3

/-- The documentation lines of one comment; a comment of another form has none. -/
def docLines (comment : List Char) : List (List Char) :=
  if startsWith "///" comment && !startsWith "////" comment then [comment.drop 3]
  else if startsWith "/**" comment && comment != "/**/".toList then
    (Text.splitLines (blockBody comment)).map dropStar
  else []

def afterOpening? (chars : List Char) : Option (List Char) :=
  if startsWith "<summary" chars then
    match chars.drop 8 with
    | '>' :: rest => some rest
    | c :: rest =>
      if Text.isBlank c then
        match rest.dropWhile (· != '>') with
        | _ :: inner => some inner
        | [] => none
      else none
    | [] => none
  else none

def closes (chars : List Char) : Bool :=
  startsWith "</summary" chars &&
    ((chars.drop 9).dropWhile Text.isBlank).head? == some '>'

/-- The text before the first closing tag, on a reversed accumulator. -/
def untilClosing? : List Char → List Char → Option (List Char)
  | _, [] => none
  | text, c :: rest =>
    if closes (c :: rest) then some text.reverse else untilClosing? (c :: text) rest

def findElement? : List Char → Option (List Char)
  | [] => none
  | c :: rest =>
    match (afterOpening? (c :: rest)).bind (untilClosing? []) with
    | some text => some text
    | none => findElement? rest

def documentation (comments : List String) : List Char :=
  ['\n'].intercalate (comments.flatMap fun c => docLines c.toList)

def summary? (comments : List String) : Option String :=
  (findElement? (documentation comments)).map String.ofList

end Outline.Doc
