import Outline.Source.Piece
import Outline.SyntaxTree.Basic

set_option autoImplicit false

/-!
# Heads of declarations

The parts that declarations begin with: attribute lists, modifiers, types, names and parameters.
Pieces are looked at without the comments and directives between them; a part that has been
recognised is described by the offset where it stops and the pieces behind it.
-/
namespace Outline.Source

/-- The pieces that are no comments and no single directives. -/
def significant (pieces : List Piece) : List Piece := pieces.filter (!·.isTrivia)

def nodeOf (kind : String) (role : Option String) (p : Piece) : Node :=
  .mk kind role p.start p.stop false []

def nameNode (t : Token) : Node := .mk "identifier" (some "name") t.start t.stop false []

def leafNode (t : Token) : Node :=
  let kind := match t.kind with
    | .comment => "comment"
    | .directive => "preproc_" ++ String.ofList (t.text.toList.drop 1)
    | _ => t.text
  .mk kind none t.start t.stop false []

mutual

/-- Whether a piece holds nothing but attribute lists, comments and directives. -/
def Piece.holdsAttributes : Piece → Bool
  | .leaf token => token.kind = .comment || token.kind = .directive
  | .group opener inner _ =>
    opener.text == "[" || (opener.kind = .directive && holdAttributes inner)

/-- Whether all pieces hold nothing but attribute lists, comments and directives. -/
def holdAttributes : List Piece → Bool
  | [] => true
  | p :: rest => p.holdsAttributes && holdAttributes rest

end

/-- Whether a piece consists of attribute lists, possibly in a conditional region. -/
def Piece.isAttributes (p : Piece) : Bool :=
  p.opens "[" || (p.isRegion && p.inner.any (·.opens "[") && p.holdsAttributes)

def Piece.isGlobalAttributes (p : Piece) : Bool :=
  p.opens "[" && match significant p.inner with
    | target :: colon :: _ =>
      (target.isWord "assembly" || target.isWord "module") && colon.isSymbol ":"
    | _ => false

def Piece.isLeading (p : Piece) : Bool := p.isTrivia || p.isAttributes

def leadingNode (p : Piece) : Node :=
  match p with
  | .leaf token => leafNode token
  | .group .. => nodeOf (if p.isRegion then "preproc_if" else "attribute_list") none p

def reservedModifiers : List String :=
  ["abstract", "const", "extern", "fixed", "internal", "new", "override", "private", "protected",
    "public", "readonly", "sealed", "static", "unsafe", "virtual", "volatile"]

/-- The words that are modifiers in front of a declaration and names elsewhere. -/
def contextualModifiers : List String := ["async", "file", "partial", "required"]

/-- Whether what follows a word makes it a modifier rather than a type or a name. -/
def followsModifier : List Piece → Bool
  | next :: after :: _ =>
    let ends := after.isSymbol ";" || after.isSymbol "=>" || after.opens "\x7b"
    if next.opens "(" then !ends && !after.isSymbol ":"
    else next.word?.isSome && !ends && !after.isSymbol "=" && !after.isSymbol ","
  | _ => false

def isModifier (p : Piece) (rest : List Piece) : Bool :=
  p.word?.any fun t =>
    reservedModifiers.contains t.text ||
      (contextualModifiers.contains t.text && followsModifier rest)

def splitModifiers : List Piece → List Piece × List Piece
  | [] => ([], [])
  | p :: rest =>
    if isModifier p rest then
      let (modifiers, after) := splitModifiers rest
      (p :: modifiers, after)
    else ([], p :: rest)

def afterAngles : Nat → List Piece → Option (Nat × List Piece)
  | _, [] => none
  | depth, p :: rest =>
    if p.isSymbol "<" then afterAngles (depth + 1) rest
    else if p.isSymbol ">" then
      if depth ≤ 1 then some (p.stop, rest) else afterAngles (depth - 1) rest
    else if p.isSymbol ";" || p.isSymbol "=" || p.isSymbol "=>" || p.opens "\x7b" then none
    else afterAngles depth rest

structure Name where
  /-- The last word of the name. -/
  last : Token
  stop : Nat
  rest : List Piece

/-- Reads a name. The fuel bounds the number of its words. -/
def name? : Nat → List Piece → Option Name
  | 0, _ => none
  | _, [] => none
  | fuel + 1, p :: rest => do
    let word ← p.word?
    let (stop, rest) := match rest with
      | q :: more =>
        if q.isSymbol "<" then (afterAngles 1 more).getD (word.stop, rest) else (word.stop, rest)
      | [] => (word.stop, rest)
    match rest with
    | q :: more =>
      if q.isSymbol "." || q.isSymbol "::" then name? fuel more else some ⟨word, stop, rest⟩
    | [] => some ⟨word, stop, rest⟩

/-- What follows the marks for nullable types, pointers and arrays behind a type. -/
def afterSuffixes : Nat → List Piece → Nat × List Piece
  | stop, [] => (stop, [])
  | stop, p :: rest =>
    if p.isSymbol "?" || p.isSymbol "*" || p.opens "[" then afterSuffixes p.stop rest
    else (stop, p :: rest)

def afterPointer (pieces : List Piece) : Option (Nat × List Piece) :=
  match pieces with
  | star :: rest =>
    if star.isSymbol "*" then
      match rest.dropWhile fun p => p.word?.isSome || p.opens "[" with
      | angle :: more => if angle.isSymbol "<" then afterAngles 1 more else none
      | [] => none
    else none
  | [] => none

def afterType (pieces : List Piece) : Option (Nat × List Piece) :=
  let core : List Piece := match pieces with
    | p :: rest =>
      if p.isWord "ref" then rest.dropWhile (·.isWord "readonly") else pieces
    | [] => pieces
  match core with
  | [] => none
  | p :: rest =>
    if p.opens "(" then some (afterSuffixes p.stop rest)
    else if p.isWord "delegate" then
      (afterPointer rest).map fun (stop, rest) => afterSuffixes stop rest
    else (name? core.length core).map fun n => afterSuffixes n.stop n.rest

/-- The number of pieces up to the end of type arguments, given the number of angle brackets open
and whether a type has to follow; nothing if these are no type arguments. -/
def typeArguments? : Nat → Bool → List Piece → Option Nat
  | _, _, [] => none
  | depth, expectsType, p :: rest =>
    let count (depth : Nat) (expectsType : Bool) : Option Nat :=
      (typeArguments? depth expectsType rest).map (· + 1)
    if expectsType then
      if p.isWord "ref" || p.isWord "readonly" || p.isWord "in" || p.isWord "out" then
        count depth true
      else if p.word?.isSome || p.opens "(" then count depth false
      else none
    else if p.isSymbol "," || p.isSymbol "." || p.isSymbol "::" then count depth true
    else if p.isSymbol "<" then count (depth + 1) true
    else if p.isSymbol ">" then if depth ≤ 1 then some 1 else count (depth - 1) false
    else if p.isSymbol "?" || p.isSymbol "*" || p.opens "[" then count depth false
    else none

/-- Pieces between two commas, and the comma behind them. -/
structure Item where
  content : List Piece
  comma : Option Piece

/-- Cuts at commas outside type arguments, of which a number of pieces may be left. -/
def cutAtCommas : Nat → List Piece → List Item
  | _, [] => [⟨[], none⟩]
  | skip, p :: rest =>
    let keep (skip : Nat) : List Item :=
      match cutAtCommas skip rest with
      | item :: items => { item with content := p :: item.content } :: items
      | [] => [⟨[p], none⟩]
    match skip with
    | skip + 1 => keep skip
    | 0 =>
      if p.isSymbol "," then ⟨[], some p⟩ :: cutAtCommas 0 rest
      else if p.isSymbol "<" then keep ((typeArguments? 1 true rest).getD 0)
      else keep 0

def parameterNodes (item : Item) : List Node :=
  (match item.content with
    | [] => []
    | p :: rest => [.mk "parameter" none p.start ((rest.getLastD p).stop) false []]) ++
  (item.comma.map (nodeOf "," none)).toList

def parameterList (p : Piece) : Node :=
  .mk "parameter_list" (some "parameters") p.start p.stop false
    ((cutAtCommas 0 (p.inner.filter (!·.isComment))).flatMap parameterNodes)

def declarator? (item : Item) : Option Node :=
  match item.content with
  | [] => none
  | p :: rest => p.word?.map fun name =>
    .mk "variable_declarator" none p.start ((rest.getLastD p).stop) false [nameNode name]

end Outline.Source
