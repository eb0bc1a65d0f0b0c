import Outline.Source.Head
import Outline.SyntaxTree.Declarations

set_option autoImplicit false

/-!
# The syntax tree of a source

The tree has a node for every namespace, type and member, with the parts of each that an outline
shows; bodies of methods and values of variables are not looked into. Comments and directives
outside declarations are nodes between them, and a conditional region is a node around its
declarations. A piece that begins no declaration is marked as an error, and reading goes on behind
it; in a bracket that is never closed it goes on inside.
-/
namespace Outline.Source

/-- Where a declaration stands: among the members of a type, or outside of types, where also
namespaces and statements may stand. -/
inductive Scope where
  | unit
  | members
deriving Repr, DecidableEq

/-- The front of a declaration: where it starts, the nodes of its attribute lists and modifiers, and
the significant pieces behind them. -/
structure Front where
  start : Nat
  nodes : List Node
  rest : List Piece

namespace Front

def node (f : Front) (kind : String) (stop : Nat) (parts : List Node) : Node :=
  .mk kind none f.start stop (parts.any (·.flawed)) (f.nodes ++ parts)

def ofPieces (pieces : List Piece) : Front :=
  let leading := pieces.takeWhile (·.isLeading)
  let (modifiers, rest) := splitModifiers (significant (pieces.drop leading.length))
  ⟨(pieces.head?.map (·.start)).getD 0,
    leading.map leadingNode ++ modifiers.map (nodeOf "modifier" none), rest⟩

end Front

/-- The offset where a declaration ends: with a semicolon or a block, behind an arrow or an equals
sign only with a semicolon. -/
def bodyEnd : Bool → List Piece → Option Nat
  | _, [] => none
  | valued, p :: rest =>
    if p.isSymbol ";" then some p.stop
    else if p.isBlock && !valued then some p.stop
    else bodyEnd (valued || p.isSymbol "=>" || p.isSymbol "=") rest

/-- The offset where a property ends, which may have a value behind its accessors. -/
def propertyEnd : List Piece → Option Nat
  | p :: rest =>
    if p.isBlock then
      match rest with
      | q :: more => if q.isSymbol "=" then bodyEnd true more else some p.stop
      | [] => some p.stop
    else bodyEnd false (p :: rest)
  | [] => none

/-- The offset where an operator ends; its sign may be an equals sign. -/
def operatorEnd (rest : List Piece) : Option Nat := bodyEnd false (rest.dropWhile (!·.opens "("))

def callable? (f : Front) (kind : String) (before : List Node) (name : Token)
    (rest : List Piece) : Option Node := do
  let parameters ← rest.head?
  let stop ← bodyEnd false rest
  pure (f.node kind stop (before ++ [nameNode name, parameterList parameters]))

def field? (f : Front) (type : Node) (rest : List Piece) : Option Node := do
  let stop ← bodyEnd true rest
  let items := cutAtCommas 0 (rest.takeWhile (!·.isSymbol ";"))
  pure (f.node "field_declaration" stop
    [.mk "variable_declaration" none type.start stop false (type :: items.filterMap declarator?)])

def typedMember? (f : Front) (type : Node) (rest : List Piece) : Option Node := do
  let withRole (role : String) : Node := .mk type.kind (some role) type.start type.stop false []
  let name ← name? rest.length rest
  if name.last.text == "operator" then
    return f.node "operator_declaration" (← operatorEnd name.rest) []
  else match name.rest with
    | [] => none
    | p :: _ =>
      if name.last.text == "this" && p.opens "[" then
        return f.node "indexer_declaration" (← propertyEnd (name.rest.drop 1)) []
      else if p.opens "(" then
        callable? f "method_declaration" [withRole "returns"] name.last name.rest
      else if p.isBlock || p.isSymbol "=>" then
        return f.node "property_declaration" (← propertyEnd name.rest)
          [withRole "type", nameNode name.last]
      else if p.isSymbol "=" || p.isSymbol ";" || p.isSymbol "," || p.opens "[" then
        field? f (withRole "type") rest
      else none

def plainMember? (f : Front) : Option Node :=
  match f.rest with
  | [] => none
  | p :: rest => do
    let next := rest.head?
    if p.isWord "event" then return f.node "event_declaration" (← bodyEnd false rest) []
    else if p.isWord "delegate" && !next.any (·.isSymbol "*") then
      return f.node "delegate_declaration" (← bodyEnd true rest) []
    else if p.isSymbol "~" then return f.node "destructor_declaration" (← bodyEnd false rest) []
    else if p.isWord "implicit" || p.isWord "explicit" then
      return f.node "conversion_operator_declaration" (← operatorEnd rest) []
    else match p.word?, next.any (·.opens "(") with
      | some name, true => callable? f "constructor_declaration" [] name rest
      | _, _ =>
        let (stop, rest) ← afterType f.rest
        typedMember? f (.mk "type" none p.start stop false []) rest

def followsRecordName (p : Piece) : Bool :=
  p.isSymbol ";" || p.isSymbol ":" || p.isSymbol "<" || p.opens "(" || p.opens "\x7b" ||
    p.isWord "where"

/-- The keywords of a type declaration: the kind of its node, the nodes of keywords that matter, and
what follows them. -/
def typeKeyword? : List Piece → Option (String × List Node × List Piece)
  | p :: rest =>
    let next (text : String) : Bool := rest.head?.any (·.isWord text)
    if p.isWord "class" then some ("class_declaration", [], rest)
    else if p.isWord "struct" then some ("struct_declaration", [], rest)
    else if p.isWord "interface" then some ("interface_declaration", [], rest)
    else if p.isWord "enum" then some ("enum_declaration", [], rest)
    else if p.isWord "ref" then
      let (modifiers, after) := splitModifiers rest
      match after with
      | q :: more =>
        if q.isWord "struct" then
          some ("struct_declaration", modifiers.map (nodeOf "modifier" none), more)
        else none
      | [] => none
    else if p.isWord "record" then
      if next "class" then some ("record_declaration", [], rest.drop 1)
      else if next "struct" then
        some ("record_declaration", (rest.take 1).map (nodeOf "struct" none), rest.drop 1)
      else match rest with
        | name :: after :: _ =>
          if name.word?.isSome && followsRecordName after then
            some ("record_declaration", [], rest)
          else none
        | _ => none
    else none
  | [] => none

def splitAtBody : List Piece → Option (Piece × List Piece)
  | [] => none
  | p :: rest =>
    if p.isSymbol ";" || p.isBlock then some (p, rest) else splitAtBody rest

def afterOptionalSemicolon (stop : Nat) : List Piece → Nat
  | p :: _ => if p.isSymbol ";" then p.stop else stop
  | [] => stop

/-- The words that begin a statement which may end with a block. -/
def blockWords : List String := ["try", "catch", "finally", "do", "else"]

/-- The words that begin such a statement in front of a bracket. -/
def conditionWords : List String :=
  ["if", "for", "foreach", "while", "switch", "lock", "fixed", "using", "checked", "unchecked"]

/-- The words that begin such a statement in front of a block. -/
def contextWords : List String := ["unsafe", "checked", "unchecked"]

def statementEnd? : List Piece → Option Nat
  | [] => none
  | p :: rest =>
    let isOneOf (words : List String) : Bool := p.word?.any (words.contains ·.text)
    let next (test : Piece → Bool) : Bool := rest.head?.any test
    if p.isBlock || p.isSymbol ";" then some p.stop
    else if p.isWord "using" && !next (·.opens "(") ||
        p.isWord "global" && next (·.isWord "using") ||
        p.isWord "extern" && next (·.isWord "alias") then
      bodyEnd true rest
    else if isOneOf blockWords || isOneOf conditionWords && next (·.opens "(") ||
        isOneOf contextWords && next (·.opens "\x7b") ||
        p.isWord "await" && next (fun q => q.isWord "foreach" || q.isWord "using") then
      bodyEnd false rest
    else none

mutual

def nodes : Nat → Scope → List Piece → List Node
  | 0, _, _ => []
  | _, _, [] => []
  | fuel + 1, scope, p :: rest =>
    match p with
    | .leaf token =>
      if p.isTrivia then leafNode token :: nodes fuel scope rest
      else declared fuel scope p rest
    | .group opener inner closer =>
      if p.isRegion && !p.isAttributes then
        let inside := nodes fuel scope inner
        .mk (leafNode opener).kind none p.start p.stop (inside.any (·.flawed))
          (.mk opener.text none opener.start opener.stop false [] ::
            (inside ++ (closer.map fun t => .mk t.text none t.start t.stop false []).toList)) ::
          nodes fuel scope rest
      else declared fuel scope p rest

/-- The node of the declaration that begins with a piece, and the nodes behind it. -/
def declared : Nat → Scope → Piece → List Piece → List Node
  | 0, _, _, _ => []
  | fuel + 1, scope, p, rest =>
    match declaration? fuel scope (p :: rest) with
    | some node => node :: nodes fuel scope (rest.dropWhile (·.start < node.stop))
    | none =>
      let inside := if p.isUnclosed then nodes fuel scope p.inner else []
      .mk "ERROR" none p.start p.stop true inside :: nodes fuel scope rest

def declaration? : Nat → Scope → List Piece → Option Node
  | 0, _, _ => none
  | fuel + 1, scope, pieces =>
    let front := Front.ofPieces pieces
    match scope, pieces with
    | .unit, p :: _ =>
      if p.isGlobalAttributes then some (nodeOf "global_attribute" none p)
      else if p.isWord "namespace" then namespace? fuel front
      else match statementEnd? (significant pieces) with
        | some stop => some (.mk "global_statement" none p.start stop false [])
        | none =>
          ((type? fuel front).or (plainMember? front)).or
            ((bodyEnd true front.rest).map fun stop =>
              .mk "global_statement" none p.start stop false [])
    | _, _ => (type? fuel front).or (plainMember? front)

def namespace? : Nat → Front → Option Node
  | 0, _ => none
  | fuel + 1, f => do
    let (body, _) ← splitAtBody f.rest
    match body with
    | .leaf token => pure (f.node "file_scoped_namespace_declaration" token.stop [])
    | .group .. =>
      pure (f.node "namespace_declaration" body.stop [block fuel .unit "declaration_list" body])

def type? : Nat → Front → Option Node
  | 0, _ => none
  | fuel + 1, f => do
    let (kind, keywords, rest) ← typeKeyword? f.rest
    let name ← rest.head? >>= Piece.word?
    let (body, after) ← splitAtBody rest
    let front := keywords ++ [nameNode name]
    match body with
    | .leaf token => pure (f.node kind token.stop front)
    | .group .. =>
      let list :=
        if kind == "enum_declaration" then
          nodeOf "enum_member_declaration_list" (some "body") body
        else block fuel .members "declaration_list" body
      pure (f.node kind (afterOptionalSemicolon body.stop after) (front ++ [list]))

def block : Nat → Scope → String → Piece → Node
  | 0, _, kind, p => nodeOf kind (some "body") p
  | fuel + 1, scope, kind, p =>
    let inside := nodes fuel scope p.inner
    let closer := match p with
      | .group _ _ (some token) => [leafNode token]
      | _ => []
    .mk kind (some "body") p.start p.stop (inside.any (·.flawed))
      (leafNode p.first :: (inside ++ closer))

end

def tree (source : String) : Node :=
  let chars := source.toList
  let tokens := tokens chars
  let pieces := pieces tokens
  let inside := nodes (8 * tokens.length + 8) .unit pieces
  .mk "compilation_unit" none 0 (byteSize chars) (!areSound pieces || inside.any (·.flawed)) inside

end Outline.Source

namespace Outline

def SourceOutline.ofSource (source : String) : SourceOutline := .ofTree source (Source.tree source)

end Outline
