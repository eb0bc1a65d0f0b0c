import Outline.Source.Token

set_option autoImplicit false

/-!
# Bracketed pieces of a source

Tokens are put together by their brackets. A conditional region is a piece too: it is opened by
`#if` and closed by `#endif`, and a further branch in it runs from `#elif` or `#else` to the end of
the region. A closing bracket without an opening one stays a token, and a bracket that is never
closed ends where the brackets around it end.
-/
namespace Outline.Source

/-- A token, or an opening token with all that it encloses. -/
inductive Piece where
  | leaf (token : Token)
  | group (opener : Token) (inner : List Piece) (closer : Option Token)
deriving Repr

namespace Piece

def first : Piece → Token
  | leaf token => token
  | group opener _ _ => opener

def start (p : Piece) : Nat := p.first.start

def stop : Piece → Nat
  | leaf token => token.stop
  | group _ _ (some closer) => closer.stop
  | group opener [] none => opener.stop
  | group opener (p :: inner) none => stopOf opener.stop (p :: inner)
where
  /-- The offset where the last of some pieces ends. -/
  stopOf (otherwise : Nat) : List Piece → Nat
    | [] => otherwise
    | p :: rest => stopOf p.stop rest

def isWord (text : String) : Piece → Bool
  | leaf token => token.kind = .word && token.text == text
  | group .. => false

def isSymbol (text : String) : Piece → Bool
  | leaf token => token.kind = .symbol && token.text == text
  | group .. => false

def opens (text : String) : Piece → Bool
  | leaf _ => false
  | group opener _ _ => opener.text == text

def isRegion : Piece → Bool
  | leaf _ => false
  | group opener _ _ => opener.kind = .directive

def word? : Piece → Option Token
  | leaf token => if token.kind = .word then some token else none
  | group .. => none

def isComment : Piece → Bool
  | leaf token => token.kind = .comment
  | group .. => false

/-- Whether a piece may stand between any two tokens: a comment or a single directive. -/
def isTrivia : Piece → Bool
  | leaf token => token.kind = .comment || token.kind = .directive
  | group .. => false

def isUnclosed : Piece → Bool
  | leaf _ => false
  | group opener _ closer => opener.kind = .symbol && closer.isNone

def isBlock (p : Piece) : Bool := p.opens "\x7b" && !p.isUnclosed

def inner : Piece → List Piece
  | leaf _ => []
  | group _ inner _ => inner

end Piece

/-- A bracket that is open, with the pieces in it so far, the latest first. -/
structure Open where
  opener : Token
  inner : List Piece

namespace Open

def isRegion (o : Open) : Bool := o.opener.kind = .directive

def close (o : Open) (closer : Option Token) : Piece := .group o.opener o.inner.reverse closer

end Open

/-- The brackets that are open, the innermost first, and the pieces outside all of them, the latest
first. -/
structure Nesting where
  opened : List Open := []
  outer : List Piece := []

namespace Nesting

def add (n : Nesting) (p : Piece) : Nesting :=
  match n.opened with
  | [] => { n with outer := p :: n.outer }
  | o :: rest => { n with opened := { o with inner := p :: o.inner } :: rest }

def push (n : Nesting) (t : Token) : Nesting := { n with opened := ⟨t, []⟩ :: n.opened }

def pop (n : Nesting) (closer : Option Token) : Nesting :=
  match n.opened with
  | [] => n
  | o :: rest => add { n with opened := rest } (o.close closer)

def abandon : Nat → Nesting → Nesting
  | 0, n => n
  | count + 1, n => abandon count (n.pop none)

def brackets : List (String × String) := [("(", ")"), ("[", "]"), ("\x7b", "\x7d")]

/-- Closes the innermost bracket of a kind; without one in the same region, the token is a stray
one. -/
def closeBracket (n : Nesting) (opener : String) (t : Token) : Nesting :=
  let reach := n.opened.takeWhile fun o => !o.isRegion
  let between := (reach.takeWhile (·.opener.text != opener)).length
  if between < reach.length then (n.abandon between).pop (some t) else n.add (.leaf t)

def nextBranch (n : Nesting) (t : Token) : Nesting :=
  let between := (n.opened.takeWhile fun o => !o.isRegion).length
  if between < n.opened.length then (n.abandon between).push t else n.add (.leaf t)

def closeRegion (n : Nesting) (t : Token) : Nesting :=
  let between := (n.opened.takeWhile (·.opener.text != "#if")).length
  if between < n.opened.length then (n.abandon between).pop (some t) else n.add (.leaf t)

def step (n : Nesting) (t : Token) : Nesting :=
  match t.kind with
  | .symbol =>
    if (brackets.lookup t.text).isSome then n.push t
    else match brackets.find? (·.2 == t.text) with
      | some pair => n.closeBracket pair.1 t
      | none => n.add (.leaf t)
  | .directive =>
    if t.text == "#if" then n.push t
    else if t.text == "#elif" || t.text == "#else" then n.nextBranch t
    else if t.text == "#endif" then n.closeRegion t
    else n.add (.leaf t)
  | _ => n.add (.leaf t)

def finish (n : Nesting) : List Piece := (n.abandon n.opened.length).outer.reverse

end Nesting

def pieces (tokens : List Token) : List Piece := (tokens.foldl Nesting.step {}).finish

mutual

/-- Whether brackets and regions are closed and no closing token is left over. -/
def Piece.isSound : Piece → Bool
  | .leaf token =>
    !(token.kind = .symbol && Nesting.brackets.any (·.2 == token.text)) &&
      !(token.kind = .directive && ["#elif", "#else", "#endif"].contains token.text)
  | .group opener inner closer =>
    (closer.isSome || opener.text == "#elif" || opener.text == "#else") && areSound inner

def areSound : List Piece → Bool
  | [] => true
  | p :: rest => p.isSound && areSound rest

end

end Outline.Source
