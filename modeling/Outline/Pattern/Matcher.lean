import Outline.Pattern.Basic

set_option autoImplicit false

/-!
# Matching

A pattern is matched by backtracking: it tries its ways in order and hands each place it reaches to
what follows. `Pattern.matchesAll` asks for a match of a whole text. A repetition whose round
consumed nothing is not tried again.
-/
namespace Outline

/-- A place in a text, with the marks set so far: the marks `2 * i` and `2 * i + 1` are the offsets
where group `i` was last entered and left. -/
structure Place where
  before : List Char
  after : List Char
  offset : Nat
  marks : List (Option Nat)

namespace Place

/-- The start of a text, for a pattern with the given number of groups. -/
def start (text : List Char) (groups : Nat) : Place :=
  ⟨[], text, 0, List.replicate (2 * groups + 2) none⟩

def advance (p : Place) : Place :=
  match p.after with
  | c :: rest => { p with before := c :: p.before, after := rest, offset := p.offset + 1 }
  | [] => p

def rewind (p : Place) (n : Nat) : Place :=
  { p with
    before := p.before.drop n
    after := (p.before.take n).reverse ++ p.after
    offset := p.offset - n }

def mark (p : Place) (i : Nat) : Place := { p with marks := p.marks.set i (some p.offset) }

/-- The offsets between which a group lies, if it has been left after it was entered. -/
def span? (p : Place) (i : Nat) : Option (Nat × Nat) :=
  match p.marks.getD (2 * i) none, p.marks.getD (2 * i + 1) none with
  | some first, some last => if first ≤ last then some (first, last) else none
  | _, _ => none

def wordSides (p : Place) (asciiOnly : Bool) : Bool × Bool :=
  let isWord (c : Option Char) : Bool :=
    c.any fun c => Category.word.holds asciiOnly c.toNat
  (isWord p.before.head?, isWord p.after.head?)

/-- Whether an anchor holds; no boundary of either kind exists in an empty text. -/
def holds (p : Place) : Anchor → Bool
  | .textStart | .firstLineStart => p.before.isEmpty
  | .textEnd => p.after.isEmpty
  | .lineStart => p.before.isEmpty || p.before.head? == some '\n'
  | .lineEnd => p.after.isEmpty || p.after.head? == some '\n'
  | .lastLineEnd => p.after.isEmpty || p.after == ['\n']
  | .boundary asciiOnly =>
    let (left, right) := p.wordSides asciiOnly
    !(p.before.isEmpty && p.after.isEmpty) && left != right
  | .noBoundary asciiOnly =>
    let (left, right) := p.wordSides asciiOnly
    !(p.before.isEmpty && p.after.isEmpty) && left == right

end Place

/-- What follows a match. -/
abbrev Follow := Place → Option Place

/-- A way to match from a place, given what follows. -/
abbrev Step := Place → Follow → Option Place

namespace Pattern

def mayRepeat (most : Option Nat) (count : Nat) : Bool := most.all (count < ·)

/-- Rounds as long as possible. `last` is the offset where the latest optional round began. -/
def greedyRounds (body : Step) (follow : Follow) (least : Nat) (most : Option Nat) :
    Nat → Nat → Option Nat → Place → Option Place
  | 0, _, _, _ => none
  | fuel + 1, count, last, p =>
    if count < least then
      body p (greedyRounds body follow least most fuel (count + 1) last)
    else
      let further :=
        if mayRepeat most count && last != some p.offset then
          body p (greedyRounds body follow least most fuel (count + 1) (some p.offset))
        else none
      match further with
      | some result => some result
      | none => follow p

def lazyRounds (body : Step) (follow : Follow) (least : Nat) (most : Option Nat) :
    Nat → Nat → Option Nat → Place → Option Place
  | 0, _, _, _ => none
  | fuel + 1, count, last, p =>
    if count < least then
      body p (lazyRounds body follow least most fuel (count + 1) last)
    else
      match follow p with
      | some result => some result
      | none =>
        if mayRepeat most count && last != some p.offset then
          body p (lazyRounds body follow least most fuel (count + 1) (some p.offset))
        else none

/-- Rounds as long as possible, each settled once it has matched. -/
def possessiveRounds (body : Step) (follow : Follow) (least : Nat) (most : Option Nat) :
    Nat → Nat → Option Nat → Place → Option Place
  | 0, _, _, _ => none
  | fuel + 1, count, last, p =>
    if count < least then
      match body p some with
      | some next => possessiveRounds body follow least most fuel (count + 1) last next
      | none => none
    else if mayRepeat most count && last != some p.offset then
      match body p some with
      | some next => possessiveRounds body follow least most fuel (count + 1) (some p.offset) next
      | none => follow p
    else follow p

/-- The rounds of a repetition. A round that is not required moves on, so that the number of rounds
is bounded by those required and the characters left. -/
def rounds (greed : Greed) (body : Step) (least : Nat) (most : Option Nat) (p : Place)
    (follow : Follow) : Option Place :=
  let fuel := least + p.after.length + 2
  match greed with
  | .greedy => greedyRounds body follow least most fuel 0 none p
  | .lazy => lazyRounds body follow least most fuel 0 none p
  | .possessive => possessiveRounds body follow least most fuel 0 none p

/-- Moves over a text that equals the one ahead in the compared form. -/
def matchText (rule : CaseRule) : List Char → Place → Option Place
  | [], p => some p
  | c :: rest, p =>
    match p.after with
    | d :: _ =>
      if rule.lower c.toNat == rule.lower d.toNat then matchText rule rest p.advance else none
    | [] => none

def run (text : List Char) : Pattern → Place → Follow → Option Place
  | empty, p, follow => follow p
  | one test, p, follow =>
    match p.after with
    | c :: _ => if test.accepts c.toNat then follow p.advance else none
    | [] => none
  | anchor a, p, follow => if p.holds a then follow p else none
  | seq a b, p, follow => run text a p fun q => run text b q follow
  | alt a b, p, follow =>
    match run text a p follow with
    | some result => some result
    | none => run text b p follow
  | group i body, p, follow =>
    run text body (p.mark (2 * i)) fun q => follow (q.mark (2 * i + 1))
  | loop greed least most body, p, follow =>
    rounds greed (fun q next => run text body q next) least most p follow
  | backref i rule _, p, follow =>
    match p.span? i with
    | some (first, last) =>
      match matchText rule ((text.drop first).take (last - first)) p with
      | some q => follow q
      | none => none
    | none => none
  | cond i present absent, p, follow =>
    if (p.span? i).isSome then run text present p follow else run text absent p follow
  | look negative behind body, p, follow =>
    let reach := behind.elim 0 (·.least)
    let found := if p.offset < reach then none else run text body (p.rewind reach) some
    match negative, found with
    | false, some q => follow { p with marks := q.marks }
    | true, none => follow p
    | _, _ => none
  | atomic body, p, follow =>
    match run text body p some with
    | some q => follow q
    | none => none
  | flagged body, p, follow => run text body p follow

/-- Whether a pattern with the given number of groups matches a text as a whole. -/
def matchesAll (pattern : Pattern) (groups : Nat) (text : String) : Bool :=
  let chars := text.toList
  (run chars pattern (Place.start chars groups) fun p =>
    if p.after.isEmpty then some p else none).isSome

end Pattern

end Outline
