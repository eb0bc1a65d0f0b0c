import Outline.Text.Blank
import Outline.Text.Case
import Outline.Text.Digit
import Outline.Text.Letter

set_option autoImplicit false

/-!
# Patterns

A pattern is a regular expression with groups, back references, look-around, conditionals and
atomic parts. The flags in force are worked into the tests on single characters and the anchors, so
that a pattern means the same wherever it stands. Code points are natural numbers, since a pattern
may name surrogates.
-/
namespace Outline

/-- How characters are compared: exactly, up to case among the ASCII letters, or up to case. -/
inductive CaseRule where
  | exact
  | ascii
  | full
deriving Repr, DecidableEq

namespace CaseRule

/-- The form of a character that a back reference compares. -/
def lower : CaseRule → Nat → Nat
  | exact, code => code
  | ascii, code => Text.asciiLowerCode code
  | full, code => Text.lowerCode code

/-- The key that the variants of a character share. -/
def key : CaseRule → Nat → Nat
  | full, code => Text.caseKey code
  | rule, code => rule.lower code

def variants : CaseRule → Nat → List Nat
  | exact, code => [code]
  | ascii, code =>
    let small := Text.asciiLowerCode code
    if 0x61 ≤ small && small ≤ 0x7A then [small, small - 0x20] else [small]
  | full, code => Text.caseVariants code

end CaseRule

inductive Category where
  | digit
  | space
  | word
deriving Repr, DecidableEq

namespace Category

/-- Whether a class holds a character; with the flag, ASCII characters only. -/
def holds (asciiOnly : Bool) : Category → Nat → Bool
  | digit, code => if asciiOnly then 0x30 ≤ code && code ≤ 0x39 else Text.isDigit code
  | space, code =>
    if asciiOnly then (0x09 ≤ code && code ≤ 0x0D) || code == 0x20 else Text.isBlankCode code
  | word, code => if asciiOnly then Text.isAsciiWord code else Text.isWord code

end Category

inductive SetItem where
  | code (code : Nat)
  | range (first last : Nat)
  | named (asciiOnly : Bool) (category : Category) (negated : Bool)
deriving Repr, DecidableEq

namespace SetItem

/-- Whether the item holds a character, given its lower-case form and its variants. A character
beyond the first plane stands for itself only. -/
def holds (rule : CaseRule) (small : Nat) (variants : List Nat) : SetItem → Bool
  | code c => if c < 0x10000 then rule.key c == rule.key small else c == small
  | range first last => variants.any fun v => first ≤ v && v ≤ last
  | named asciiOnly category negated => category.holds asciiOnly small != negated

end SetItem

inductive CharTest where
  | literal (rule : CaseRule) (negated : Bool) (code : Nat)
  | any (acceptsNewline : Bool)
  | set (rule : CaseRule) (negated : Bool) (items : List SetItem)
deriving Repr, DecidableEq

namespace CharTest

def accepts : CharTest → Nat → Bool
  | literal rule negated code, c => (rule.key c == rule.key code) != negated
  | any acceptsNewline, c => acceptsNewline || c != 0x0A
  | set rule negated items, c =>
    let small := rule.lower c
    let variants := rule.variants c
    items.any (·.holds rule small variants) != negated

/-- The items of the set that a test stands for, and how they are compared, unless the test is about
all other characters. -/
def items? : CharTest → Option (CaseRule × List SetItem)
  | literal rule false code => some (rule, [.code code])
  | set rule false items => some (rule, items)
  | _ => none

end CharTest

inductive Anchor where
  | textStart
  /-- The start of the text as well, but spelled like the start of a line. -/
  | firstLineStart
  | textEnd
  | lineStart
  | lineEnd
  /-- The end of the text or the place before a line feed that ends it. -/
  | lastLineEnd
  | boundary (asciiOnly : Bool)
  | noBoundary (asciiOnly : Bool)
deriving Repr, DecidableEq

inductive Greed where
  | greedy
  | lazy
  | possessive
deriving Repr, DecidableEq

/-- The least and the greatest number of characters that a pattern matches. -/
structure Width where
  least : Nat
  most : Nat
deriving Repr, DecidableEq

inductive Pattern where
  | empty
  | one (test : CharTest)
  | anchor (anchor : Anchor)
  | seq (first second : Pattern)
  | alt (first second : Pattern)
  | group (index : Nat) (body : Pattern)
  | loop (greed : Greed) (least : Nat) (most : Option Nat) (body : Pattern)
  | backref (index : Nat) (rule : CaseRule) (width : Width)
  | cond (index : Nat) (present absent : Pattern)
  /-- Look-ahead, or look-behind over a width. -/
  | look (negative : Bool) (behind : Option Width) (body : Pattern)
  | atomic (body : Pattern)
  /-- A group with flags of its own, which are worked into its body. -/
  | flagged (body : Pattern)
deriving Repr, DecidableEq

namespace Width

def limit : Nat := Nat.pow 2 64

def bounded (w : Width) : Width := ⟨min w.least limit, min w.most limit⟩

/-- The number that stands for an unlimited repetition. -/
def unlimited : Nat := 4294967295

end Width

namespace Pattern

def joined (join : Pattern → Pattern → Pattern) : List Pattern → Pattern
  | [] => empty
  | [p] => p
  | p :: rest => join p (joined join rest)

def ofList : List Pattern → Pattern := joined seq

def ofAlternatives : List Pattern → Pattern := joined alt

theorem joined_induction {motive : Pattern → Prop} {join : Pattern → Pattern → Pattern}
    (hempty : motive empty) (hjoin : ∀ a b, motive a → motive b → motive (join a b))
    {ps : List Pattern} (h : ∀ p ∈ ps, motive p) : motive (joined join ps) := by
  fun_induction joined join ps with
  | case1 => exact hempty
  | case2 p => exact h p (by simp)
  | case3 p rest _ ih =>
    rw [List.forall_mem_cons] at h
    exact hjoin _ _ h.1 (ih h.2)

def parts : Pattern → List Pattern
  | empty => []
  | seq a b => a.parts ++ b.parts
  | p => [p]

def isSimple : Pattern → Bool
  | one _ | anchor _ | backref .. => true
  | _ => false

/-- What a pattern that begins with the given parts and has one more says of its last character. -/
def lastItems? (front : List Pattern) (p : Pattern) : Option (CaseRule × List SetItem) :=
  match p.parts.getLast? with
  | some (one test) => if p.parts = front ++ [one test] then test.items? else none
  | _ => none

/-- Alternatives that differ only in the last character, as one pattern that ends with a set. -/
def merged? : List Pattern → Option Pattern
  | [] => none
  | p :: rest => do
    let front := p.parts.dropLast
    let first ← lastItems? front p
    let others := rest.filterMap (lastItems? front)
    if front.all isSimple && others.length == rest.length && others.any (· != first) then
      let items := (first.2 ++ others.flatMap (·.2)).eraseDups
      return ofList (front ++ [one (.set first.1 false items)])
    else none

/-- A choice between alternatives. Sets compare characters in a way of their own, so it matters that
alternatives are merged. -/
def choice : List Pattern → Pattern
  | [p] => p
  | ps => (merged? ps).getD (ofAlternatives ps)

def width : Pattern → Width
  | empty | anchor _ | look .. => ⟨0, 0⟩
  | one _ => ⟨1, 1⟩
  | seq a b => Width.bounded ⟨a.width.least + b.width.least, a.width.most + b.width.most⟩
  | alt a b => ⟨min a.width.least b.width.least, max a.width.most b.width.most⟩
  | group _ p | atomic p | flagged p => p.width
  | loop _ least most p =>
    Width.bounded ⟨p.width.least * least, match most with
      | some n => p.width.most * n
      | none => if p.width.most = 0 then 0 else Width.limit⟩
  | backref _ _ w => w
  | cond _ p q => ⟨min p.width.least q.width.least, max p.width.most q.width.most⟩

end Pattern

end Outline
