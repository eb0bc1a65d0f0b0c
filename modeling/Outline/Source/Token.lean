import Outline.Text.Blank

set_option autoImplicit false

/-!
# Tokens of C# sources

A source is cut into words, literals, symbols, comments and directives, each with the offsets of
its bytes. Cutting never fails: an unfinished literal ends with its line or with the source, and a
character that begins no token is a symbol. Closing angle brackets are never joined, since they may
close type arguments.
-/
namespace Outline.Source

inductive TokenKind where
  | word
  | literal
  | symbol
  | comment
  | directive
deriving Repr, DecidableEq

/-- A token. The text of a directive is its keyword with a number sign in front. -/
structure Token where
  kind : TokenKind
  text : String
  start : Nat
  stop : Nat
deriving Repr, DecidableEq

def isGap (c : Char) : Bool := Text.isBlank c || c == '\uFEFF'

def endsLine (c : Char) : Bool := c == '\n' || c == '\r'

def startsWord (c : Char) : Bool := c.isAlpha || c == '_' || (0x80 ≤ c.toNat && !isGap c)

def isWordChar (c : Char) : Bool := startsWord c || c.isDigit

/-- The number of characters at the front that pass a test. -/
def run (test : Char → Bool) (chars : List Char) : Nat := (chars.takeWhile test).length

/-- The number of characters of a word's rest; an escaped code point counts as a letter. -/
def wordRest : List Char → Nat
  | [] => 0
  | '\\' :: c :: rest => if c == 'u' || c == 'U' then wordRest rest + 2 else 0
  | c :: rest => if isWordChar c then wordRest rest + 1 else 0

/-- The number of characters up to the end of a comment in stars, its end included. -/
def commentRest : List Char → Nat
  | [] => 0
  | '*' :: '/' :: _ => 2
  | _ :: rest => commentRest rest + 1

def characterLength? : List Char → Option Nat
  | '\'' :: '\\' :: _ :: rest =>
    let n := run (fun c => c != '\'' && !endsLine c) rest
    if rest[n]? == some '\'' then some (n + 4) else none
  | '\'' :: c :: '\'' :: _ => if endsLine c then none else some 3
  | _ => none

/-- The form of a string literal: whether backslashes stand for themselves, the number of quotes
that enclose it (three or more if it is raw), and the number of braces that open a hole in it (none
if it has no holes). -/
structure StringForm where
  verbatim : Bool
  quotes : Nat
  holes : Nat
deriving Repr, DecidableEq

namespace StringForm

def isRaw (form : StringForm) : Bool := 3 ≤ form.quotes

end StringForm

/-- The form of the string literal that begins here and the number of characters that open it. -/
def stringForm? (chars : List Char) : Option (StringForm × Nat) :=
  let marks := chars.takeWhile fun c => c == '$' || c == '@'
  let quotes := run (· == '"') (chars.drop marks.length)
  let verbatim := marks.contains '@'
  if quotes = 0 then none
  else
    let enclosing := if !verbatim && 3 ≤ quotes then quotes else 1
    some (⟨verbatim, enclosing, marks.count '$'⟩, marks.length + enclosing)

mutual

def contentLength : Nat → StringForm → List Char → Nat
  | 0, _, _ => 0
  | _, _, [] => 0
  | fuel + 1, form, c :: rest =>
    let quotes := run (· == '"') (c :: rest)
    let braces := run (· == '{') (c :: rest)
    let go (n : Nat) : Nat := n + contentLength fuel form ((c :: rest).drop n)
    let opensHole :=
      if form.isRaw then form.holes ≤ braces else braces % 2 == 1
    if 0 < quotes then
      if form.isRaw then if form.quotes ≤ quotes then quotes else go quotes
      else if form.verbatim && 2 ≤ quotes then go 2
      else 1
    else if 0 < form.holes && 0 < braces then
      if opensHole then
        go (braces + holeLength fuel form.holes 0 ((c :: rest).drop braces))
      else go braces
    else if !form.isRaw && !form.verbatim && c == '\\' then go 2
    else if !form.isRaw && !form.verbatim && endsLine c then 0
    else go 1

/-- The number of characters of a hole together with its closing braces; the depth counts the
brackets open in it. -/
def holeLength : Nat → Nat → Nat → List Char → Nat
  | 0, _, _, _ => 0
  | _, _, _, [] => 0
  | fuel + 1, closing, depth, c :: rest =>
    let go (n depth : Nat) : Nat := n + holeLength fuel closing depth ((c :: rest).drop n)
    if c == '}' && depth = 0 then closing
    else if c == '(' || c == '[' || c == '{' then go 1 (depth + 1)
    else if c == ')' || c == ']' || c == '}' then go 1 (depth - 1)
    else match characterLength? (c :: rest), stringForm? (c :: rest) with
      | some n, _ => go n depth
      | none, some (form, opening) =>
        go (opening + contentLength fuel form ((c :: rest).drop opening)) depth
      | none, none => go 1 depth

end

def stringLength? (chars : List Char) : Option Nat :=
  (stringForm? chars).map fun (form, opening) =>
    opening + contentLength (chars.length + 1) form (chars.drop opening)

def directiveName (chars : List Char) : List Char :=
  (chars.dropWhile fun c => c == ' ' || c == '\t').takeWhile Char.isAlpha

/-- The number of characters of a directive, after its number sign. The ones that end a branch end
with their keyword, all others with their line. -/
def directiveRest (chars : List Char) : Nat :=
  let name := directiveName chars
  if name == "else".toList || name == "endif".toList then
    run (fun c => c == ' ' || c == '\t') chars + name.length
  else run (!endsLine ·) chars

/-- The kind of the token that begins with a character, and the number of its characters.
A directive can only be the first token of a line. -/
def lexeme (firstOfLine : Bool) (c : Char) (rest : List Char) : TokenKind × Nat :=
  match c, rest with
  | '/', '/' :: more => (.comment, run (!endsLine ·) more + 2)
  | '/', '*' :: more => (.comment, commentRest more + 2)
  | '=', '>' :: _ => (.symbol, 2)
  | ':', ':' :: _ => (.symbol, 2)
  | '@', d :: more =>
    match stringLength? (c :: rest) with
    | some n => (.literal, n)
    | none => if startsWord d || d == '\\' then (.word, wordRest (d :: more) + 1) else (.symbol, 1)
  | _, _ =>
    if c == '#' && firstOfLine then (.directive, directiveRest rest + 1)
    else if startsWord c then (.word, wordRest rest + 1)
    else if c.isDigit then (.literal, run isWordChar rest + 1)
    else if c == '\\' && rest.head?.any (fun d => d == 'u' || d == 'U') then
      (.word, wordRest (c :: rest))
    else match characterLength? (c :: rest), stringLength? (c :: rest) with
      | some n, _ => (.literal, n)
      | none, some n => (.literal, n)
      | none, none => (.symbol, 1)

def byteSize (chars : List Char) : Nat := chars.foldl (fun n c => n + c.utf8Size) 0

/-- The tokens from an offset on. Every token has a character, so that the fuel lasts if it is the
number of characters. -/
def tokensFrom : Nat → Nat → Bool → List Char → List Token
  | 0, _, _, _ => []
  | _, _, _, [] => []
  | fuel + 1, offset, firstOfLine, c :: rest =>
    if isGap c then tokensFrom fuel (offset + c.utf8Size) (firstOfLine || endsLine c) rest
    else
      let (kind, count) := lexeme firstOfLine c rest
      let lexeme := (c :: rest).take count
      let stop := offset + byteSize lexeme
      let text := if kind = .directive then '#' :: directiveName rest else lexeme
      ⟨kind, String.ofList text, offset, stop⟩ ::
        tokensFrom fuel stop false ((c :: rest).drop count)

def tokens (chars : List Char) : List Token := tokensFrom chars.length 0 true chars

end Outline.Source
