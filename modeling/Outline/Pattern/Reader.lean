import Outline.Pattern.Basic
import Outline.Pattern.Refusal
import Outline.Text.CharacterName
import Outline.Text.Identifier

set_option autoImplicit false

/-!
# Reading patterns

A pattern is read from left to right, one token ahead. Which of several faults is reported, and at
which offset, follows from this order; some faults are found only once everything has been read.
-/
namespace Outline

namespace PatternReader

structure Flags where
  ignoreCase : Bool := false
  asciiOnly : Bool := false
  multiline : Bool := false
  dotAll : Bool := false
  verbose : Bool := false
  unicode : Bool := false
  template : Bool := false
deriving Repr, DecidableEq

namespace Flags

def rule (f : Flags) : CaseRule :=
  if f.ignoreCase then if f.asciiOnly then .ascii else .full else .exact

def conflict (f : Flags) : Bool := f.asciiOnly && f.unicode

def set (value : Bool) (f : Flags) : Char → Flags
  | 'i' => { f with ignoreCase := value }
  | 'm' => { f with multiline := value }
  | 's' => { f with dotAll := value }
  | 'x' => { f with verbose := value }
  | 'a' => { f with asciiOnly := value }
  | 'u' => { f with unicode := value }
  | 't' => { f with template := value }
  | _ => f

end Flags

/-- A token: a character, or a backslash with the character after it. -/
inductive Token where
  | char (c : Char)
  | escape (c : Char)
deriving Repr, DecidableEq

namespace Token

def chars : Token → List Char
  | char c => [c]
  | escape c => ['\\', c]

def text (t : Token) : String := String.ofList t.chars

def isChar (allowed : Char → Bool) : Token → Bool
  | char c => allowed c
  | escape _ => false

end Token

/-- Where the reader stands and what it knows of the groups. -/
structure State where
  rest : List Char
  offset : Nat
  /-- The flags that hold for the whole pattern. -/
  flags : Flags
  /-- The widths of the groups opened so far, from group 1 on; an open group has none. -/
  widths : List (Option Width) := []
  names : List (String × Nat) := []
  /-- Inside a look-behind, the number of the first group it opens. -/
  lookBehindGroups : Option Nat := none
  /-- The groups that conditions name by number, and where each was first named. -/
  references : List (Nat × Nat) := []

namespace State

def groups (s : State) : Nat := s.widths.length + 1

def closedWidth? (s : State) (index : Nat) : Option Width :=
  if index = 0 then none else (s.widths[index - 1]?).join

end State

abbrev Reader := StateT State (Except PatternRefusal)

def failAt {α : Type} (cause : PatternCause) (offset : Nat) : Reader α :=
  throw (.broken cause (some offset))

/-- Refuses the pattern a number of characters before the next token. -/
def failBack {α : Type} (cause : PatternCause) (back : Nat) : Reader α := do
  failAt cause ((← get).offset - back)

def tokenOf : List Char → Option Token
  | '\\' :: c :: _ => some (.escape c)
  | c :: _ => some (.char c)
  | [] => none

def peek : Reader (Option Token) := do
  return tokenOf (← get).rest

def tell : Reader Nat := do
  return (← get).offset

/-- Stands at the given characters; a backslash with nothing after it is no token. -/
def moveTo (rest : List Char) (offset : Nat) : Reader Unit :=
  if rest == ['\\'] then failAt .loneBackslash offset
  else modify fun s => { s with rest := rest, offset := offset }

def take : Reader (Option Token) := do
  let s ← get
  match tokenOf s.rest with
  | none => return none
  | some t =>
    moveTo (s.rest.drop t.chars.length) (s.offset + t.chars.length)
    return some t

def takeIf (wanted : Token → Bool) : Reader (Option Token) := do
  if (← peek).any wanted then take else return none

def accept (c : Char) : Reader Bool := do
  return (← takeIf (· == .char c)).isSome

def takeWhile (allowed : Char → Bool) : Nat → Reader (List Char)
  | 0 => return []
  | n + 1 => do
    match ← takeIf (·.isChar allowed) with
    | none => return []
    | some t => return t.chars ++ (← takeWhile allowed n)

/-- Consumes a name and its terminator; the name so far is reversed. -/
def takeName (terminator : Char) (what : String) : Nat → List Char → Reader String
  | 0, _ => failBack (.missingName what) 0
  | fuel + 1, name => do
    match ← take with
    | none =>
      if name.isEmpty then failBack (.missingName what) 0
      else failBack (.unterminatedName terminator) name.length
    | some t =>
      if t == .char terminator then
        if name.isEmpty then failBack (.missingName what) 1
        else return String.ofList name.reverse
      else takeName terminator what fuel (t.chars.reverse ++ name)

def nameUntil (terminator : Char) (what : String) : Reader String := do
  takeName terminator what ((← get).rest.length + 1) []

def checkGroupName (name : String) : Reader Unit := do
  if Text.isIdentifier name.toList then return ()
  else failBack (.badGroupName name) (name.length + 1)

def isHexDigit (c : Char) : Bool :=
  c.isDigit || ('a' ≤ c && c ≤ 'f') || ('A' ≤ c && c ≤ 'F')

def isOctalDigit (c : Char) : Bool := '0' ≤ c && c ≤ '7'

def valueOf (base : Nat) (digits : List Char) : Nat :=
  digits.foldl (fun n c =>
    base * n + (if c.isDigit then c.toNat - 0x30
      else if c.toNat < 0x61 then c.toNat - 0x37 else c.toNat - 0x57)) 0

def hexEscape (letter : Char) (count : Nat) : Reader Nat := do
  let digits ← takeWhile isHexDigit count
  let escape := '\\' :: letter :: digits
  if digits.length ≠ count then
    failBack (.incompleteEscape (String.ofList escape)) escape.length
  else
    let code := valueOf 16 digits
    if 0x80000000 ≤ code then throw .codeTooLarge
    else if 0x110000 ≤ code then failBack (.badEscape (String.ofList escape)) escape.length
    else return code

variable [CharacterNames]

def namedEscape : Reader Nat := do
  if ← accept '{' then
    let name ← nameUntil '}' "character name"
    match CharacterNames.named? name with
    | some code => return code
    | none => failBack (.undefinedCharacter name) (name.length + 4)
  else failBack .missingBrace 0

def controlEscape? : Char → Option Nat
  | 'a' => some 0x07
  | 'f' => some 0x0C
  | 'n' => some 0x0A
  | 'r' => some 0x0D
  | 't' => some 0x09
  | 'v' => some 0x0B
  | '\\' => some 0x5C
  | _ => none

/-- The classes of escapes with one letter; capitals negate. -/
def categoryEscape? (flags : Flags) : Char → Option SetItem
  | 'd' => some (.named flags.asciiOnly .digit false)
  | 'D' => some (.named flags.asciiOnly .digit true)
  | 's' => some (.named flags.asciiOnly .space false)
  | 'S' => some (.named flags.asciiOnly .space true)
  | 'w' => some (.named flags.asciiOnly .word false)
  | 'W' => some (.named flags.asciiOnly .word true)
  | _ => none

def anchorEscape? (flags : Flags) : Char → Option Anchor
  | 'A' => some .textStart
  | 'Z' => some .textEnd
  | 'b' => some (.boundary flags.asciiOnly)
  | 'B' => some (.noBoundary flags.asciiOnly)
  | _ => none

/-- An escape that is no class, anchor or number: a hexadecimal, named or literal character. -/
def characterEscape (c : Char) : Reader Nat := do
  if c == 'x' then hexEscape c 2
  else if c == 'u' then hexEscape c 4
  else if c == 'U' then hexEscape c 8
  else if c == 'N' then namedEscape
  else if c.isAlpha then failBack (.badEscape (String.ofList ['\\', c])) 2
  else return c.toNat

def setEscape (flags : Flags) (c : Char) : Reader SetItem := do
  match controlEscape? c, categoryEscape? flags c with
  | some code, _ => return .code code
  | none, some item => return item
  | none, none =>
    if c == 'b' then return .code 0x08
    else if isOctalDigit c then
      let digits := c :: (← takeWhile isOctalDigit 2)
      let code := valueOf 8 digits
      if 0o377 < code then
        failBack (.octalTooLarge (String.ofList ('\\' :: digits))) (digits.length + 1)
      else return .code code
    else if c.isDigit then failBack (.badEscape (String.ofList ['\\', c])) 2
    else return .code (← characterEscape c)

/-- A group that is referred to inside a look-behind has to be closed before it. -/
def checkLookBehind (index : Nat) : Reader Unit := do
  let s ← get
  match s.lookBehindGroups with
  | none => return ()
  | some first =>
    if (s.closedWidth? index).isNone then failBack .openGroup 0
    else if first ≤ index then failBack .groupOfLookBehind 0
    else return ()

/-- A reference to a closed group, whose text began a number of characters before. -/
def reference (flags : Flags) (index back : Nat) : Reader Pattern := do
  match (← get).closedWidth? index with
  | none => failBack .openGroup back
  | some width =>
    checkLookBehind index
    return .backref index flags.rule width

def literal (flags : Flags) (code : Nat) : Pattern := .one (.literal flags.rule false code)

def thirdDigit (c : Char) (second : List Char) : Reader (List Char) :=
  if isOctalDigit c && second.any isOctalDigit then takeWhile isOctalDigit 1 else pure []

/-- An escape with a digit other than zero: three octal digits are a character, anything else is
the number of a group. -/
def numberEscape (flags : Flags) (c : Char) : Reader Pattern := do
  let second ← takeWhile Char.isDigit 1
  let third ← thirdDigit c second
  let digits := c :: (second ++ third)
  if digits.length = 3 then
    let code := valueOf 8 digits
    if 0o377 < code then failBack (.octalTooLarge (String.ofList ('\\' :: digits))) 4
    else return literal flags code
  else
    let index := valueOf 10 digits
    if index < (← get).groups then reference flags index (digits.length + 1)
    else failBack (.invalidReference index) digits.length

/-- What kind of item a pattern is for a repetition behind it. -/
inductive ItemKind where
  | anchor
  | repetition
  | other
deriving Repr, DecidableEq

structure Item where
  kind : ItemKind
  pattern : Pattern

def escape (flags : Flags) (c : Char) : Reader Item := do
  match anchorEscape? flags c, categoryEscape? flags c, controlEscape? c with
  | some a, _, _ => return ⟨.anchor, .anchor a⟩
  | none, some item, _ => return ⟨.other, .one (.set flags.rule false [item])⟩
  | none, none, some code => return ⟨.other, literal flags code⟩
  | none, none, none =>
    if c == '0' then
      let digits ← takeWhile isOctalDigit 2
      return ⟨.other, literal flags (valueOf 8 (c :: digits))⟩
    else if c.isDigit then return ⟨.other, ← numberEscape flags c⟩
    else return ⟨.other, literal flags (← characterEscape c)⟩

def setItem (flags : Flags) : Token → Reader SetItem
  | .escape c => setEscape flags c
  | .char c => return .code c.toNat

/-- The range between two items of a set, which these tokens stand for. -/
def rangeOf (this that : Token) : SetItem → SetItem → Reader SetItem
  | .code low, .code high => if high < low then bad else return .range low high
  | _, _ => bad
where
  bad : Reader SetItem :=
    failBack (.badRange this.text that.text) (this.chars.length + 1 + that.chars.length)

/-- The items of a set up to its closing bracket, reversed; the set began at `start`. -/
def setItems (flags : Flags) (start : Nat) : Nat → List SetItem → Reader (List SetItem)
  | 0, _ => failAt .unterminatedSet start
  | fuel + 1, items => do
    match ← take with
    | none => failAt .unterminatedSet start
    | some this =>
      if this == .char ']' && !items.isEmpty then return items
      else
        let first ← setItem flags this
        if ← accept '-' then
          match ← take with
          | none => failAt .unterminatedSet start
          | some that =>
            if that == .char ']' then return .code '-'.toNat :: first :: items
            else
              let last ← setItem flags that
              let range ← rangeOf this that first last
              setItems flags start fuel (range :: items)
        else setItems flags start fuel (first :: items)

/-- The pattern for the items of a set, which are reversed; a set of one character is that
character. -/
def setPattern (flags : Flags) (negated : Bool) (items : List SetItem) : Pattern :=
  match items.reverse.eraseDups with
  | [.code code] => .one (.literal flags.rule negated code)
  | items => .one (.set flags.rule negated items)

def characterSet (flags : Flags) : Reader Pattern := do
  let start := (← tell) - 1
  let negated ← accept '^'
  return setPattern flags negated (← setItems flags start ((← get).rest.length + 1) [])

structure Bounds where
  least : Nat
  most : Option Nat

def repetitionNumber (digits : List Char) : Reader Nat := do
  if Text.maxDigits < digits.length then throw (.repetitionTooLong digits.length)
  else
    let n := valueOf 10 digits
    if Width.unlimited ≤ n then throw .repetitionTooLarge else return n

/-- The digits of both bounds; one number stands for both. -/
def boundDigits (fuel : Nat) : Reader (List Char × List Char) := do
  let low ← takeWhile Char.isDigit fuel
  if ← accept ',' then return (low, ← takeWhile Char.isDigit fuel) else return (low, low)

def closedDigits (fuel : Nat) : Reader (Option (List Char × List Char)) := do
  let digits ← boundDigits fuel
  if ← accept '}' then return some digits else return none

def lowerBound (digits : List Char) : Reader Nat :=
  if digits.isEmpty then pure 0 else repetitionNumber digits

/-- The bounds that digits stand for; the digits began at `start`. -/
def boundsOf (start : Nat) (low high : List Char) : Reader Bounds := do
  let least ← lowerBound low
  if high.isEmpty then return ⟨least, none⟩
  else
    let most ← repetitionNumber high
    if most < least then failAt .repeatBoundsReversed start else return ⟨least, some most⟩

/-- The bounds in braces, after the opening one; nothing if these are no bounds, and then nothing
has been consumed. -/
def braces : Reader (Option Bounds) := do
  let s ← get
  if (← peek) == some (.char '}') then return none
  else
    match ← closedDigits (s.rest.length + 1) with
    | some (low, high) => return some (← boundsOf s.offset low high)
    | none =>
      moveTo s.rest s.offset
      return none

def bounds : Char → Reader (Option Bounds)
  | '?' => return some ⟨0, some 1⟩
  | '*' => return some ⟨0, none⟩
  | '+' => return some ⟨1, none⟩
  | _ => braces

def greed : Reader Greed := do
  if ← accept '?' then return .lazy
  else if ← accept '+' then return .possessive
  else return .greedy

/-- Repeats the latest item; the sign stood at `start`. -/
def repeatItem (start : Nat) (b : Bounds) (items : List Item) : Reader (List Item) := do
  match items with
  | [] => failAt .nothingToRepeat start
  | item :: before =>
    match item.kind with
    | .anchor => failAt .nothingToRepeat start
    | .repetition => failAt .multipleRepeat start
    | .other =>
      return ⟨.repetition, .loop (← greed) b.least b.most item.pattern⟩ :: before

def isFlag (c : Char) : Bool := "iLmsxatu".toList.contains c

def isKindFlag (c : Char) : Bool := c == 'a' || c == 'u' || c == 'L'

inductive FlagChange where
  | global (on : List Char)
  | scoped (on off : List Char)

def strayFlag (t : Token) (otherwise : PatternCause) : PatternCause :=
  match t with
  | .char c => if Text.isLetter c.toNat then .unknownFlag else otherwise
  | .escape _ => otherwise

def flagsOff (on : List Char) : Nat → List Char → Char → Reader FlagChange
  | 0, _, _ => failBack .missingColon 0
  | fuel + 1, off, c => do
    if isKindFlag c then failBack .kindFlagOff 0
    else
      let off := c :: off
      match ← take with
      | none => failBack .missingColon 0
      | some (.char ':') =>
        if off.contains 't' then failBack .globalFlagOff 1
        else if on.any off.contains then failBack .flagOnAndOff 1
        else return .scoped on off
      | some t =>
        match t with
        | .char d =>
          if isFlag d then flagsOff on fuel off d
          else failBack (strayFlag t .missingColon) t.chars.length
        | .escape _ => failBack (strayFlag t .missingColon) t.chars.length

def flagsAfterMinus (on : List Char) : Reader FlagChange := do
  if on.contains 't' then failBack .globalFlagOn 1
  else match ← take with
    | none => failBack .missingFlag 0
    | some t =>
      match t with
      | .char c =>
        if isFlag c then flagsOff on ((← get).rest.length + 1) [] c
        else failBack (strayFlag t .missingFlag) t.chars.length
      | .escape _ => failBack (strayFlag t .missingFlag) t.chars.length

def flagsOn : Nat → List Char → Char → Reader FlagChange
  | 0, _, _ => failBack .flagsUnfinished 0
  | fuel + 1, on, c => do
    if c == 'L' then failBack .localeFlag 0
    else
      let on := c :: on
      if isKindFlag c && on.any (fun d => isKindFlag d && d != c) then
        failBack .incompatibleFlags 0
      else match ← take with
        | none => failBack .flagsUnfinished 0
        | some (.char ')') => return .global on
        | some (.char '-') => flagsAfterMinus on
        | some (.char ':') =>
          if on.contains 't' then failBack .globalFlagOn 1 else return .scoped on []
        | some t =>
          match t with
          | .char d =>
            if isFlag d then flagsOn fuel on d
            else failBack (strayFlag t .flagsUnfinished) t.chars.length
          | .escape _ => failBack (strayFlag t .flagsUnfinished) t.chars.length

def inlineFlags (c : Char) : Reader FlagChange := do
  if c == '-' then flagsAfterMinus [] else flagsOn ((← get).rest.length + 1) [] c

def applyFlags (flags : Flags) (on off : List Char) : Flags :=
  off.foldl (Flags.set false) (on.foldl (Flags.set true) flags)

/-- The flags inside of a group with flags of its own. There a kind of text replaces the one
outside, while for the whole pattern the kinds add up. -/
def scopedFlags (flags : Flags) (on off : List Char) : Flags :=
  applyFlags (if on.any isKindFlag then { flags with asciiOnly := false, unicode := false }
    else flags) on off

/-- Skips a comment of a verbose pattern, up to the end of the line. -/
def skipLine : Nat → Reader Unit
  | 0 => return ()
  | fuel + 1 => do
    match ← take with
    | none => return ()
    | some t => if t == .char '\n' then return () else skipLine fuel

def skipComment (start : Nat) : Nat → Reader Unit
  | 0 => failAt .unterminatedComment start
  | fuel + 1 => do
    match ← take with
    | none => failAt .unterminatedComment start
    | some t => if t == .char ')' then return () else skipComment start fuel

def namedReference (flags : Flags) : Reader Pattern := do
  let name ← nameUntil ')' "group name"
  checkGroupName name
  match (← get).names.lookup name with
  | none => failBack (.unknownGroup name) (name.length + 1)
  | some index => reference flags index (name.length + 1)

def maxGroups : Nat := 1073741823

/-- Notes a group that a condition names by number, a number of characters before. -/
def noteReference (index back : Nat) : Reader Unit :=
  modify fun s =>
    if s.references.any (·.1 == index) then s
    else { s with references := s.references ++ [(index, s.offset - back)] }

def conditionIndex (name : String) : Reader Nat := do
  let back := name.length + 1
  if Text.isIdentifier name.toList then
    match (← get).names.lookup name with
    | none => failBack (.unknownGroup name) back
    | some index => return index
  else match Text.readInt? name with
    | some (.ofNat index) =>
      if index = 0 then failBack .badGroupNumber back
      else if maxGroups ≤ index then failBack (.invalidReference index) back
      else
        noteReference index back
        return index
    | _ => failBack (.badGroupName name) back

def conditionGroup : Reader Nat := do
  let index ← conditionIndex (← nameUntil ')' "group name")
  checkLookBehind index
  return index

def openGroup (name : Option String) : Reader Nat := do
  let index := (← get).groups
  match name with
  | none =>
    modify fun s => { s with widths := s.widths ++ [none] }
    return index
  | some name =>
    match (← get).names.lookup name with
    | some earlier => failBack (.groupRedefined name index earlier) (name.length + 1)
    | none =>
      modify fun s =>
        { s with widths := s.widths ++ [none], names := s.names ++ [(name, index)] }
      return index

def closeGroup (index : Nat) (body : Pattern) : Reader Unit :=
  modify fun s => { s with widths := s.widths.set (index - 1) (some body.width) }

inductive Opening where
  | capture (name : Option String)
  | plain
  | flagged (flags : Flags)
  | atomic
  | ahead (negative : Bool)
  | behind (negative : Bool)
  | condition
  | reference
  | comment
  | global (on : List Char)

/-- What follows an opening bracket and a question mark. -/
def extension (flags : Flags) : Reader Opening := do
  match ← take with
  | none => failBack .unexpectedEnd 0
  | some t =>
    match t with
    | .char 'P' =>
      if ← accept '<' then
        let name ← nameUntil '>' "group name"
        checkGroupName name
        return .capture (some name)
      else if ← accept '=' then return .reference
      else match ← take with
        | none => failBack .unexpectedEnd 0
        | some u => failBack (.unknownExtension ("P" ++ u.text)) (u.chars.length + 2)
    | .char ':' => return .plain
    | .char '#' => return .comment
    | .char '=' => return .ahead false
    | .char '!' => return .ahead true
    | .char '<' =>
      match ← take with
      | none => failBack .unexpectedEnd 0
      | some (.char '=') => return .behind false
      | some (.char '!') => return .behind true
      | some u => failBack (.unknownExtension ("<" ++ u.text)) (u.chars.length + 2)
    | .char '(' => return .condition
    | .char '>' => return .atomic
    | .char c =>
      if isFlag c || c == '-' then
        match ← inlineFlags c with
        | .global on => return .global on
        | .scoped on off => return .flagged (scopedFlags flags on off)
      else failBack (.unknownExtension t.text) 2
    | .escape _ => failBack (.unknownExtension t.text) (t.chars.length + 1)

def close (start : Nat) : Reader Unit := do
  if ← accept ')' then return () else failAt .unterminatedGroup start

def isIgnoredSpace (c : Char) : Bool :=
  c == ' ' || c == '\t' || c == '\n' || c == '\r' || c == '\x0b' || c == '\x0c'

def sequence (items : List Item) : Pattern := .ofList (items.reverse.map (·.pattern))

inductive Piece where
  | nothing
  | item (item : Item)
  | repetition (bounds : Bounds)
  | globalFlags (on : List Char)
  | group (opening : Opening)

def bracketPiece (flags : Flags) (start : Nat) : Reader Piece := do
  match ← (if ← accept '?' then extension flags else pure (.capture none)) with
  | .comment =>
    skipComment start ((← get).rest.length + 1)
    return .nothing
  | .reference => return .item ⟨.other, ← namedReference flags⟩
  | .global on => return .globalFlags on
  | opening => return .group opening

/-- The piece that a character begins, which stood at `start`. -/
def characterPiece (flags : Flags) (start : Nat) (c : Char) : Reader Piece := do
  if flags.verbose && isIgnoredSpace c then return .nothing
  else if flags.verbose && c == '#' then
    skipLine ((← get).rest.length + 1)
    return .nothing
  else if c == '[' then return .item ⟨.other, ← characterSet flags⟩
  else if c == '?' || c == '*' || c == '+' || c == '{' then
    match ← bounds c with
    | none => return .item ⟨.other, literal flags c.toNat⟩
    | some b => return .repetition b
  else if c == '.' then return .item ⟨.other, .one (.any flags.dotAll)⟩
  else if c == '^' then
    return .item ⟨.anchor, .anchor (if flags.multiline then .lineStart else .firstLineStart)⟩
  else if c == '$' then
    return .item ⟨.anchor, .anchor (if flags.multiline then .lineEnd else .lastLineEnd)⟩
  else if c == '(' then bracketPiece flags start
  else return .item ⟨.other, literal flags c.toNat⟩

def piece (flags : Flags) (start : Nat) : Token → Reader Piece
  | .escape c => return .item (← escape flags c)
  | .char c => characterPiece flags start c

/-- Reads what stands in a look-behind, which may refer only to groups before it. -/
def withinLookBehind (body : Reader Pattern) : Reader Pattern := do
  let outer := (← get).lookBehindGroups
  modify fun s => { s with lookBehindGroups := some (outer.getD s.groups) }
  let pattern ← body
  modify fun s => { s with lookBehindGroups := outer }
  return pattern

def isEnd (t : Token) : Bool := t == .char '|' || t == .char ')'

/-- Consumes the next token of a sequence and tells where it stood; nothing at the end. -/
def next : Reader (Option (Nat × Token)) := do
  let start ← tell
  return (← takeIf (!isEnd ·)).map fun t => (start, t)

mutual

/-- Alternatives up to a closing bracket or the end. At the top, the flags may change on the way. -/
def alternatives : Nat → Bool → Flags → List Pattern → Reader Pattern
  | 0, _, _, _ => failBack .unbalancedGroup 0
  | fuel + 1, top, flags, found => do
    let s ← get
    let flags := if top then s.flags else flags
    let items ← items fuel (top && found.isEmpty) flags []
    let found := sequence items :: found
    if ← accept '|' then alternatives fuel top flags found
    else return .choice found.reverse

/-- The items of a sequence, reversed. The flag tells whether flags for the whole pattern may still
be given. -/
def items : Nat → Bool → Flags → List Item → Reader (List Item)
  | 0, _, _, _ => failBack .unbalancedGroup 0
  | fuel + 1, first, flags, found => do
    match ← next with
    | none => return found
    | some (start, t) =>
      match ← piece flags start t with
      | .nothing => items fuel first flags found
      | .item item => items fuel first flags (item :: found)
      | .repetition b => items fuel first flags (← repeatItem start b found)
      | .globalFlags on =>
        if first && found.isEmpty then
          let flags := applyFlags flags on []
          modify fun s => { s with flags := flags }
          items fuel first flags found
        else failAt .flagsNotAtStart start
      | .group opening =>
        items fuel first flags (⟨.other, ← group fuel flags start opening⟩ :: found)

def group : Nat → Flags → Nat → Opening → Reader Pattern
  | 0, _, _, _ => failBack .unbalancedGroup 0
  | fuel + 1, flags, start, opening => do
    match opening with
    | .capture name =>
      let index ← openGroup name
      let body ← alternatives fuel false flags []
      close start
      closeGroup index body
      return .group index body
    | .flagged flags =>
      let body ← alternatives fuel false flags []
      close start
      return .flagged body
    | .atomic =>
      let body ← alternatives fuel false flags []
      close start
      return .atomic body
    | .ahead negative =>
      let body ← alternatives fuel false flags []
      close start
      return .look negative none body
    | .behind negative =>
      let body ← withinLookBehind (alternatives fuel false flags [])
      close start
      return .look negative (some body.width) body
    | .condition =>
      let index ← conditionGroup
      let present := sequence (← items fuel false flags [])
      if ← accept '|' then
        let absent := sequence (← items fuel false flags [])
        if (← peek) == some (.char '|') then failBack .thirdBranch 0
        else
          close start
          return .cond index present absent
      else
        close start
        return .cond index present .empty
    | _ =>
      let body ← alternatives fuel false flags []
      close start
      return body

end

def operator : Greed → String
  | .greedy => "MAX_REPEAT"
  | .lazy => "MIN_REPEAT"
  | .possessive => "POSSESSIVE_REPEAT"

/-- The first fault that shows only in the whole pattern: every look-behind needs a fixed width,
and a template has no repetition. An outer part is looked at before those in it. -/
def lateFault? (template : Bool) : Pattern → Option PatternCause
  | .seq a b | .alt a b | .cond _ a b => (lateFault? template a).or (lateFault? template b)
  | .loop greed _ _ p =>
    if template then some (.unsupportedRepetition (operator greed)) else lateFault? template p
  | .group _ p | .atomic p | .flagged p => lateFault? template p
  | .look _ (some width) p =>
    if Width.unlimited < width.least then some .lookBehindTooFar
    else if width.least ≠ width.most then some .lookBehindNotFixed
    else lateFault? template p
  | .look _ none p => lateFault? template p
  | _ => none

def complete (pattern : Pattern) : Reader Pattern := do
  if (← peek).isSome then failBack .unbalancedGroup 0
  else
    let s ← get
    match s.references.find? fun r => s.groups ≤ r.1 with
    | some (index, offset) => failAt (.invalidReference index) offset
    | none =>
      match lateFault? s.flags.template pattern with
      | some cause => throw (.broken cause none)
      | none => return pattern

def finish (pattern : Pattern) : Reader Pattern := do
  if (← get).flags.conflict then throw .incompatibleKinds else complete pattern

def whole : Reader Pattern := do
  let s ← get
  moveTo s.rest s.offset
  finish (← alternatives (4 * s.rest.length + 8) true s.flags [])

end PatternReader

namespace Pattern

/-- Reads a pattern; the second part of the result is the number of its groups. -/
def read [CharacterNames] (flags : PatternReader.Flags) (text : String) :
    Except PatternRefusal (Pattern × Nat) := do
  let (pattern, s) ← PatternReader.whole.run { rest := text.toList, offset := 0, flags := flags }
  return (pattern, s.widths.length)

end Pattern

end Outline
