import Outline.Text.Quoted

set_option autoImplicit false

/-!
# Why a pattern is refused

Each cause has a message. Most causes have a place in the pattern, which the message names by its
offset and, in a pattern of several lines, by line and column.
-/
namespace Outline

inductive PatternCause where
  | loneBackslash
  | missingName (what : String)
  | unterminatedName (terminator : Char)
  | badGroupName (name : String)
  | incompleteEscape (escape : String)
  | badEscape (escape : String)
  | missingBrace
  | undefinedCharacter (name : String)
  | octalTooLarge (escape : String)
  | openGroup
  | groupOfLookBehind
  | invalidReference (index : Nat)
  | badGroupNumber
  | unknownGroup (name : String)
  | groupRedefined (name : String) (index earlier : Nat)
  | unterminatedSet
  | badRange (first last : String)
  | repeatBoundsReversed
  | nothingToRepeat
  | multipleRepeat
  | unexpectedEnd
  | unknownExtension (text : String)
  | unterminatedComment
  | unterminatedGroup
  | thirdBranch
  | flagsNotAtStart
  | localeFlag
  | incompatibleFlags
  | flagsUnfinished
  | unknownFlag
  | missingFlag
  | missingColon
  | globalFlagOn
  | globalFlagOff
  | kindFlagOff
  | flagOnAndOff
  | unbalancedGroup
  | lookBehindTooFar
  | lookBehindNotFixed
  | unsupportedRepetition (operator : String)
deriving Repr, DecidableEq

namespace PatternCause

def message : PatternCause → String
  | loneBackslash => "bad escape (end of pattern)"
  | missingName what => "missing " ++ what
  | unterminatedName terminator => "missing " ++ terminator.toString ++ ", unterminated name"
  | badGroupName name => "bad character in group name " ++ Text.quoted name
  | incompleteEscape escape => "incomplete escape " ++ escape
  | badEscape escape => "bad escape " ++ escape
  | missingBrace => "missing \x7b"
  | undefinedCharacter name => "undefined character name " ++ Text.quoted name
  | octalTooLarge escape => "octal escape value " ++ escape ++ " outside of range 0-0o377"
  | openGroup => "cannot refer to an open group"
  | groupOfLookBehind => "cannot refer to group defined in the same lookbehind subpattern"
  | invalidReference index => "invalid group reference " ++ toString index
  | badGroupNumber => "bad group number"
  | unknownGroup name => "unknown group name " ++ Text.quoted name
  | groupRedefined name index earlier =>
    "redefinition of group name " ++ Text.quoted name ++ " as group " ++ toString index ++
      "; was group " ++ toString earlier
  | unterminatedSet => "unterminated character set"
  | badRange first last => "bad character range " ++ first ++ "-" ++ last
  | repeatBoundsReversed => "min repeat greater than max repeat"
  | nothingToRepeat => "nothing to repeat"
  | multipleRepeat => "multiple repeat"
  | unexpectedEnd => "unexpected end of pattern"
  | unknownExtension text => "unknown extension ?" ++ text
  | unterminatedComment => "missing ), unterminated comment"
  | unterminatedGroup => "missing ), unterminated subpattern"
  | thirdBranch => "conditional backref with more than two branches"
  | flagsNotAtStart => "global flags not at the start of the expression"
  | localeFlag => "bad inline flags: cannot use 'L' flag with a str pattern"
  | incompatibleFlags => "bad inline flags: flags 'a', 'u' and 'L' are incompatible"
  | flagsUnfinished => "missing -, : or )"
  | unknownFlag => "unknown flag"
  | missingFlag => "missing flag"
  | missingColon => "missing :"
  | globalFlagOn => "bad inline flags: cannot turn on global flag"
  | globalFlagOff => "bad inline flags: cannot turn off global flag"
  | kindFlagOff => "bad inline flags: cannot turn off flags 'a', 'u' and 'L'"
  | flagOnAndOff => "bad inline flags: flag turned on and off"
  | unbalancedGroup => "unbalanced parenthesis"
  | lookBehindTooFar => "looks too much behind"
  | lookBehindNotFixed => "look-behind requires fixed-width pattern"
  | unsupportedRepetition operator => "internal: unsupported template operator " ++ operator

end PatternCause

inductive PatternRefusal where
  /-- The pattern breaks a rule, at an offset if the rule has a place. -/
  | broken (cause : PatternCause) (offset : Option Nat)
  /-- A repetition number reaches the one that stands for unlimited. -/
  | repetitionTooLarge
  /-- A repetition number has more digits than an integer may have. -/
  | repetitionTooLong (digits : Nat)
  /-- A code point does not fit into 31 bits. -/
  | codeTooLarge
  /-- The whole pattern is meant for two kinds of text. -/
  | incompatibleKinds
deriving Repr, DecidableEq

namespace PatternRefusal

/-- Line and column of an offset, both counted from one. -/
def lineAndColumn (chars : List Char) (offset : Nat) : Nat × Nat :=
  let front := chars.take offset
  (front.count '\n' + 1, (front.reverse.takeWhile (· != '\n')).length + 1)

def message (pattern : String) : PatternRefusal → String
  | broken cause none => cause.message
  | broken cause (some offset) =>
    let chars := pattern.toList
    let placed := cause.message ++ " at position " ++ toString offset
    if chars.contains '\n' then
      let (line, column) := lineAndColumn chars offset
      placed ++ " (line " ++ toString line ++ ", column " ++ toString column ++ ")"
    else placed
  | repetitionTooLarge => "the repetition number is too large"
  | repetitionTooLong digits =>
    "Exceeds the limit (4300 digits) for integer string conversion: value has " ++
      toString digits ++
      " digits; use sys.set_int_max_str_digits() to increase the limit"
  | codeTooLarge => "Python int too large to convert to C int"
  | incompatibleKinds => "ASCII and UNICODE flags are incompatible"

end PatternRefusal

end Outline
