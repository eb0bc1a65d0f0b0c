import Outline.Path.Basic
import Outline.Pattern.Matcher
import Outline.Pattern.Reader

set_option autoImplicit false

/-!
# Filters for folder names

A filter is a pattern that is compared with whole names, whatever their case. A path is ignored as
soon as one of its names is. The pattern is used as written, so that its names are usually
separated by bars; it is read inside a group, and offsets in messages count the characters of that
group.
-/
namespace Outline

structure Filter where
  text : String
  pattern : Pattern
  groups : Nat
deriving Repr, DecidableEq

inductive FilterError where
  | blank
  | refused (text : String) (refusal : PatternRefusal)
deriving Repr, DecidableEq

namespace Filter

def defaultText : String := "bin|obj|.git|.vs|node_modules|TestResults|packages"

def wrap (text : String) : String := "(?:" ++ text ++ ")"

theorem toList_wrap (text : String) :
    (wrap text).toList = '(' :: '?' :: ':' :: (text.toList ++ [')']) := by
  simp [wrap]

def read [CharacterNames] (text : String) : Except FilterError Filter :=
  if text.toList.all Text.isBlank then .error .blank
  else match Pattern.read { ignoreCase := true } (wrap text) with
    | .ok (pattern, groups) => .ok ⟨text, pattern, groups⟩
    | .error refusal => .error (.refused text refusal)

def ignores (f : Filter) (name : String) : Bool := f.pattern.matchesAll f.groups name

/-- Whether a relative path leads through an ignored name. -/
def ignoresPath (f : Filter) (path : String) : Bool :=
  path != "." && (Path.steps path).any f.ignores

end Filter

def FilterError.message : FilterError → String
  | blank => "Filter pattern must not be empty."
  | refused text (.broken cause offset) =>
    "Invalid filter pattern " ++ Text.quoted text ++ ": " ++
      (PatternRefusal.broken cause offset).message (Filter.wrap text)
  | refused text refusal => refusal.message (Filter.wrap text)

end Outline
