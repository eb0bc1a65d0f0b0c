import Outline.FileSystem.Basic
import Outline.Filter

set_option autoImplicit false

/-!
# Failures

What can go wrong in a run. Some failures lie in what the user asked for, others in the files; a
filter with a repetition number that is too large is neither.
-/
namespace Outline

inductive Failure where
  | noRoot
  | missingRoot (path : String)
  | filter (error : FilterError)
  | file (error : FileError)
deriving Repr, DecidableEq

inductive FailureKind where
  | configuration
  | file
  | other
deriving Repr, DecidableEq

namespace Failure

def kind : Failure → FailureKind
  | noRoot | missingRoot _ | filter .blank | filter (.refused _ (.broken ..)) => .configuration
  | filter _ => .other
  | file ⟨.nullCharacter, _, _⟩ => .other
  | file _ => .file

def message : Failure → String
  | noRoot => "A project root directory is required."
  | missingRoot path => "Directory does not exist: " ++ path
  | filter error => error.message
  | file error => error.message

end Failure

end Outline
