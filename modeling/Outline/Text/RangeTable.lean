set_option autoImplicit false

/-!
# Sets of code points as ranges

A character property is a list of inclusive ranges of code points in increasing order.
-/
namespace Outline.Text

/-- Inclusive ranges of code points, in increasing order. -/
abbrev RangeTable := List (Nat × Nat)

namespace RangeTable

def contains : RangeTable → Nat → Bool
  | [], _ => false
  | (first, last) :: rest, code =>
    if code < first then false else if code ≤ last then true else contains rest code

end RangeTable

end Outline.Text
