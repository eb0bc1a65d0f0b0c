import Outline.Text.Blank

set_option autoImplicit false

/-!
# Decimal digits and written integers

Every decimal digit of Unicode 14 stands in a block of ten consecutive code points, zero first. An
integer is written with such digits, a single underscore allowed between two of them, an optional
sign in front and blanks around it.
-/
namespace Outline.Text

def digitZeros : List Nat :=
  [0x30, 0x660, 0x6F0, 0x7C0, 0x966, 0x9E6, 0xA66, 0xAE6, 0xB66, 0xBE6, 0xC66, 0xCE6, 0xD66,
   0xDE6, 0xE50, 0xED0, 0xF20, 0x1040, 0x1090, 0x17E0, 0x1810, 0x1946, 0x19D0, 0x1A80, 0x1A90,
   0x1B50, 0x1BB0, 0x1C40, 0x1C50, 0xA620, 0xA8D0, 0xA900, 0xA9D0, 0xA9F0, 0xAA50, 0xABF0,
   0xFF10, 0x104A0, 0x10D30, 0x11066, 0x110F0, 0x11136, 0x111D0, 0x112F0, 0x11450, 0x114D0,
   0x11650, 0x116C0, 0x11730, 0x118E0, 0x11950, 0x11C50, 0x11D50, 0x11DA0, 0x16A60, 0x16AC0,
   0x16B50, 0x1D7CE, 0x1D7D8, 0x1D7E2, 0x1D7EC, 0x1D7F6, 0x1E140, 0x1E2F0, 0x1E950, 0x1FBF0]

def digitValue? (code : Nat) : Option Nat :=
  (digitZeros.find? fun first => first ≤ code && code < first + 10).map (code - ·)

def isDigit (code : Nat) : Bool := (digitValue? code).isSome

def maxDigits : Nat := 4300

/-- The digits of a written number, or nothing if a digit is missing beside an underscore. -/
def digitRun? : List Char → Option (List Nat)
  | [] => none
  | [c] => (digitValue? c.toNat).map ([·])
  | c :: '_' :: rest => do
    let d ← digitValue? c.toNat
    let ds ← digitRun? rest
    pure (d :: ds)
  | c :: rest => do
    let d ← digitValue? c.toNat
    let ds ← digitRun? rest
    pure (d :: ds)

/-- The number with the given decimal digits, most significant first. -/
def ofDigits (ds : List Nat) : Nat := ds.foldl (fun n d => 10 * n + d) 0

/-- Reads an integer: blanks around it, an optional sign, digits with single underscores between
them, at most `maxDigits` of them. -/
def readInt? (text : String) : Option Int := do
  let (negative, body) := match trimBlank text.toList with
    | '-' :: rest => (true, rest)
    | '+' :: rest => (false, rest)
    | rest => (false, rest)
  let ds ← digitRun? body
  if maxDigits < ds.length then none
  else
    let n : Int := (ofDigits ds : Nat)
    pure (if negative then -n else n)

end Outline.Text
