set_option autoImplicit false

/-!
# Numbers written with a fraction or an exponent

A literal denotes a decimal number. `Decimal.round` gives the nearest number of binary64, a tie
going to the even significand; a decimal too large for it has none.
-/
namespace Outline.Json

/-- A decimal number `±mantissa · 10^exponent`. -/
structure Decimal where
  negative : Bool
  mantissa : Nat
  exponent : Int
deriving Repr, DecidableEq

/-- A number `±significand · 2^exponent`. -/
structure Binary where
  negative : Bool
  significand : Nat
  exponent : Int
deriving Repr, DecidableEq

namespace Decimal

/-- The digits at the front, their number and their value, and what follows. -/
def takeDigits (chars : List Char) : Nat × Nat × List Char :=
  let digits := chars.takeWhile Char.isDigit
  (digits.length, digits.foldl (fun n c => 10 * n + (c.toNat - 0x30)) 0,
    chars.dropWhile Char.isDigit)

def readExponent : List Char → Int
  | 'e' :: '-' :: rest | 'E' :: '-' :: rest => -((takeDigits rest).2.1 : Int)
  | 'e' :: '+' :: rest | 'E' :: '+' :: rest => (takeDigits rest).2.1
  | 'e' :: rest | 'E' :: rest => (takeDigits rest).2.1
  | _ => 0

/-- Reads a literal; the special numbers are none. -/
def ofLiteral? (literal : String) : Option Decimal :=
  let (negative, chars) := match literal.toList with
    | '-' :: rest => (true, rest)
    | rest => (false, rest)
  match takeDigits chars with
  | (0, _, _) => none
  | (_, whole, '.' :: rest) =>
    let (places, fraction, after) := takeDigits rest
    some ⟨negative, whole * Nat.pow 10 places + fraction, readExponent after - places⟩
  | (_, whole, after) => some ⟨negative, whole, readExponent after⟩

/-- The integer nearest to a quotient, the even one of two. -/
def nearest (num den : Nat) : Nat :=
  let quotient := num / den
  let rest := 2 * (num % den)
  if rest < den then quotient
  else if den < rest then quotient + 1
  else quotient + quotient % 2

/-- The exponent of the last place of binary64 at a positive quotient. -/
def lastPlace (num den : Nat) : Int :=
  let guess : Int := num.log2 - den.log2
  let below : Bool :=
    if 0 ≤ guess then num < den * Nat.pow 2 guess.toNat
    else num * Nat.pow 2 (-guess).toNat < den
  max (-1074) (guess - (if below then 1 else 0) - 52)

def roundQuotient (negative : Bool) (num den : Nat) : Option Binary :=
  let place := lastPlace num den
  let significand :=
    if 0 ≤ place then nearest num (den * Nat.pow 2 place.toNat)
    else nearest (num * Nat.pow 2 (-place).toNat) den
  if 971 < place ∨ (place = 971 ∧ Nat.pow 2 53 ≤ significand) then none
  else some ⟨negative, significand, place⟩

/-- The nearest number of binary64; none if the magnitude is too large. -/
def round (d : Decimal) : Option Binary :=
  let magnitude : Int := d.exponent + (Nat.toDigits 10 d.mantissa).length
  if d.mantissa = 0 ∨ magnitude < -330 then some ⟨d.negative, 0, 0⟩
  else if 310 < magnitude then none
  else if 0 ≤ d.exponent then roundQuotient d.negative (d.mantissa * Nat.pow 10 d.exponent.toNat) 1
  else roundQuotient d.negative d.mantissa (Nat.pow 10 (-d.exponent).toNat)

end Decimal

namespace Binary

def toInt? (b : Binary) : Option Int :=
  let magnitude : Option Nat :=
    if 0 ≤ b.exponent then some (b.significand * Nat.pow 2 b.exponent.toNat)
    else
      let unit := Nat.pow 2 (-b.exponent).toNat
      if b.significand % unit = 0 then some (b.significand / unit) else none
  magnitude.map fun n => if b.negative then -(n : Int) else n

end Binary

end Outline.Json
