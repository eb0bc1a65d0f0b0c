set_option autoImplicit false

/-!
# UTF-8 with replacement

Decoding never fails. A byte sequence that is no character is replaced, one U+FFFD for each maximal
run of bytes that begins a character but does not complete it, and one for each byte that begins
none. Overlong forms, surrogates and code points above U+10FFFF are ruled out by the range of the
second byte.
-/
namespace Outline.Text.Utf8

def replacement : Char := '\uFFFD'

/-- A character begun: the bits read, the number of bytes missing (at least one), and the range
that the next byte has to lie in. -/
structure Pending where
  bits : Nat
  missing : Nat
  low : Nat
  high : Nat
deriving Repr, DecidableEq

inductive Lead where
  | ascii
  | opens (pending : Pending)
  | invalid
deriving Repr, DecidableEq

def lead (byte : Nat) : Lead :=
  if byte < 0x80 then .ascii
  else if byte < 0xC2 then .invalid
  else if byte < 0xE0 then .opens ⟨byte - 0xC0, 1, 0x80, 0xBF⟩
  else if byte < 0xF0 then
    .opens ⟨byte - 0xE0, 2, if byte = 0xE0 then 0xA0 else 0x80, if byte = 0xED then 0x9F else 0xBF⟩
  else if byte < 0xF5 then
    .opens ⟨byte - 0xF0, 3, if byte = 0xF0 then 0x90 else 0x80, if byte = 0xF4 then 0x8F else 0xBF⟩
  else .invalid

/-- The decoder between two bytes: the character begun, if any, and the reversed output. -/
structure State where
  pending : Option Pending := none
  output : List Char := []

def State.start (output : List Char) (byte : Nat) : State :=
  match lead byte with
  | .ascii => ⟨none, Char.ofNat byte :: output⟩
  | .opens pending => ⟨some pending, output⟩
  | .invalid => ⟨none, replacement :: output⟩

def State.step (state : State) (byte : UInt8) : State :=
  match state.pending with
  | none => State.start state.output byte.toNat
  | some p =>
    if p.low ≤ byte.toNat ∧ byte.toNat ≤ p.high then
      let bits := 64 * p.bits + (byte.toNat - 0x80)
      if p.missing = 1 then ⟨none, Char.ofNat bits :: state.output⟩
      else ⟨some ⟨bits, p.missing - 1, 0x80, 0xBF⟩, state.output⟩
    else State.start (replacement :: state.output) byte.toNat

/-- The text read, where a character left open is replaced. -/
def State.finish (state : State) : List Char :=
  match state.pending with
  | none => state.output.reverse
  | some _ => (replacement :: state.output).reverse

def decode (bytes : List UInt8) : List Char := (bytes.foldl State.step {}).finish

def encode (chars : List Char) : List UInt8 := chars.flatMap String.utf8EncodeChar

/-- The text between two byte offsets; empty when they are reversed, short when they run past the
end. -/
def slice (bytes : List UInt8) (start stop : Nat) : String :=
  String.ofList (decode ((bytes.drop start).take (stop - start)))

def byteOrderMark : List UInt8 := [0xEF, 0xBB, 0xBF]

end Outline.Text.Utf8
