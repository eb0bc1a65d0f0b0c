import Outline.Json.Basic
import Outline.Text.Digit

set_option autoImplicit false

/-!
# Reading JSON

A reader works on the characters that are left and keeps the offset of the first of them. What it
refuses, it refuses at an offset, with a message of its own. Besides the grammar of JSON it takes
the numbers `NaN`, `Infinity` and `-Infinity`, and the last of several equal keys counts.
-/
namespace Outline.Json

inductive ReadError where
  /-- The grammar is broken at an offset. -/
  | malformed (message : String) (offset : Nat)
  /-- An integer is written with too many digits. -/
  | hugeInteger
deriving Repr, DecidableEq

/-- The characters that are left and the offset of the first of them. -/
structure Rest where
  chars : List Char
  offset : Nat

namespace Rest

def skip (r : Rest) (n : Nat) : Rest := ⟨r.chars.drop n, r.offset + n⟩

def isSpace (c : Char) : Bool := c == ' ' || c == '\t' || c == '\n' || c == '\r'

def skipSpace (r : Rest) : Rest := r.skip (r.chars.takeWhile isSpace).length

end Rest

def hexValue? (digits : List Char) : Option Nat :=
  if digits.length = 4 then
    digits.foldl (fun acc c => do
      let n ← acc
      let d ← digit? c
      pure (16 * n + d)) (some 0)
  else none
where
  digit? (c : Char) : Option Nat :=
    if c.isDigit then some (c.toNat - 0x30)
    else if 'a' ≤ c && c ≤ 'f' then some (c.toNat - 0x57)
    else if 'A' ≤ c && c ≤ 'F' then some (c.toNat - 0x37)
    else none

def simpleEscape? : Char → Option Char
  | '"' => some '"'
  | '\\' => some '\\'
  | '/' => some '/'
  | 'b' => some '\x08'
  | 'f' => some '\x0c'
  | 'n' => some '\n'
  | 'r' => some '\r'
  | 't' => some '\t'
  | _ => none

/-- An escape with four digits, whose offset is that of its letter; a leading surrogate takes a
trailing one that follows as an escape of its own. -/
def readCodeEscape (r : Rest) : Except ReadError (Char × Rest) :=
  let malformed : ReadError := .malformed "Invalid \\uXXXX escape" r.offset
  let after := r.skip 1
  if after.chars.length ≤ 4 then .error malformed
  else match hexValue? (after.chars.take 4) with
    | none => .error malformed
    | some code =>
      let rest := after.skip 4
      if 0xD800 ≤ code && code ≤ 0xDBFF && 6 < rest.chars.length &&
          rest.chars.take 2 == ['\\', 'u'] then
        match hexValue? ((rest.chars.drop 2).take 4) with
        | none => .error (.malformed "Invalid \\uXXXX escape" (rest.offset + 1))
        | some trail =>
          if 0xDC00 ≤ trail && trail ≤ 0xDFFF then
            .ok (Char.ofNat (0x10000 + (code - 0xD800) * 0x400 + (trail - 0xDC00)), rest.skip 6)
          else .ok ('\uFFFD', rest)
      else if 0xD800 ≤ code && code ≤ 0xDFFF then .ok ('\uFFFD', rest)
      else .ok (Char.ofNat code, rest)

/-- A string after its opening quote, which stood at `start`; the text so far is reversed. The fuel
bounds the number of steps. -/
def readStringFrom (start : Nat) : Nat → List Char → Rest → Except ReadError (String × Rest)
  | 0, _, _ => .error (.malformed "Unterminated string starting at" start)
  | fuel + 1, text, r =>
    match r.chars with
    | [] => .error (.malformed "Unterminated string starting at" start)
    | '"' :: _ => .ok (String.ofList text.reverse, r.skip 1)
    | '\\' :: [] => .error (.malformed "Unterminated string starting at" start)
    | '\\' :: 'u' :: _ =>
      match readCodeEscape (r.skip 1) with
      | .error e => .error e
      | .ok (c, rest) => readStringFrom start fuel (c :: text) rest
    | '\\' :: letter :: _ =>
      match simpleEscape? letter with
      | some c => readStringFrom start fuel (c :: text) (r.skip 2)
      | none => .error (.malformed "Invalid \\escape" r.offset)
    | c :: _ =>
      if c.toNat ≤ 0x1F then .error (.malformed "Invalid control character at" r.offset)
      else readStringFrom start fuel (c :: text) (r.skip 1)

def readString (r : Rest) : Except ReadError (String × Rest) :=
  readStringFrom r.offset r.chars.length [] (r.skip 1)

/-- The length of the fraction at the front of a text, zero if there is none. -/
def fractionLength : List Char → Nat
  | '.' :: rest =>
    let digits := (rest.takeWhile Char.isDigit).length
    if digits = 0 then 0 else digits + 1
  | _ => 0

/-- The length of the exponent at the front of a text, zero if there is none. -/
def exponentLength : List Char → Nat
  | c :: rest =>
    if c == 'e' || c == 'E' then
      let sign := match rest with
        | '+' :: _ | '-' :: _ => 1
        | _ => 0
      let digits := ((rest.drop sign).takeWhile Char.isDigit).length
      if digits = 0 then 0 else 1 + sign + digits
    else 0
  | [] => 0

/-- A number; without digits, a value is missing. -/
def readNumber (r : Rest) : Except ReadError (Json × Rest) :=
  let sign := if r.chars.head? == some '-' then 1 else 0
  let body := r.chars.drop sign
  let whole := match body with
    | '0' :: _ => 1
    | _ => (body.takeWhile Char.isDigit).length
  if whole = 0 then .error (.malformed "Expecting value" r.offset)
  else
    let after := body.drop whole
    let fraction := fractionLength after
    let size := whole + fraction + exponentLength (after.drop fraction)
    let literal := r.chars.take (sign + size)
    let rest := r.skip (sign + size)
    if size = whole then
      if Text.maxDigits < whole then .error .hugeInteger
      else
        let n : Int := ((body.take whole).foldl (fun n c => 10 * n + (c.toNat - 0x30)) 0 : Nat)
        .ok (.int (if sign = 1 then -n else n), rest)
    else .ok (.float (String.ofList literal), rest)

def words : List (String × Json) :=
  [("null", .null), ("true", .bool true), ("false", .bool false), ("NaN", .float "NaN"),
    ("Infinity", .float "Infinity"), ("-Infinity", .float "-Infinity")]

def readScalar (r : Rest) : Except ReadError (Json × Rest) :=
  match words.find? fun w => w.1.toList.isPrefixOf r.chars with
  | some (word, value) => .ok (value, r.skip word.length)
  | none => readNumber r

mutual

/-- A value, with a bound on the number of nested steps. -/
def readValue : Nat → Rest → Except ReadError (Json × Rest)
  | 0, r => .error (.malformed "Expecting value" r.offset)
  | fuel + 1, r =>
    match r.chars with
    | [] => .error (.malformed "Expecting value" r.offset)
    | '"' :: _ => do
      let (text, rest) ← readString r
      pure (.string text, rest)
    | '[' :: _ =>
      let inner := (r.skip 1).skipSpace
      if inner.chars.head? == some ']' then .ok (.array [], inner.skip 1)
      else readItems fuel [] inner
    | '{' :: _ =>
      let inner := (r.skip 1).skipSpace
      if inner.chars.head? == some '}' then .ok (.object [], inner.skip 1)
      else readFields fuel [] inner
    | _ => readScalar r

/-- The items of an array from the next one on; those before it are reversed. -/
def readItems : Nat → List Json → Rest → Except ReadError (Json × Rest)
  | 0, _, r => .error (.malformed "Expecting value" r.offset)
  | fuel + 1, items, r => do
    let (item, rest) ← readValue fuel r
    let rest := rest.skipSpace
    match rest.chars with
    | ']' :: _ => pure (.array (item :: items).reverse, rest.skip 1)
    | ',' :: _ => readItems fuel (item :: items) (rest.skip 1).skipSpace
    | _ => .error (.malformed "Expecting ',' delimiter" rest.offset)

def readFields : Nat → List (String × Json) → Rest → Except ReadError (Json × Rest)
  | 0, _, r => .error (.malformed "Expecting value" r.offset)
  | fuel + 1, fields, r =>
    if r.chars.head? != some '"' then
      .error (.malformed "Expecting property name enclosed in double quotes" r.offset)
    else do
      let (key, rest) ← readString r
      let rest := rest.skipSpace
      if rest.chars.head? != some ':' then
        .error (.malformed "Expecting ':' delimiter" rest.offset)
      else
        let (value, rest) ← readValue fuel (rest.skip 1).skipSpace
        let rest := rest.skipSpace
        let fields := setField fields key value
        match rest.chars with
        | '}' :: _ => pure (.object fields, rest.skip 1)
        | ',' :: _ => readFields fuel fields (rest.skip 1).skipSpace
        | _ => .error (.malformed "Expecting ',' delimiter" rest.offset)

end

def read (text : String) : Except ReadError Json := do
  let chars := text.toList
  let (value, rest) ← readValue (2 * chars.length + 2) (Rest.skipSpace ⟨chars, 0⟩)
  let rest := rest.skipSpace
  if rest.chars.isEmpty then pure value
  else .error (.malformed "Extra data" rest.offset)

end Outline.Json
