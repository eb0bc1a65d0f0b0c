import Outline.Text.CharacterBlock

set_option autoImplicit false

/-!
# Names of characters

A character is looked up by its name, in any case of ASCII letters. The names of ideographs and of
Hangul syllables follow from their code points; they are written in capitals.
-/
namespace Outline

namespace Text

namespace CharacterBlock

def find? (b : CharacterBlock) (name : String) : Option Nat :=
  if name.isEmpty then none else (b.names.findIdx? (· == name)).map (b.first + ·)

end CharacterBlock

def ideographs : List (Nat × Nat) :=
  [(0x3400, 0x4DBF), (0x4E00, 0x9FFF), (0x20000, 0x2A6DF), (0x2A700, 0x2B738), (0x2B740, 0x2B81D),
    (0x2B820, 0x2CEA1), (0x2CEB0, 0x2EBE0), (0x30000, 0x3134A)]

def capitalHex? (digits : List Char) : Option Nat :=
  digits.foldl (fun acc c => do
    let n ← acc
    if c.isDigit then some (16 * n + (c.toNat - 0x30))
    else if 'A' ≤ c && c ≤ 'F' then some (16 * n + (c.toNat - 0x37))
    else none) (some 0)

def behind? (beginning text : String) : Option (List Char) :=
  if beginning.toList.isPrefixOf text.toList then some (text.toList.drop beginning.length) else none

def ideographNamed? (name : String) : Option Nat := do
  let digits ← behind? "CJK UNIFIED IDEOGRAPH-" name
  let code ← capitalHex? digits
  if (digits.length = 4 ∨ digits.length = 5) ∧ ideographs.any fun r => r.1 ≤ code && code ≤ r.2 then
    some code
  else none

def leadingSounds : List String :=
  ["G", "GG", "N", "D", "DD", "R", "M", "B", "BB", "S", "SS", "", "J", "JJ", "C", "K", "T", "P",
    "H"]

def vowelSounds : List String :=
  ["A", "AE", "YA", "YAE", "EO", "E", "YEO", "YE", "O", "WA", "WAE", "OE", "YO", "U", "WEO", "WE",
    "WI", "YU", "EU", "YI", "I"]

def trailingSounds : List String :=
  ["", "G", "GG", "GS", "N", "NJ", "NH", "D", "L", "LG", "LM", "LB", "LS", "LT", "LP", "LH", "M",
    "B", "BS", "S", "SS", "NG", "J", "C", "K", "T", "P", "H"]

/-- The longest of some sounds that a text begins with: its index and what follows. -/
def takeSound? (sounds : List String) (chars : List Char) : Option (Nat × List Char) :=
  (sounds.zipIdx.foldl (fun best (sound, index) =>
    if sound.toList.isPrefixOf chars && (best.all fun b : String × Nat => b.1.length < sound.length)
    then some (sound, index) else best) none).map fun (sound, index) =>
      (index, chars.drop sound.length)

def syllableNamed? (name : String) : Option Nat := do
  let sounds ← behind? "HANGUL SYLLABLE " name
  let (leading, sounds) ← takeSound? leadingSounds sounds
  let (vowel, sounds) ← takeSound? vowelSounds sounds
  let (trailing, sounds) ← takeSound? trailingSounds sounds
  if sounds.isEmpty then some (0xAC00 + (leading * 21 + vowel) * 28 + trailing) else none

def characterNamed? (name : String) : Option Nat :=
  let capitals := String.ofList (name.toList.map Char.toUpper)
  ideographNamed? name <|> syllableNamed? name <|> CharacterBlock.others.lookup capitals <|>
    CharacterBlock.all.findSome? (·.find? capitals)

end Text

/-- The names that patterns can call characters by. They grow with every version of Unicode; the
instance knows those of the usual blocks. -/
class CharacterNames where
  named? : String → Option Nat

instance : CharacterNames := ⟨Text.characterNamed?⟩

end Outline
