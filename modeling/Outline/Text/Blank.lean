set_option autoImplicit false

/-!
# Blanks and line breaks

The blanks are the characters of the Unicode property White_Space together with the four
information separators. Some of them also end a line.
-/
namespace Outline.Text

def isBlankCode (code : Nat) : Bool :=
  (0x09 ≤ code && code ≤ 0x0D) || (0x1C ≤ code && code ≤ 0x20) || code == 0x85 || code == 0xA0 ||
    code == 0x1680 || (0x2000 ≤ code && code ≤ 0x200A) || code == 0x2028 || code == 0x2029 ||
    code == 0x202F || code == 0x205F || code == 0x3000

def isBlank (c : Char) : Bool := isBlankCode c.toNat

def isLineBreak (c : Char) : Bool :=
  let code := c.toNat
  (0x0A ≤ code && code ≤ 0x0D) || (0x1C ≤ code && code ≤ 0x1E) || code == 0x85 ||
    code == 0x2028 || code == 0x2029

theorem isBlank_of_isLineBreak {c : Char} (h : isLineBreak c = true) : isBlank c = true := by
  simp only [isLineBreak, isBlank, isBlankCode, Bool.or_eq_true, Bool.and_eq_true,
    decide_eq_true_eq, beq_iff_eq] at h ⊢
  omega

def trimBlank (chars : List Char) : List Char :=
  ((chars.dropWhile isBlank).reverse.dropWhile isBlank).reverse

/-- Splits at line breaks, a carriage return followed by a line feed being one of them; the lines
gathered so far and the current line are reversed. Text after the last break is a line if there is
any. -/
def splitLinesFrom : List (List Char) → List Char → List Char → List (List Char)
  | lines, [], [] => lines.reverse
  | lines, line, [] => (line.reverse :: lines).reverse
  | lines, line, '\r' :: '\n' :: rest => splitLinesFrom (line.reverse :: lines) [] rest
  | lines, line, c :: rest =>
    if isLineBreak c then splitLinesFrom (line.reverse :: lines) [] rest
    else splitLinesFrom lines (c :: line) rest

def splitLines (chars : List Char) : List (List Char) := splitLinesFrom [] [] chars

/-- The maximal runs of characters that are no blanks, given the reversed current run. -/
def wordsFrom : List Char → List Char → List (List Char)
  | [], [] => []
  | run, [] => [run.reverse]
  | run, c :: rest =>
    if isBlank c then
      if run.isEmpty then wordsFrom [] rest else run.reverse :: wordsFrom [] rest
    else wordsFrom (c :: run) rest

end Outline.Text
