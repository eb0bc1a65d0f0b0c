import Outline.Text.Utf8

set_option autoImplicit false

/-!
# The text of a source file

A file's bytes are read as UTF-8 with replacements. One byte order mark in front is dropped, and so
is a file that ends inside it. Every carriage return, with a line feed right after it or without,
becomes a line feed.
-/
namespace Outline.Text

/-- Turns both other line endings into line feeds, on a reversed accumulator. -/
def unifyNewlinesFrom : List Char → List Char → List Char
  | result, [] => result.reverse
  | result, '\r' :: '\n' :: rest => unifyNewlinesFrom ('\n' :: result) rest
  | result, '\r' :: rest => unifyNewlinesFrom ('\n' :: result) rest
  | result, c :: rest => unifyNewlinesFrom (c :: result) rest

def unifyNewlines (chars : List Char) : List Char := unifyNewlinesFrom [] chars

/-- The bytes after a byte order mark; a file that ends inside the mark has none. -/
def dropByteOrderMark (bytes : List UInt8) : List UInt8 :=
  if bytes.length < 3 ∧ bytes.isPrefixOf Utf8.byteOrderMark then []
  else if Utf8.byteOrderMark.isPrefixOf bytes then bytes.drop 3
  else bytes

def sourceText (bytes : List UInt8) : String :=
  String.ofList (unifyNewlines (Utf8.decode (dropByteOrderMark bytes)))

end Outline.Text
