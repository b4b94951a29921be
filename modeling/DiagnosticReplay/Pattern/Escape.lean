/-! # Escapes

What a backslash and a character after it stand for in a pattern.
-/

namespace DiagnosticReplay.Pattern

/-- What a backslash and a character stand for. -/
inductive Escape where
  /-- One character. -/
  | single (character : Char)
  /-- Digits, white space or the characters of words, or if `negated` all others. -/
  | kind (negated : Bool)
  /-- The character whose code follows in hexadecimal digits. -/
  | code (digits : Nat)
  /-- The characters with a property that is named next. -/
  | property
  /-- The start or the end of the text. -/
  | edge
  /-- The start or the end of a word, or any other place. -/
  | wordBoundary
deriving DecidableEq, Repr

namespace Escape

/-- Letters and digits stand for something of their own or for nothing. Every other ASCII character
stands for itself, apart from the two angle brackets. -/
def ofChar? (character : Char) : Option Escape :=
  match character with
  | 'a' => some (single '\x07')
  | 'f' => some (single '\x0c')
  | 't' => some (single '\t')
  | 'n' => some (single '\n')
  | 'r' => some (single '\r')
  | 'v' => some (single '\x0b')
  | 'd' => some (kind false)
  | 's' => some (kind false)
  | 'w' => some (kind false)
  | 'D' => some (kind true)
  | 'S' => some (kind true)
  | 'W' => some (kind true)
  | 'x' => some (code 2)
  | 'u' => some (code 4)
  | 'U' => some (code 8)
  | 'p' => some property
  | 'P' => some property
  | 'A' => some edge
  | 'z' => some edge
  | 'b' => some wordBoundary
  | 'B' => some wordBoundary
  | '<' => some wordBoundary
  | '>' => some wordBoundary
  | _ => if character.toNat < 128 && !character.isAlphanum then some (single character) else none

end Escape

/-- The properties that have a name of one letter: the major categories of characters. -/
def isPropertyLetter (character : Char) : Bool :=
  "CLMNPSZ".toList.contains character.toUpper

end DiagnosticReplay.Pattern
