/-! # Flags

A pattern can set flags for the rest of a group, or for a group of their own. Two of them decide
whether a text is a pattern.
-/

namespace DiagnosticReplay.Pattern

/-- The flags that decide what is a pattern. -/
structure Flags where
  /-- White space and comments may stand between the parts of a pattern. -/
  spaced : Bool := false
  /-- The pattern is about characters and not about bytes. -/
  unicode : Bool := true
deriving DecidableEq, Repr

namespace Flags

/-- The letters of flags, and the dash that comes before the flags that are taken away. -/
def letters : List Char :=
  "imsURux-".toList

/-- What some letters, in their order, do to one flag. -/
def setting (letters : List Char) (letter : Char) (value : Bool) : Bool :=
  if (letters.takeWhile (· != '-')).contains letter then true
  else if letters.contains letter then false
  else value

/-- Set and take away flags. -/
def apply (flags : Flags) (letters : List Char) : Flags where
  spaced := setting letters 'x' flags.spaced
  unicode := setting letters 'u' flags.unicode

end Flags

/-- A character that a pattern asks for. -/
structure Literal where
  character : Char
  /-- It is written by a code of two digits. In a pattern about bytes this is the code of a byte. -/
  isByte : Bool := false
deriving DecidableEq, Repr

namespace Flags

/-- The literal may stand outside of classes. A byte must not break the encoding of a text. -/
def admits (flags : Flags) (literal : Literal) : Bool :=
  flags.unicode || !literal.isByte || literal.character.toNat < 128

/-- The literal may stand in a class. A class of bytes holds only ASCII. -/
def admitsInClass (flags : Flags) (literal : Literal) : Bool :=
  flags.unicode || literal.character.toNat < 128

/-- A kind of characters may be asked for, or all others if `negated`. In a pattern about bytes the
others break the encoding of a text. -/
def admitsKind (flags : Flags) (negated : Bool) : Bool :=
  flags.unicode || !negated

end Flags

end DiagnosticReplay.Pattern
