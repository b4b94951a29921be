import DiagnosticReplay.Text.Ascii
import DiagnosticReplay.Text.Unprintable
import DiagnosticReplay.Text.GraphemeExtend

/-! # Quoted text

A text between double quotes in which every character can be seen: a quote, a backslash and the
common controls are written as a backslash and a letter, and any other character that cannot be
printed or that extends the grapheme before it as its code point in braces. A text between
backquotes, by contrast, is shown as it is.
-/

namespace DiagnosticReplay.Text

namespace Quoted

/-- A character as it stands between the quotes. -/
def encodeChar (character : Char) : List Char :=
  match character with
  | '\x00' => ['\\', '0']
  | '\t' => ['\\', 't']
  | '\r' => ['\\', 'r']
  | '\n' => ['\\', 'n']
  | '"' => ['\\', '"']
  | '\\' => ['\\', '\\']
  | _ =>
    if isGraphemeExtend character || isUnprintable character then
      ['\\', 'u', '\x7b'] ++ lowerHex character.toNat ++ ['\x7d']
    else [character]

/-- The text in quotes. -/
def encode (text : String) : String :=
  String.ofList ('"' :: text.toList.flatMap encodeChar ++ ['"'])

end Quoted

/-- The text between backquotes, as it is. -/
def backquoted (text : String) : String :=
  "`" ++ text ++ "`"

end DiagnosticReplay.Text
