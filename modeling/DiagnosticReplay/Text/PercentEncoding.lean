import DiagnosticReplay.Text.Ascii

/-! # Percent encoding

The text of a URI path is ASCII: every byte of a UTF-8 text that may not stand in a path is written
as a percent sign and two upper-case hexadecimal digits. The percent sign itself stays as it is, so
a text that already looks encoded is not encoded again. Decoding replaces each percent sign with
two hexadecimal digits after it by the byte they name.
-/

namespace DiagnosticReplay.Text.PercentEncoding

/-- The ASCII characters that are written encoded although they can be printed. -/
def reserved : List Char := [' ', '"', '<', '>', '\x60', '#', '?', '\x7b', '\x7d']

/-- A byte that may not stand in a path: a control, a reserved character, or outside ASCII. -/
def mustEncode (byte : UInt8) : Bool :=
  byte < 0x20 || 0x7f ≤ byte || reserved.contains (Char.ofNat byte.toNat)

/-- A byte as it stands in a path. -/
def encodeByte (byte : UInt8) : List Char :=
  if mustEncode byte then
    ['%', upperHexDigit (byte.toNat / 16), upperHexDigit (byte.toNat % 16)]
  else [Char.ofNat byte.toNat]

/-- A character as it stands in a path: each byte of its UTF-8 form by itself. -/
def encodeChar (character : Char) : List Char :=
  (String.utf8EncodeChar character).flatMap encodeByte

/-- A text as it stands in a path. -/
def encode (text : List Char) : List Char :=
  text.flatMap encodeChar

/-- The bytes that an encoded text stands for. -/
def decode : List Char → List UInt8
  | [] => []
  | '%' :: high :: low :: rest =>
    match hexValue? high, hexValue? low with
    | some upper, some lower => UInt8.ofNat (16 * upper + lower) :: decode rest
    | _, _ => String.utf8EncodeChar '%' ++ decode (high :: low :: rest)
  | character :: rest => String.utf8EncodeChar character ++ decode rest
termination_by text => text.length

end DiagnosticReplay.Text.PercentEncoding
