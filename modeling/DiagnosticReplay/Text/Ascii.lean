/-! # ASCII case and hexadecimal digits

Names are compared up to ASCII case only: letters outside ASCII are never folded, whatever case
they have. Hexadecimal digits are written in either case and read in both.
-/

namespace DiagnosticReplay.Text

/-- The text with the letters `A` to `Z` in lower case and all else as it is. -/
def foldCase (text : String) : String :=
  String.ofList (text.toList.map Char.toLower)

/-- The lower-case hexadecimal digit of a value below sixteen. -/
def lowerHexDigit (value : Nat) : Char :=
  Char.ofNat (if value < 10 then 48 + value else 87 + value)

/-- The upper-case hexadecimal digit of a value below sixteen. -/
def upperHexDigit (value : Nat) : Char :=
  Char.ofNat (if value < 10 then 48 + value else 55 + value)

/-- The value of a hexadecimal digit of either case. -/
def hexValue? (digit : Char) : Option Nat :=
  let code := digit.toNat
  if 48 ≤ code ∧ code ≤ 57 then some (code - 48)
  else if 65 ≤ code ∧ code ≤ 70 then some (code - 55)
  else if 97 ≤ code ∧ code ≤ 102 then some (code - 87)
  else none

/-- A number in lower-case hexadecimal, without leading zeros. -/
def lowerHex (value : Nat) : List Char :=
  if value < 16 then [lowerHexDigit value]
  else lowerHex (value / 16) ++ [lowerHexDigit (value % 16)]

/-- A digit of either case is read as the value that it was written for. -/
theorem hexValue?_digits : ∀ value < 16, hexValue? (lowerHexDigit value) = some value ∧
    hexValue? (upperHexDigit value) = some value := by
  decide

end DiagnosticReplay.Text
