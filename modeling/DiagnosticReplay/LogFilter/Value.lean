import DiagnosticReplay.Text.Ascii
import DiagnosticReplay.Pattern

/-! # Field values

A directive can ask for a value of a field. The value is a number or a pattern.
-/

namespace DiagnosticReplay.LogFilter

/-- The text is a number without a sign: decimal, with a digit before or after the point, or one of
the names for what is no finite number. -/
def isUnsignedNumber (text : List Char) : Bool :=
  let afterWhole := text.dropWhile Char.isDigit
  let afterPoint :=
    match afterWhole with
    | '.' :: fraction => fraction.dropWhile Char.isDigit
    | _ => afterWhole
  let hasDigit := (text.take (text.length - afterPoint.length)).any Char.isDigit
  let exponent :=
    match afterPoint with
    | mark :: '+' :: digits => mark :: digits
    | mark :: '-' :: digits => mark :: digits
    | _ => afterPoint
  let hasExponent :=
    match exponent with
    | [] => true
    | mark :: digits => mark.toLower == 'e' && !digits.isEmpty && digits.all Char.isDigit
  hasDigit && hasExponent
    || ["inf", "infinity", "nan"].contains (Text.foldCase (String.ofList text))

/-- What is wrong with the value of a field. A value is a pattern, and every number without a plus
sign is one. -/
def valueFault? (value : List Char) : Option Pattern.Fault :=
  match value with
  | '+' :: number => if isUnsignedNumber number then none else some .malformed
  | _ => Pattern.fault? value

end DiagnosticReplay.LogFilter
