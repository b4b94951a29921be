import DiagnosticReplay.Text.Ascii

/-! # Log levels

A level says how much of the log is written. It is written as a name, in any ASCII case, or as a
number.
-/

namespace DiagnosticReplay

/-- How much of the log is written. -/
inductive LogLevel where
  | off
  | error
  | warn
  | info
  | debug
  | trace
deriving DecidableEq, Repr

namespace LogLevel

/-- The level of a name, in any ASCII case. -/
def ofName? (text : String) : Option LogLevel :=
  let names : List (String × LogLevel) :=
    [("off", off), ("error", error), ("warn", warn), ("info", info), ("debug", debug),
      ("trace", trace)]
  names.lookup (Text.foldCase text)

/-- The level of a number. Nothing but one digit counts after the leading zeros. -/
def ofDigits? (digits : List Char) : Option LogLevel :=
  match digits, digits.dropWhile (· == '0') with
  | _ :: _, [] => some off
  | _, ['1'] => some error
  | _, ['2'] => some warn
  | _, ['3'] => some info
  | _, ['4'] => some debug
  | _, ['5'] => some trace
  | _, _ => none

/-- The level of a name or a number, which may have a plus sign. -/
def ofText? (text : String) : Option LogLevel :=
  let number :=
    match text.toList with
    | '+' :: digits => ofDigits? digits
    | digits => ofDigits? digits
  number <|> ofName? text

/-- The level lets events for debugging through. -/
def admitsDebug : LogLevel → Bool
  | debug => true
  | trace => true
  | _ => false

end LogLevel

end DiagnosticReplay
