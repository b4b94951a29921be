import DiagnosticReplay.Operator
import DiagnosticReplay.Token

/-! # Token data

What a scanned token brings along when a diagnostic names it: its kind, the operator of an operator
token or a compound assignment, and the literal text of a keyword, an identifier or a string.
-/

namespace DiagnosticReplay

/-- A scanned token as a diagnostic holds it. -/
structure TokenData where
  kind : Token
  operator : Option Operator := none
  stringValue : String := ""
deriving DecidableEq, Repr

namespace TokenData

/-- The data of an operator token. -/
def ofOperator (operator : Operator) : TokenData :=
  { kind := .operator, operator := some operator }

/-- The data of a compound assignment with an operator. -/
def ofCompoundAssignment (operator : Operator) : TokenData :=
  { kind := .compoundAssignment, operator := some operator }

/-- The data of a keyword. -/
def ofKeyword (text : String) : TokenData :=
  { kind := .keyword, stringValue := text }

end TokenData

end DiagnosticReplay
