/-! # Operators

The operators that an operator token or a compound assignment carries. Each has one source text, and
no two share a text, so an operator can be found again from its text.
-/

namespace DiagnosticReplay

/-- The operators of operator tokens and compound assignments. -/
inductive Operator where
  | add
  | subtract
  | multiply
  | divide
  | remainder
  | pow
  | equals
  | notEquals
  | strictEquals
  | strictNotEquals
  | lt
  | gt
  | le
  | ge
  | logicalAnd
  | logicalXor
  | logicalOr
  | nullCoalescing
  | bitwiseAnd
  | bitwiseXor
  | bitwiseOr
  | bitwiseNot
  | leftShift
  | rightShift
  | unsignedRightShift
  | increment
  | decrement
deriving DecidableEq, Repr

namespace Operator

/-- Every operator. -/
def all : List Operator := [
    add, subtract, multiply, divide, remainder, pow, equals, notEquals, strictEquals,
    strictNotEquals, lt, gt, le, ge, logicalAnd, logicalXor, logicalOr, nullCoalescing,
    bitwiseAnd, bitwiseXor, bitwiseOr, bitwiseNot, leftShift, rightShift, unsignedRightShift,
    increment, decrement]

/-- The source text of the operator. -/
def text : Operator → String
  | add => "+"
  | subtract => "-"
  | multiply => "*"
  | divide => "/"
  | remainder => "%"
  | pow => "**"
  | equals => "=="
  | notEquals => "!="
  | strictEquals => "==="
  | strictNotEquals => "!=="
  | lt => "<"
  | gt => ">"
  | le => "<="
  | ge => ">="
  | logicalAnd => "&&"
  | logicalXor => "^^"
  | logicalOr => "||"
  | nullCoalescing => "??"
  | bitwiseAnd => "&"
  | bitwiseXor => "^"
  | bitwiseOr => "|"
  | bitwiseNot => "~"
  | leftShift => "<<"
  | rightShift => ">>"
  | unsignedRightShift => ">>>"
  | increment => "++"
  | decrement => "--"

/-- The name of the operator. -/
def name : Operator → String
  | add => "Add"
  | subtract => "Subtract"
  | multiply => "Multiply"
  | divide => "Divide"
  | remainder => "Remainder"
  | pow => "Pow"
  | equals => "Equals"
  | notEquals => "NotEquals"
  | strictEquals => "StrictEquals"
  | strictNotEquals => "StrictNotEquals"
  | lt => "Lt"
  | gt => "Gt"
  | le => "Le"
  | ge => "Ge"
  | logicalAnd => "LogicalAnd"
  | logicalXor => "LogicalXor"
  | logicalOr => "LogicalOr"
  | nullCoalescing => "NullCoalescing"
  | bitwiseAnd => "BitwiseAnd"
  | bitwiseXor => "BitwiseXor"
  | bitwiseOr => "BitwiseOr"
  | bitwiseNot => "BitwiseNot"
  | leftShift => "LeftShift"
  | rightShift => "RightShift"
  | unsignedRightShift => "UnsignedRightShift"
  | increment => "Increment"
  | decrement => "Decrement"

/-- The operator with a source text, if there is one. -/
def ofText? (text : String) : Option Operator :=
  all.find? fun operator => operator.text == text

end Operator

end DiagnosticReplay
