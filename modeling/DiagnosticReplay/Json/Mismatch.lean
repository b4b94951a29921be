import DiagnosticReplay.Decimal.Shortest
import DiagnosticReplay.Json.NumberLiteral
import DiagnosticReplay.Text.Quoted

/-! # Mismatches

How a JSON value can fail to be what a reader wants, and the wording of each case.
-/

namespace DiagnosticReplay.Json

/-- What a reader found. -/
inductive Found where
  | null
  | boolean (value : Bool)
  | number (value : NumberValue)
  | string (value : String)
  | list
  | map
  /-- The name of a choice without the content that the choice needs. -/
  | bareName
deriving DecidableEq, Repr

/-- What a reader wants. -/
inductive Expected where
  | uint32
  | string
  | boolean
  | unit
  | list
  | map
  | record (name : String)
  /-- A choice with its content. -/
  | choiceWithContent
deriving DecidableEq, Repr

/-- A value that is not what a reader wants. -/
inductive Mismatch where
  | wrongType (found : Found) (expected : Expected)
  /-- The integer is not one that the reader can hold. -/
  | wrongInteger (value : Int) (expected : Expected)
  /-- A record written as a list ends before an item that it needs. -/
  | wrongLength (length : Nat) (record : String) (size : Nat)
  | missingField (name : String)
  | duplicateField (name : String)
  | unknownChoice (name : String) (choices : List String)
deriving DecidableEq, Repr

namespace NumberValue

/-- A number in a message. -/
def describe : NumberValue → String
  | integer value => "integer " ++ Text.backquoted (toString value)
  | floating negative magnitude =>
    "floating point " ++ Text.backquoted
      ((if negative then "-" else "") ++ NumberLiteral.messageStyle.text magnitude)

end NumberValue

namespace Found

/-- What was found, in a message. -/
def describe : Found → String
  | null => "null"
  | boolean value => "boolean " ++ Text.backquoted (toString value)
  | number value => value.describe
  | string value => "string " ++ Text.Quoted.encode value
  | list => "sequence"
  | map => "map"
  | bareName => "unit variant"

end Found

namespace Expected

/-- What is wanted, in a message. -/
def describe : Expected → String
  | uint32 => "u32"
  | string => "a string"
  | boolean => "a boolean"
  | unit => "unit"
  | list => "a sequence"
  | map => "a map"
  | record name => "struct " ++ name
  | choiceWithContent => "newtype variant"

end Expected

namespace Mismatch

/-- The choices that there are, in a message. -/
def describeChoices : List String → String
  | [] => "there are no variants"
  | [only] => "expected " ++ Text.backquoted only
  | [first, second] => "expected " ++ Text.backquoted first ++ " or " ++ Text.backquoted second
  | choices => "expected one of " ++ String.intercalate ", " (choices.map Text.backquoted)

/-- The wording of a mismatch. -/
def message : Mismatch → String
  | wrongType found expected =>
    "invalid type: " ++ found.describe ++ ", expected " ++ expected.describe
  | wrongInteger value expected =>
    "invalid value: integer " ++ Text.backquoted (toString value) ++ ", expected "
      ++ expected.describe
  | wrongLength length record size =>
    "invalid length " ++ toString length ++ ", expected struct " ++ record ++ " with "
      ++ toString size ++ (if size = 1 then " element" else " elements")
  | missingField name => "missing field " ++ Text.backquoted name
  | duplicateField name => "duplicate field " ++ Text.backquoted name
  | unknownChoice name choices =>
    "unknown variant " ++ Text.backquoted name ++ ", " ++ describeChoices choices

end Mismatch

/-- Why a text could not be read. -/
inductive ReadError where
  | fault (fault : Fault)
  | mismatch (mismatch : Mismatch)
deriving DecidableEq, Repr

/-- A reader's result. -/
abbrev Read := Except ReadError

namespace Read

/-- The result of something that can fail only by a fault. -/
def ofFault {α : Type} : Except Fault α → Read α
  | .ok value => .ok value
  | .error fault => .error (.fault fault)

/-- The failure by a fault. -/
def fault {α : Type} (fault : Fault) : Read α :=
  .error (.fault fault)

/-- The failure by a mismatch. -/
def mismatch {α : Type} (mismatch : Mismatch) : Read α :=
  .error (.mismatch mismatch)

end Read

end DiagnosticReplay.Json
