import DiagnosticReplay.Message
import DiagnosticReplay.Modifier
import DiagnosticReplay.SortedMap
import DiagnosticReplay.Source.Script
import DiagnosticReplay.Text.Ascii
import DiagnosticReplay.TokenData

/-! # Diagnostics

A diagnostic is a message number, a place in a script, a severity, the stage that raised it, and
named arguments for the placeholders of the message. Argument names are held in ASCII lower case, so
a name is found in whatever ASCII case it is asked for, and a later argument replaces an earlier one
of the same folded name.
-/

namespace DiagnosticReplay

/-- A value for a placeholder. -/
inductive Argument where
  | tokenData (data : TokenData)
  | token (kind : Token)
  | modifier (modifier : Modifier)
  | access (modifier : AccessModifier)
  | text (value : String)
deriving DecidableEq, Repr

/-- Arguments by name. -/
abbrev Arguments := SortedMap String Argument

/-- Whether a diagnostic stops the build. -/
inductive Severity where
  | error
  | warning
deriving DecidableEq, Repr

/-- What a printed line calls a diagnostic of the severity. -/
def Severity.label : Severity → String
  | error => "Error"
  | warning => "Warning"

/-- A diagnostic raised by the parser or the verifier. -/
structure Diagnostic where
  id : UInt32
  span : Source.Span
  severity : Severity
  stage : Stage
  arguments : Arguments := .empty

namespace Diagnostic

/-- The same diagnostic with an argument under the folded name. -/
def withArgument (diagnostic : Diagnostic) (name : String) (value : Argument) : Diagnostic :=
  { diagnostic with arguments := diagnostic.arguments.insert (Text.foldCase name) value }

/-- The argument under the folded name, if there is one. -/
def argument? (diagnostic : Diagnostic) (name : String) : Option Argument :=
  diagnostic.arguments.get? (Text.foldCase name)

/-- The diagnostic is an error. -/
def isError (diagnostic : Diagnostic) : Bool :=
  diagnostic.severity == .error

/-- The diagnostic is a warning. -/
def isWarning (diagnostic : Diagnostic) : Bool :=
  diagnostic.severity == .warning

end Diagnostic

end DiagnosticReplay
