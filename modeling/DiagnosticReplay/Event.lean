import DiagnosticReplay.Text.Quoted
import DiagnosticReplay.Token

/-! # Events

Formatting never fails: what cannot be found is shown as a fixed word. Each such miss is reported as
an event, and so is each document that was loaded. An event is data; the command line decides which
of them it writes.
-/

namespace DiagnosticReplay

/-- Something that formatting or loading reports besides its result. -/
inductive Event where
  /-- The catalog has no template for a message number. -/
  | unknownId (id : UInt32)
  /-- The table has no display name for a token kind. -/
  | namelessToken (kind : Token)
  /-- No argument has the name of a placeholder, given as the template writes it. -/
  | missingArgument (name : String)
  /-- An operator token or a compound assignment comes without an operator. -/
  | missingOperator (kind : Token)
  /-- A document was read, and this many diagnostics came from it. -/
  | loaded (origin : String) (count : Nat)
deriving DecidableEq, Repr

namespace Event

/-- The part of the program that reports the event. -/
def target : Event → String
  | unknownId _ => "violet_diagnostics::messages"
  | namelessToken _ => "violet_diagnostics::token_display"
  | missingArgument _ => "violet_diagnostics::formatter"
  | missingOperator _ => "violet_diagnostics::formatter"
  | loaded _ _ => "violet_diag::input"

/-- What happened, without the particulars. -/
def message : Event → String
  | unknownId _ => "unknown diagnostic id"
  | namelessToken _ => "token kind has no display name"
  | missingArgument _ => "placeholder has no argument"
  | missingOperator _ => "operator token without operator"
  | loaded _ _ => "loaded diagnostics"

/-- A particular of an event: text is quoted in a log line, all else is bare. -/
inductive Value where
  | text (value : String)
  | bare (value : String)
deriving DecidableEq, Repr

/-- A particular as a log line shows it. -/
def Value.logText : Value → String
  | text value => Text.Quoted.encode value
  | bare value => value

/-- A particular as plain text. -/
def Value.plainText : Value → String
  | text value => value
  | bare value => value

/-- The particulars of the event, each under its name. -/
def fields : Event → List (String × Value)
  | unknownId id => [("id", .bare (toString id.toNat))]
  | namelessToken kind => [("kind", .bare kind.logName)]
  | missingArgument name => [("name", .text name)]
  | missingOperator kind => [("kind", .bare kind.logName)]
  | loaded origin count => [("origin", .text origin), ("count", .bare (toString count))]

/-- The log line of the event. Every event is of the level that serves debugging. -/
def logLine (event : Event) : String :=
  event.fields.foldl
    (fun line field => line ++ " " ++ field.1 ++ "=" ++ field.2.logText)
    ("DEBUG " ++ event.target ++ ": " ++ event.message)

end Event

end DiagnosticReplay
