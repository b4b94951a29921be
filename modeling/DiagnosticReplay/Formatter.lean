import DiagnosticReplay.Collection
import DiagnosticReplay.Event
import DiagnosticReplay.Location
import DiagnosticReplay.Message.Catalog
import DiagnosticReplay.Message.Template
import DiagnosticReplay.TokenNames

/-! # Formatting

A diagnostic is printed as

    <file-uri>:<line>:<column>: <stage>: <Error|Warning> #<id>: <message>

where the message is the template of its number with the placeholders filled in. Nothing here fails:
what a lookup does not find reads as a fixed word and is reported as an event. A text that was filled
in is not looked at again.
-/

namespace DiagnosticReplay

/-- A text together with the events that its making reported, first event first. -/
structure Rendering where
  text : String
  events : List Event := []
deriving DecidableEq, Repr

namespace Rendering

/-- One rendering and then another. -/
def append (first second : Rendering) : Rendering where
  text := first.text ++ second.text
  events := first.events ++ second.events

instance : Append Rendering := ⟨append⟩

/-- Renderings one after the other. -/
def join (parts : List Rendering) : Rendering where
  text := String.join (parts.map text)
  events := parts.flatMap events

/-- The rendering of something that a lookup did not find. -/
def ofMiss (event : Event) : Rendering where
  text := Message.undefinedText
  events := [event]

end Rendering

/-- The tables that a diagnostic is formatted with. -/
structure Formatter where
  catalog : Catalog
  names : TokenNames

namespace Formatter

/-- The formatter of the toolchain. -/
def standard : Formatter where
  catalog := Catalog.standard
  names := TokenNames.standard

/-- A token kind in a message. -/
def renderToken (formatter : Formatter) (kind : Token) : Rendering :=
  match formatter.names.name? kind with
  | some name => { text := name }
  | none => .ofMiss (.namelessToken kind)

/-- The operator of a token in a message. -/
def renderOperator (data : TokenData) : Rendering :=
  match data.operator with
  | some operator => { text := operator.text }
  | none => .ofMiss (.missingOperator data.kind)

/-- A scanned token in a message: an operator token and a compound assignment by their operator, a
keyword by its text, and any other token by its kind. -/
def renderTokenData (formatter : Formatter) (data : TokenData) : Rendering :=
  match data.kind with
  | .operator => renderOperator data
  | .compoundAssignment => renderOperator data ++ { text := "=" }
  | .keyword => { text := "'" ++ data.stringValue ++ "'" }
  | kind => formatter.renderToken kind

/-- An argument in a message. -/
def renderArgument (formatter : Formatter) : Argument → Rendering
  | .tokenData data => formatter.renderTokenData data
  | .token kind => formatter.renderToken kind
  | .modifier modifier => { text := modifier.keyword }
  | .access modifier => { text := modifier.keyword }
  | .text value => { text := value }

/-- A piece of a template, its placeholder looked up in lower case. -/
def renderPiece (formatter : Formatter) (arguments : Arguments) : Template.Piece → Rendering
  | .literal character => { text := String.singleton character }
  | .dollarPair => { text := "$" }
  | .placeholder name =>
    match arguments.get? (Text.foldCase (String.ofList name)) with
    | some argument => formatter.renderArgument argument
    | none => .ofMiss (.missingArgument (String.ofList name))

/-- A template with its placeholders filled in. -/
def resolve (formatter : Formatter) (template : String) (arguments : Arguments) : Rendering :=
  .join ((Template.cut template.toList).map (formatter.renderPiece arguments))

/-- The template of a message number. -/
def renderTemplate (formatter : Formatter) (id : UInt32) : Rendering :=
  match formatter.catalog.template? id with
  | some template => { text := template }
  | none => .ofMiss (.unknownId id)

/-- The message of a diagnostic as its template writes it. -/
def formatMessage (formatter : Formatter) (diagnostic : Diagnostic) : Rendering :=
  let template := formatter.renderTemplate diagnostic.id
  let resolved := formatter.resolve template.text diagnostic.arguments
  { text := resolved.text, events := template.events ++ resolved.events }

/-- What stands before the message in the line of a diagnostic. -/
def heading (diagnostic : Diagnostic) : String :=
  (Location.ofSpan diagnostic.span).text ++ ": " ++ diagnostic.stage.label ++ ": "
    ++ diagnostic.severity.label ++ " #" ++ toString diagnostic.id.toNat ++ ": "

/-- The line of a diagnostic, its message with a capital. -/
def format (formatter : Formatter) (diagnostic : Diagnostic) : Rendering :=
  let message := formatter.formatMessage diagnostic
  { text := heading diagnostic ++ Text.capitalize message.text, events := message.events }

/-- The lines of diagnostics in their order. -/
def formatAll (formatter : Formatter) (diagnostics : List Diagnostic) : List Rendering :=
  diagnostics.map formatter.format

end Formatter

namespace Diagnostic

/-- The line of a diagnostic with the tables of the toolchain. -/
def line (diagnostic : Diagnostic) : String :=
  (Formatter.standard.format diagnostic).text

end Diagnostic

end DiagnosticReplay
