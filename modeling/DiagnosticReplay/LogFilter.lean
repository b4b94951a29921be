import DiagnosticReplay.LogFilter.Directive
import DiagnosticReplay.Text.Quoted

/-! # Log filters

A filter says which events are written to the log. It is a list of directives between commas. The
most specific directive that concerns an event decides, and of equally specific ones the last. A
part that is no directive is left out of the filter, and named together with the reason. A filter
without directives lets errors through.
-/

namespace DiagnosticReplay

/-- A part of a filter that is no directive. -/
structure RejectedDirective where
  text : String
  error : DirectiveError
deriving DecidableEq, Repr

/-- The wording of the rejection. -/
def RejectedDirective.message (rejected : RejectedDirective) : String :=
  "ignoring " ++ Text.backquoted rejected.text ++ ": " ++ rejected.error.message

/-- The directives of a filter and the parts that are none, each in the order of the text. -/
structure LogFilter where
  directives : List LogDirective
  rejected : List RejectedDirective := []
deriving DecidableEq, Repr

namespace LogFilter

/-- The parts of a filter between commas, without the empty ones. -/
def parts (text : String) : List String :=
  (Text.splitAt ',' text).filter (!·.isEmpty)

/-- The directive of a part, if it is one. -/
def directive? (part : String) : Option LogDirective :=
  (LogDirective.read part).toOption

/-- The rejection of a part, if it is no directive. -/
def rejection? (part : String) : Option RejectedDirective :=
  match LogDirective.read part with
  | .ok _ => none
  | .error error => some ⟨part, error⟩

/-- The filter of a text. -/
def ofText (text : String) : LogFilter :=
  let directives := (parts text).filterMap directive?
  { directives := if directives.isEmpty then [⟨some .all, .error⟩] else directives
    rejected := (parts text).filterMap rejection? }

/-- The more specific of two directives, the second if they are equally so. -/
def moreSpecific (first : Option LogDirective) (second : LogDirective) : Option LogDirective :=
  match first with
  | some held => if second.lessSpecific held then some held else some second
  | none => some second

/-- The directive that decides about an event. -/
def decisive? (filter : LogFilter) (event : Event) : Option LogDirective :=
  (filter.directives.filter (·.concerns event)).foldl moreSpecific none

/-- The filter lets an event through. -/
def admits (filter : LogFilter) (event : Event) : Bool :=
  match filter.decisive? event with
  | some directive => directive.level.admitsDebug
  | none => false

end LogFilter

end DiagnosticReplay
