import DiagnosticReplay.Event

/-! # Log scopes

A scope is a set of events, given by a beginning of their targets and by a field that they have.
Scopes are compared by how specific they are.
-/

namespace DiagnosticReplay

/-- The events that a directive concerns: those whose target starts with a text, and if a field is
named, only those that have it. -/
structure LogScope where
  target : String
  field : Option String := none
deriving DecidableEq, Repr

namespace LogScope

/-- The scope of every event. -/
def all : LogScope := { target := "" }

/-- The event has a field of the name. What happened counts as a field, too. -/
def hasField (event : Event) (name : String) : Bool :=
  name == "message" || event.fields.any fun field => field.1 == name

/-- The scope holds the event. -/
def holds (scope : LogScope) (event : Event) : Bool :=
  scope.target.toList.isPrefixOf event.target.toList && scope.field.all (hasField event)

/-- The scope is less specific than another. A longer target is the more specific one, then a scope
with a field, and of two fields the one whose name is the greater. -/
def lessSpecific (scope other : LogScope) : Bool :=
  scope.target.length < other.target.length
    || scope.target.length == other.target.length
      && match scope.field, other.field with
        | none, none => false
        | none, some _ => true
        | some _, none => false
        | some name, some otherName => name < otherName

end LogScope

end DiagnosticReplay
