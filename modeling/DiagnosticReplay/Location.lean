import DiagnosticReplay.FileUri
import DiagnosticReplay.Source.Script

/-! # Locations

A span as it is shown to a user: the URI of its script without a slash at the end, and a line and a
column that both count from one. The column is a natural number, because the shift by one may leave
32 bits.
-/

namespace DiagnosticReplay

/-- A place as it is shown to a user. -/
structure Location where
  uri : String
  line : UInt32
  column : Nat
deriving DecidableEq, Repr

namespace Location

/-- A path without the one slash that it may start with. -/
def relativePath : List Char → List Char
  | '/' :: rest => rest
  | path => path

/-- A text without the one slash that it may end in. -/
def withoutFinalSlash (text : List Char) : List Char :=
  if text.getLast? = some '/' then text.dropLast else text

/-- The URI of a path as it is shown to a user. -/
def uriOf (path : String) : String :=
  String.ofList (withoutFinalSlash (FileUri.ofPath (relativePath path.toList)))

/-- The location of a span. -/
def ofSpan (span : Source.Span) : Location where
  uri := uriOf span.script.path
  line := span.position.line
  column := span.position.column.toNat + 1

/-- The location as one text, its parts divided by colons. -/
def text (location : Location) : String :=
  location.uri ++ ":" ++ toString location.line.toNat ++ ":" ++ toString location.column

end Location

end DiagnosticReplay
