import DiagnosticReplay.Diagnostic

/-! # Collections

The diagnostics gathered for a run, in the order in which they were added. Nothing is dropped,
repeated or reordered until the collection is taken as a whole.
-/

namespace DiagnosticReplay

/-- Diagnostics in the order of addition. -/
structure Collection where
  diagnostics : List Diagnostic := []

namespace Collection

/-- The collection without diagnostics. -/
def empty : Collection := {}

/-- The collection with one more diagnostic at its end. -/
def add (collection : Collection) (diagnostic : Diagnostic) : Collection :=
  ⟨collection.diagnostics ++ [diagnostic]⟩

/-- The collection followed by another. -/
def extend (collection other : Collection) : Collection :=
  ⟨collection.diagnostics ++ other.diagnostics⟩

/-- Every diagnostic, and the collection that is left. -/
def take (collection : Collection) : List Diagnostic × Collection :=
  (collection.diagnostics, empty)

/-- The number of diagnostics. -/
def size (collection : Collection) : Nat :=
  collection.diagnostics.length

/-- There is no diagnostic. -/
def isEmpty (collection : Collection) : Bool :=
  collection.diagnostics.isEmpty

/-- Some diagnostic is an error. -/
def hasErrors (collection : Collection) : Bool :=
  collection.diagnostics.any Diagnostic.isError

/-- The number of errors. -/
def errorCount (collection : Collection) : Nat :=
  collection.diagnostics.countP Diagnostic.isError

/-- The number of warnings. -/
def warningCount (collection : Collection) : Nat :=
  collection.diagnostics.countP Diagnostic.isWarning

end Collection

end DiagnosticReplay
