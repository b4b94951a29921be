import DiagnosticReplay.Message
import DiagnosticReplay.SortedMap

/-! # Message catalogs

A catalog gives each message number at most one template. Where a list of entries repeats a number,
the last entry decides. The standard catalog holds every message of the toolchain.
-/

namespace DiagnosticReplay

/-- Templates by message number. -/
structure Catalog where
  templates : SortedMap UInt32 String

namespace Catalog

/-- The catalog of some entries, where the last entry of a number decides. -/
def ofEntries (entries : List (UInt32 × String)) : Catalog where
  templates := SortedMap.ofList entries

/-- The catalog of every message. -/
def standard : Catalog :=
  ofEntries (Message.all.map fun message => (message.id, message.template))

/-- The template of a number, if the catalog has one. -/
def template? (catalog : Catalog) (id : UInt32) : Option String :=
  catalog.templates.get? id

/-- Every number with its template, smallest number first. -/
def entries (catalog : Catalog) : List (UInt32 × String) :=
  catalog.templates.entries

/-- The count of numbers that have a template. -/
def size (catalog : Catalog) : Nat :=
  catalog.templates.size

/-- No number has a template. -/
def isEmpty (catalog : Catalog) : Bool :=
  catalog.entries.isEmpty

end Catalog

end DiagnosticReplay
