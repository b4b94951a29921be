import DiagnosticReplay.Source.LineMap
import DiagnosticReplay.Text.Quoted

/-! # Scripts and spans

A script is a source file: its path and its content, with the line map of that content. Two scripts
can have both in common and still be two, so a script that is shared has a number besides, and it is
the number that tells shared scripts apart. A span holds a script, with its number, and names the
place in it at which something starts.
-/

namespace DiagnosticReplay.Source

/-- A source file with the line map of its content. -/
structure Script where
  path : String
  content : String
  lineMap : LineMap := LineMap.ofText content
  lineMap_eq : lineMap = LineMap.ofText content := by rfl
  /-- The number under which a register shares the script, if one does. -/
  number : Option Nat := none
deriving DecidableEq

/-- The start of a source range in a script. -/
structure Span where
  script : Script
  position : Position
deriving DecidableEq

namespace Script

/-- The script of a path and a content, which is not shared. -/
def ofContent (path content : String) : Script :=
  { path, content }

/-- The script without content that is shared for a path under a number. -/
def shared (number : Nat) (path : String) : Script :=
  { ofContent path "" with number := some number }

/-- The length of the content in bytes. -/
def byteLength (script : Script) : Nat :=
  script.content.utf8ByteSize

/-- The span that starts at a byte offset. -/
def spanAt (script : Script) (offset : UInt32) : Span where
  script := script
  position := script.lineMap.position offset

/-- A script as it is shown to a developer: its path in quotes and its length. -/
def describe (script : Script) : String :=
  "Script \x7b file_path: " ++ Text.Quoted.encode script.path ++ ", len: "
    ++ toString script.byteLength ++ " \x7d"

end Script

end DiagnosticReplay.Source
