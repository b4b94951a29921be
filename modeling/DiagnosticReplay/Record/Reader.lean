import DiagnosticReplay.Json.Reader
import DiagnosticReplay.Record

/-! # Reading records

The shape of a recorded document, and its reading from a JSON text. A document, a record, and a token
can each be written as a map of their fields or as a list of their values.
-/

namespace DiagnosticReplay.Record

open Json

/-! ### Names -/

/-- Read a token kind by its recorded name. -/
def readToken (node : Node) : Read Token :=
  node.readName (Token.all.map fun kind => (kind.recordName, kind))

/-- Read a modifier by its keyword. -/
def readModifier (node : Node) : Read Modifier :=
  node.readName (Modifier.all.map fun modifier => (modifier.keyword, modifier))

/-- Read an access modifier by its keyword. -/
def readAccess (node : Node) : Read AccessModifier :=
  node.readName (AccessModifier.all.map fun modifier => (modifier.keyword, modifier))

/-- Read a stage by its recorded name. -/
def readStage (node : Node) : Read Stage :=
  node.readName (Stage.all.map fun stage => (stage.recordName, stage))

/-! ### Tokens -/

/-- A field of a recorded token. -/
inductive TokenField where
  | kind (kind : Token)
  | operator (text : Option String)
  | stringValue (text : String)
deriving DecidableEq, Repr

/-- The shape of a recorded token. -/
def tokenShape : Shape TokenField where
  name := "TokenDataRecord"
  fields := [
    { name := "kind", read := fun node => return .kind (← readToken node) },
    { name := "operator",
      read := fun node => return .operator (← node.readOptional Node.readString) },
    { name := "stringValue", read := fun node => return .stringValue (← node.readString),
      atEnd := some (.stringValue "") }]

/-- The token of some fields. -/
def TokenEntry.ofFields (fields : List TokenField) : Read TokenEntry := do
  let kind ← require "kind" (fields.findSome? fun
    | .kind kind => some kind
    | _ => none)
  let operator := fields.findSome? fun
    | .operator text => some text
    | _ => none
  let stringValue := fields.findSome? fun
    | .stringValue text => some text
    | _ => none
  return { kind, operator := operator.join, stringValue := stringValue.getD "" }

/-- Read a recorded token. -/
def readTokenEntry (node : Node) : Read TokenEntry := do
  TokenEntry.ofFields (← tokenShape.read node)

/-! ### Arguments -/

/-- The kinds of recorded arguments. -/
inductive ArgumentTag where
  | text
  | token
  | tokenData
  | modifier
  | access
deriving DecidableEq, Repr

/-- The kinds of arguments by the name that tags them. -/
def argumentTags : List (String × ArgumentTag) :=
  [("text", .text), ("token", .token), ("tokenData", .tokenData), ("modifier", .modifier),
    ("access", .access)]

/-- Read the value of an argument of some kind. -/
def readTagged : ArgumentTag → Node → Read ArgumentEntry
  | .text, node => return .text (← node.readString)
  | .token, node => return .token (← readToken node)
  | .tokenData, node => return .tokenData (← readTokenEntry node)
  | .modifier, node => return .modifier (← readModifier node)
  | .access, node => return .access (← readAccess node)

/-- Read an argument. -/
def readArgument (node : Node) : Read ArgumentEntry :=
  node.readTagged argumentTags readTagged

/-- Read arguments by name. A name that is repeated exactly keeps its last value. -/
def readArguments (node : Node) : Read (SortedMap String ArgumentEntry) := do
  return .ofList (← node.readMap readArgument)

/-! ### Diagnostics -/

/-- A field of a recorded diagnostic. -/
inductive EntryField where
  | id (value : UInt32)
  | filePath (path : String)
  | line (value : UInt32)
  | column (value : UInt32)
  | warning (value : Bool)
  | stage (stage : Option Stage)
  | arguments (arguments : SortedMap String ArgumentEntry)

/-- The shape of a recorded diagnostic. -/
def entryShape : Shape EntryField where
  name := "DiagnosticRecord"
  fields := [
    { name := "id", read := fun node => return .id (← node.readUInt32) },
    { name := "filePath", read := fun node => return .filePath (← node.readString) },
    { name := "line", read := fun node => return .line (← node.readUInt32) },
    { name := "column", read := fun node => return .column (← node.readUInt32) },
    { name := "warning", read := fun node => return .warning (← node.readBoolean),
      atEnd := some (.warning false) },
    { name := "kind", read := fun node => return .stage (← node.readOptional readStage) },
    { name := "arguments", read := fun node => return .arguments (← readArguments node),
      atEnd := some (.arguments .empty) }]

/-- The diagnostic of some fields. -/
def Entry.ofFields (fields : List EntryField) : Read Entry := do
  let id ← require "id" (fields.findSome? fun
    | .id value => some value
    | _ => none)
  let filePath ← require "filePath" (fields.findSome? fun
    | .filePath path => some path
    | _ => none)
  let line ← require "line" (fields.findSome? fun
    | .line value => some value
    | _ => none)
  let column ← require "column" (fields.findSome? fun
    | .column value => some value
    | _ => none)
  let warning := fields.findSome? fun
    | .warning value => some value
    | _ => none
  let stage := fields.findSome? fun
    | .stage stage => some stage
    | _ => none
  let arguments := fields.findSome? fun
    | .arguments arguments => some arguments
    | _ => none
  return {
    id, filePath, line, column
    warning := warning.getD false
    stage := stage.join
    arguments := arguments.getD .empty }

/-- Read a recorded diagnostic. -/
def readEntry (node : Node) : Read Entry := do
  Entry.ofFields (← entryShape.read node)

/-! ### Documents -/

/-- The shape of a document, whose one field holds the recorded diagnostics. -/
def documentShape : Shape (List Entry) where
  name := "DiagnosticsFile"
  fields := [
    { name := "diagnostics", read := fun node => node.readList readEntry, atEnd := some [] }]

/-- Read the recorded diagnostics of a document. -/
def readDocument (node : Node) : Read (List Entry) := do
  return (← documentShape.read node).flatten

/-- The recorded diagnostics of a text. -/
def ofText (text : String) : Read (List Entry) :=
  readText readDocument text

end DiagnosticReplay.Record
