import DiagnosticReplay.Json.Mismatch
import DiagnosticReplay.Json.Node

/-! # Readers

Readers walk the tree of a text in the order of the text and stop at the first problem. A value that
is skipped is still checked for faults of the text, down to any depth.
-/

namespace DiagnosticReplay.Json

/-! ### Skipping -/

mutual

/-- Pass over a value. A number that breaks off is malformed here even where the text ends. -/
def Node.skip : Node → Read Unit
  | .null => .ok ()
  | .boolean _ => .ok ()
  | .number _ => .ok ()
  | .string literal =>
    match literal.ending with
    | .closed => .ok ()
    | .broken fault => .fault fault
  | .list items => items.skip
  | .map members => members.skip
  | .damaged .number _ => .fault .malformed
  | .damaged _ fault => .fault fault
  | .absent fault => .fault fault

/-- Pass over the items of a list. -/
def Items.skip : Items → Read Unit
  | .closed => .ok ()
  | .broken fault => .fault fault
  | .item head rest => do
    head.skip
    rest.skip

/-- Pass over the members of a map. -/
def Members.skip : Members → Read Unit
  | .closed => .ok ()
  | .broken fault => .fault fault
  | .dangling fault => .fault fault
  | .member key value rest => do
    match key.ending with
    | .closed => value.skip
    | .broken fault => .fault fault
    rest.skip

end

namespace Node

/-! ### Plain values -/

/-- What a value is, for a message. -/
def found : Node → Read Found
  | null => .ok .null
  | boolean value => .ok (.boolean value)
  | number literal =>
    match literal.value? with
    | some value => .ok (.number value)
    | none => .fault .malformed
  | string literal => do return .string (← Read.ofFault literal.decode)
  | list _ => .ok .list
  | map _ => .ok .map
  | damaged _ fault => .fault fault
  | absent fault => .fault fault

/-- Refuse a value that is of the wrong kind. A fault in the value itself comes first. -/
def refuse {α : Type} (node : Node) (expected : Expected) : Read α := do
  .mismatch (.wrongType (← node.found) expected)

/-- An unsigned integer of 32 bits. -/
def readUInt32 : Node → Read UInt32
  | number literal =>
    match literal.value? with
    | some (.integer value) =>
      if 0 ≤ value ∧ value < UInt32.size then .ok (UInt32.ofNat value.toNat)
      else .mismatch (.wrongInteger value .uint32)
    | some value => .mismatch (.wrongType (.number value) .uint32)
    | none => .fault .malformed
  | node => node.refuse .uint32

/-- A text. -/
def readString : Node → Read String
  | string literal => Read.ofFault literal.decode
  | node => node.refuse .string

/-- A truth value. -/
def readBoolean : Node → Read Bool
  | boolean value => .ok value
  | node => node.refuse .boolean

/-- A null that stands for the absence of content. -/
def readUnit : Node → Read Unit
  | null => .ok ()
  | node => node.refuse .unit

/-- A value or a null. -/
def readOptional {α : Type} (read : Node → Read α) : Node → Read (Option α)
  | null => .ok none
  | damaged .null fault => .fault fault
  | node => do return some (← read node)

end Node

/-! ### Lists and maps -/

/-- Every item of a list. -/
def Items.readAll {α : Type} (read : Node → Read α) : Items → Read (List α)
  | .closed => .ok []
  | .broken fault => .fault fault
  | .item head rest => do return (← read head) :: (← rest.readAll read)

/-- The name that a key of a map spells. -/
def StringLiteral.readKey (key : StringLiteral) : Read String :=
  Read.ofFault key.decode

/-- Every member of a map, in the order of the text. -/
def Members.readAll {α : Type} (read : Node → Read α) : Members → Read (List (String × α))
  | .closed => .ok []
  | .broken fault => .fault fault
  | .dangling fault => .fault fault
  | .member key value rest => do
    let name ← key.readKey
    let content ← read value
    return (name, content) :: (← rest.readAll read)

/-- A list of values of one kind. -/
def Node.readList {α : Type} (read : Node → Read α) : Node → Read (List α)
  | .list items => items.readAll read
  | node => node.refuse .list

/-- A map to values of one kind, in the order of the text. -/
def Node.readMap {α : Type} (read : Node → Read α) : Node → Read (List (String × α))
  | .map members => members.readAll read
  | node => node.refuse .map

/-! ### Choices -/

/-- The choice of a name. -/
def choose {β : Type} (choices : List (String × β)) (name : String) : Read β :=
  match choices.lookup name with
  | some choice => .ok choice
  | none => .mismatch (.unknownChoice name (choices.map Prod.fst))

/-- Nothing may follow the one member of a choice, not even a comma. -/
def Members.expectClosed : Members → Read Unit
  | .closed => .ok ()
  | .broken fault => .fault fault
  | _ => .fault .malformed

/-- One of some choices: its name alone, or a map of one member from its name to its content. The name
stands in the place of a key there, where anything but a string is a fault of the text, as it is in any
other map, and not a value of the wrong type. -/
def Node.readChoice {α β : Type} (choices : List (String × β)) (bare : β → Read α)
    (withContent : β → Node → Read α) : Node → Read α
  | .string literal => do
    bare (← choose choices (← Read.ofFault literal.decode))
  | .map (.member key value rest) => do
    let choice ← choose choices (← key.readKey)
    let result ← withContent choice value
    rest.expectClosed
    return result
  | .map (.broken fault) => .fault fault
  | .absent fault => .fault fault
  | _ => .fault .malformed

/-- One of some choices that have no content. -/
def Node.readName {β : Type} (choices : List (String × β)) (node : Node) : Read β :=
  node.readChoice choices pure fun choice content => do
    content.readUnit
    return choice

/-- One of some choices that each have content. -/
def Node.readTagged {α β : Type} (choices : List (String × β)) (read : β → Node → Read α)
    (node : Node) : Read α :=
  node.readChoice choices
    (fun _ => .mismatch (.wrongType .bareName .choiceWithContent)) read

/-! ### Records -/

/-- A field of a record: its name, how its value is read, and the value that it has where a record
written as a list ends before it. -/
structure Field (φ : Type) where
  name : String
  read : Node → Read φ
  atEnd : Option φ := none

/-- A record: its name and its fields in the order of their declaration. -/
structure Shape (φ : Type) where
  name : String
  fields : List (Field φ)

namespace Shape

variable {φ : Type}

/-- The field of a name, if the record has one. -/
def field? (shape : Shape φ) (name : String) : Option (Field φ) :=
  shape.fields.find? fun field => field.name == name

/-- The fields of a record that is written as a map. Members of other names are skipped. A field is
met again as soon as its name is read. -/
def readMembers (shape : Shape φ) (seen : List String) : Members → Read (List φ)
  | .closed => .ok []
  | .broken fault => .fault fault
  | .dangling fault => .fault fault
  | .member key value rest => do
    let name ← key.readKey
    match shape.field? name with
    | some field =>
      if seen.contains name then .mismatch (.duplicateField name)
      else
        let content ← field.read value
        return content :: (← shape.readMembers (name :: seen) rest)
    | none =>
      value.skip
      shape.readMembers seen rest

/-- The fields of a record that is written as a list, of which `index` came before. -/
def readItems (shape : Shape φ) (index : Nat) : List (Field φ) → Items → Read (List φ)
  | [], .closed => .ok []
  | [], .item _ _ => .fault .malformed
  | _, .broken fault => .fault fault
  | field :: fields, .item head rest => do
    let content ← field.read head
    return content :: (← shape.readItems (index + 1) fields rest)
  | field :: fields, .closed =>
    match field.atEnd with
    | some content => do return content :: (← shape.readItems (index + 1) fields .closed)
    | none => .mismatch (.wrongLength index shape.name shape.fields.length)

/-- The fields of a record in the order of the text. -/
def read (shape : Shape φ) : Node → Read (List φ)
  | .map members => shape.readMembers [] members
  | .list items => shape.readItems 0 shape.fields items
  | node => node.refuse (.record shape.name)

end Shape

/-- The content of a field that a record must have. -/
def require {α : Type} (name : String) : Option α → Read α
  | some content => .ok content
  | none => .mismatch (.missingField name)

/-- Read a whole text. Nothing but blanks may follow the value. -/
def readText {α : Type} (read : Node → Read α) (text : String) : Read α := do
  let document := Document.ofText text
  let value ← read document.root
  if document.hasMore then .fault .malformed else return value

end DiagnosticReplay.Json
