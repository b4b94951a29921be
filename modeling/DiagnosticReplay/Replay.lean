import DiagnosticReplay.Collection
import DiagnosticReplay.Event
import DiagnosticReplay.Record.Reader
import DiagnosticReplay.Source.Register

/-! # Replaying records

A recorded document becomes a collection of diagnostics. Only a document that can be read as a whole
is looked at for faults of meaning: an operator that does not exist, and two arguments of one record
whose names differ in ASCII case alone. The first record with such a fault decides, and so does the
first such argument in it.
-/

namespace DiagnosticReplay

/-- Why a file cannot be read, in the words of whoever could not read it. -/
structure ReadFailure where
  message : String
deriving DecidableEq, Repr

namespace ReadFailure

/-- The failure that a system tells by a description and a number. -/
def ofSystem (description : String) (number : Nat) : ReadFailure :=
  ⟨description ++ " (os error " ++ toString number ++ ")"⟩

def notFound : ReadFailure := ofSystem "No such file or directory" 2

def permissionDenied : ReadFailure := ofSystem "Permission denied" 13

def notDirectory : ReadFailure := ofSystem "Not a directory" 20

def isDirectory : ReadFailure := ofSystem "Is a directory" 21

/-- The path, or one of its components, is longer than any can be. -/
def nameTooLong : ReadFailure := ofSystem "File name too long" 36

/-- The path holds the character that ends every path. -/
def terminatorInName : ReadFailure := ⟨"file name contained an unexpected NUL byte"⟩

def notUtf8 : ReadFailure := ⟨"stream did not contain valid UTF-8"⟩

end ReadFailure

/-- Why diagnostics cannot be loaded. -/
inductive LoadError where
  | unreadable (path : String) (cause : ReadFailure)
  | invalid (path : String) (cause : Json.ReadError)
  | unknownOperator (path : String) (text : String)
  | duplicateArgument (path : String) (id : UInt32) (name : String)
deriving DecidableEq, Repr

namespace LoadError

/-- The wording of a text that is no document. The words for a fault are this library's own, and the
line and the column of a problem are left out: both are a matter of the reader of JSON, and nothing
else depends on them. -/
def describeReadError : Json.ReadError → String
  | .fault .malformed => "malformed JSON"
  | .fault .truncated => "unexpected end of the JSON text"
  | .mismatch mismatch => mismatch.message

/-- The wording of the error. -/
def message : LoadError → String
  | unreadable path cause => "failed to read " ++ path ++ ": " ++ cause.message
  | invalid path cause => "invalid diagnostics file " ++ path ++ ": " ++ describeReadError cause
  | unknownOperator path text =>
    "unknown operator " ++ Text.backquoted text ++ " in " ++ path
  | duplicateArgument path id name =>
    "argument " ++ Text.backquoted name ++ " of diagnostic #" ++ toString id.toNat
      ++ " is given twice in " ++ path

end LoadError

namespace Replay

/-- What loading gives: a value, or an error. -/
abbrev Load := Except LoadError

/-- The token of a recorded token. -/
def loadToken (origin : String) (entry : Record.TokenEntry) : Load TokenData :=
  match entry.operator with
  | none => .ok { kind := entry.kind, stringValue := entry.stringValue }
  | some text =>
    match Operator.ofText? text with
    | some operator =>
      .ok { kind := entry.kind, operator := some operator, stringValue := entry.stringValue }
    | none => .error (.unknownOperator origin text)

/-- The argument of a recorded argument. -/
def loadArgument (origin : String) : Record.ArgumentEntry → Load Argument
  | .text value => .ok (.text value)
  | .token kind => .ok (.token kind)
  | .modifier modifier => .ok (.modifier modifier)
  | .access modifier => .ok (.access modifier)
  | .tokenData entry => do return .tokenData (← loadToken origin entry)

/-- Attach recorded arguments one after the other. No two may have the same folded name. -/
def attachAll (origin : String) (diagnostic : Diagnostic) :
    List (String × Record.ArgumentEntry) → Load Diagnostic
  | [] => .ok diagnostic
  | (name, entry) :: rest =>
    if (diagnostic.argument? name).isSome then
      .error (.duplicateArgument origin diagnostic.id (Text.foldCase name))
    else do
      let argument ← loadArgument origin entry
      attachAll origin (diagnostic.withArgument name argument) rest

/-- The diagnostic of a record before its arguments are attached. -/
def bareDiagnostic (script : Source.Script) (entry : Record.Entry) : Diagnostic where
  id := entry.id
  span := { script, position := { line := entry.line, column := entry.column } }
  severity := if entry.warning then .warning else .error
  stage := entry.stage.getD (.ofId entry.id)

/-- The diagnostic of a record that stands in a script. -/
def loadEntry (origin : String) (script : Source.Script) (entry : Record.Entry) : Load Diagnostic :=
  attachAll origin (bareDiagnostic script entry) entry.arguments.entries

/-- The diagnostics of records, one after the other. Each record gets its script from the register,
which has handed out those of the records before it. -/
def loadEntries (origin : String) (register : Source.ScriptRegister) :
    List Record.Entry → Load (List Diagnostic)
  | [] => .ok []
  | entry :: rest => do
    let handed := register.handOut entry.filePath
    let diagnostic ← loadEntry origin handed.1 entry
    return diagnostic :: (← loadEntries origin handed.2 rest)

/-- What a document holds: the diagnostics of its records, each in the script that it got. -/
structure Loaded where
  collection : Collection

/-- For each diagnostic the index of the first one that holds the same script. -/
def Loaded.scriptOwners (loaded : Loaded) : List Nat :=
  loaded.collection.diagnostics.map fun diagnostic =>
    loaded.collection.diagnostics.findIdx fun first =>
      first.span.script.number == diagnostic.span.script.number

/-- The diagnostics of a text. Records of one path share their script. -/
def loadText (origin content : String) : Load Loaded :=
  match Record.ofText content with
  | .error cause => .error (.invalid origin cause)
  | .ok entries =>
    (loadEntries origin .empty entries).map fun diagnostics => { collection := ⟨diagnostics⟩ }

/-- What loading a text reports. Only a text that is loaded is reported. -/
def loadEvents (origin : String) : Load Loaded → List Event
  | .ok loaded => [.loaded origin loaded.collection.size]
  | .error _ => []

/-- Read bytes as text. -/
def decodeText (bytes : ByteArray) : Except ReadFailure String :=
  match String.fromUTF8? bytes with
  | some text => .ok text
  | none => .error .notUtf8

/-- The diagnostics of a source of bytes. -/
def loadBytes (origin : String) (source : Except ReadFailure ByteArray) : Load Loaded :=
  match source.bind decodeText with
  | .ok content => loadText origin content
  | .error cause => .error (.unreadable origin cause)

end Replay

end DiagnosticReplay
