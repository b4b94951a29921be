import DiagnosticReplay.LogFilter.Level
import DiagnosticReplay.LogFilter.Scope
import DiagnosticReplay.LogFilter.Value
import DiagnosticReplay.Text.CharacterClass
import DiagnosticReplay.Text.Split

/-! # Log directives

A directive is a level for a scope: `level`, `target`, `target=level`, or with a part in brackets
before the equals sign. The part in brackets names a span, a field in braces, or both. Nothing is
ever inside a span here, and a value of a field is a value that a span has, so a directive with one
or the other is read, but concerns no event.
-/

namespace DiagnosticReplay

/-- Why a part of a filter is no directive. -/
inductive DirectiveError where
  | malformed
  | unknownLevel
  /-- The value of a field is neither a number nor a pattern. -/
  | invalidValue (fault : Pattern.Fault)
deriving DecidableEq, Repr

namespace DirectiveError

/-- The wording of what is wrong with a pattern. -/
def describeFault : Pattern.Fault → String
  | .malformed => "error building NFA"
  | .wordBoundary =>
    "unsupported regex feature for DFAs: cannot build DFAs for regexes with Unicode word "
      ++ "boundaries; switch to ASCII word boundaries, or heuristically enable Unicode word "
      ++ "boundaries or use a different regex engine"

/-- The wording of the error. -/
def message : DirectiveError → String
  | malformed => "invalid filter directive"
  | unknownLevel =>
    "error parsing level filter: expected one of \"off\", \"error\", \"warn\", \"info\", "
      ++ "\"debug\", \"trace\", or a number 0-5"
  | invalidValue fault => "invalid field filter: " ++ describeFault fault

end DirectiveError

/-- A directive: a level for a scope, or for no event at all. -/
structure LogDirective where
  scope : Option LogScope
  level : LogLevel
deriving DecidableEq, Repr

namespace LogDirective

/-- A byte of a text. -/
structure Place where
  /-- The byte that shows here how the directive is built, as a character. -/
  guide : Option Char
  /-- The byte that is kept. -/
  kept : UInt8
deriving DecidableEq, Repr

/-- The text that is kept of some places. -/
def keep (places : List Place) : String :=
  (String.fromUTF8? ⟨(places.map Place.kept).toArray⟩).getD ""

/-- A text without the white space around it. -/
def trim (text : List Char) : List Char :=
  ((text.dropWhile Text.isWhiteSpace).reverse.dropWhile Text.isWhiteSpace).reverse

/-- The bytes of a text. -/
def bytes (text : List Char) : List UInt8 :=
  text.flatMap String.utf8EncodeChar

/-- The places of a text. The text shows how it is built as if there were no white space around it,
but what is kept stands where it stands. So white space in front shifts every part. -/
def places (text : List Char) : List Place :=
  let guides := (bytes (trim text)).map fun byte => some (Char.ofUInt8 byte)
  let kept := bytes text
  List.zipWith Place.mk (guides ++ List.replicate (kept.length - guides.length) none) kept

/-- The places up to a delimiter, the delimiter, and the places that follow it. -/
def cutAt? (isDelimiter : Char → Bool) (places : List Place) :
    Option (List Place × Char × List Place) :=
  let before (place : Place) : Bool := !place.guide.any isDelimiter
  match places.dropWhile before with
  | ⟨some delimiter, _⟩ :: rest => some (places.takeWhile before, delimiter, rest)
  | _ => none

/-- A target or a level may start with a character of any script that is a letter or a number, or
with one of three marks. -/
def isStart (character : Char) : Bool :=
  character == '-' || character == ':' || character == '_' || Text.isAlphanumeric character

/-- A directive as it is written. -/
inductive Form where
  /-- A level or a target alone. -/
  | bare (text : String)
  /-- A scope, and the text after the equals sign if there is one. -/
  | scoped (scope : Option LogScope) (level : Option String)

/-- What stands after the part in brackets: a level or nothing. -/
def readEnd (scope : Option LogScope) : List Place → Except DirectiveError Form
  | [] => .ok (.scoped scope none)
  | ⟨none, _⟩ :: _ => .ok (.scoped scope none)
  | ⟨some '=', _⟩ :: level => .ok (.scoped scope (some (keep level)))
  | _ => .error .malformed

/-- A field, with which a directive concerns fewer events: only those with a field of the name, and
none if the field has a value. -/
def readField (scope : Option LogScope) (text : String) :
    Except DirectiveError (Option LogScope) :=
  match Text.splitAt '=' text with
  | _ :: value :: _ =>
    match LogFilter.valueFault? value.toList with
    | some fault => .error (.invalidValue fault)
    | none => .ok none
  | _ => .ok (scope.map fun scope => { scope with field := some text })

/-- A field in braces, the bracket that follows it, and what stands after that. -/
def readBraced (scope : Option LogScope) (places : List Place) : Except DirectiveError Form :=
  match cutAt? (· == '\x7d') places with
  | none => .error .malformed
  | some ([], _, _) => .error .malformed
  | some (field, _, rest) => do
    let scope ← readField scope (keep field)
    match rest with
    | ⟨some ']', _⟩ :: rest => readEnd scope rest
    | _ => .error .malformed

/-- The part in brackets and what stands after it: a span, a field in braces, or both. A directive
with a span concerns no event, not even if the name of the span is empty. -/
def readBracketed (target : List Place) (places : List Place) : Except DirectiveError Form :=
  let scope : LogScope := { target := keep target }
  match cutAt? (fun character => character == ']' || character == '\x7b') places with
  | none => .error .malformed
  | some (_, ']', rest) => readEnd none rest
  | some (span, _, rest) => readBraced (if span.isEmpty then some scope else none) rest

/-- The form of a text that is a directive. -/
def readForm (text : List Char) : Except DirectiveError Form :=
  let places := places text
  match trim text with
  | [] => .error .malformed
  | '[' :: _ => readBracketed [] (places.drop 1)
  | start :: _ =>
    if isStart start then
      match cutAt? (fun character => character == '=' || character == '[') places with
      | some (target, '=', level) =>
        .ok (.scoped (some { target := keep target }) (some (keep level)))
      | some (target, _, rest) => readBracketed target rest
      | none => .ok (.bare (keep places))
    else .error .malformed

/-- The directive of a form. Without a level it asks for everything. -/
def ofForm : Form → Except DirectiveError LogDirective
  | .bare text =>
    match LogLevel.ofText? text with
    | some level => .ok ⟨some LogScope.all, level⟩
    | none => .ok ⟨some { target := text }, .trace⟩
  | .scoped scope none => .ok ⟨scope, .trace⟩
  | .scoped scope (some level) =>
    if level.isEmpty then .ok ⟨scope, .trace⟩
    else
      match LogLevel.ofText? level with
      | some level => .ok ⟨scope, level⟩
      | none => .error .unknownLevel

/-- Read a directive. -/
def read (text : String) : Except DirectiveError LogDirective := do
  ofForm (← readForm text.toList)

/-- The directive concerns an event. -/
def concerns (directive : LogDirective) (event : Event) : Bool :=
  directive.scope.any (·.holds event)

/-- The directive is less specific than another. One without a scope is the least specific. -/
def lessSpecific (directive other : LogDirective) : Bool :=
  match directive.scope, other.scope with
  | some scope, some otherScope => scope.lessSpecific otherScope
  | none, some _ => true
  | _, none => false

end LogDirective

end DiagnosticReplay
