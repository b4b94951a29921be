import DiagnosticReplay.Json.Lexeme

/-! # Nodes

A JSON text as a tree, as far as the text goes. Where the text breaks off, the tree holds the fault
in the place where it stands, and every list and map around that place ends by a fault too. A reader
that walks the tree in the order of the text therefore meets its first problem where the text has it,
be that a fault of the text or a value of the wrong kind.
-/

namespace DiagnosticReplay.Json

mutual

/-- A value of a JSON text. -/
inductive Node where
  | null
  | boolean (value : Bool)
  | number (literal : NumberLiteral)
  | string (literal : StringLiteral)
  | list (items : Items)
  | map (members : Members)
  /-- A literal that breaks off. -/
  | damaged (beginning : Beginning) (fault : Fault)
  /-- No value starts where one should stand. -/
  | absent (fault : Fault)

/-- The items of a list. -/
inductive Items where
  | closed
  | broken (fault : Fault)
  | item (head : Node) (rest : Items)

/-- The members of a map. -/
inductive Members where
  | closed
  | broken (fault : Fault)
  /-- No key comes after a comma. -/
  | dangling (fault : Fault)
  | member (key : StringLiteral) (value : Node) (rest : Members)

end

/-- A text as a tree. -/
structure Document where
  root : Node
  /-- Something other than blanks follows the root. -/
  hasMore : Bool

/-- A list or a map that is open, with what was read of it, the newest first. -/
inductive Frame where
  | list (items : List Node)
  | map (members : List (StringLiteral × Node)) (key : StringLiteral)

/-- What may come next inside the open frames. -/
inductive Expectation where
  | value
  /-- An item, or the end of the list that was just opened. -/
  | itemOrClose
  /-- A key, or the end of the map that was just opened. -/
  | keyOrClose
  | key (members : List (StringLiteral × Node))
  | colon (members : List (StringLiteral × Node)) (key : StringLiteral)
  /-- A separator or a closing bracket after a value. -/
  | separator (node : Node)

namespace Node

/-- The list of some items, newest first, and an ending. -/
def ofItems (items : List Node) (ending : Items) : Node :=
  list (items.foldl (fun rest item => .item item rest) ending)

/-- The map of some members, newest first, and an ending. -/
def ofMembers (members : List (StringLiteral × Node)) (ending : Members) : Node :=
  map (members.foldl (fun rest pair => .member pair.1 pair.2 rest) ending)

/-- The tree of a text that breaks off at a node inside the open frames. -/
def breakOff (fault : Fault) : List Frame → Node → Node
  | [], node => node
  | .list items :: outer, node => breakOff fault outer (ofItems (node :: items) (.broken fault))
  | .map members key :: outer, node =>
    breakOff fault outer (ofMembers ((key, node) :: members) (.broken fault))

/-- The tree of a text in which no key comes after some members inside the open frames. -/
def breakOffWithoutKey (fault : Fault) (frames : List Frame)
    (members : List (StringLiteral × Node)) : Node :=
  breakOff fault frames
    (ofMembers members (if members.isEmpty then .broken fault else .dangling fault))

end Node

/-- What one lexeme leads to. -/
inductive Step where
  | next (frames : List Frame) (expectation : Expectation)
  | stop (document : Document)

namespace Step

/-- Stop with a tree that breaks off. -/
def broken (root : Node) : Step :=
  stop ⟨root, false⟩

/-- A value is expected. -/
def atValue (frames : List Frame) : Lexeme → Step
  | .null => next frames (.separator .null)
  | .boolean value => next frames (.separator (.boolean value))
  | .number literal => next frames (.separator (.number literal))
  | .string literal =>
    match literal.ending with
    | .closed => next frames (.separator (.string literal))
    | .broken fault => broken (.breakOff fault frames (.string literal))
  | .openList => next (.list [] :: frames) .itemOrClose
  | .openMap => next frames .keyOrClose
  | .damaged beginning fault => broken (.breakOff fault frames (.damaged beginning fault))
  | _ => broken (.breakOff .malformed frames (.absent .malformed))

/-- A key is expected, and nothing but a string is one. -/
def atKey (frames : List Frame) (members : List (StringLiteral × Node)) : Lexeme → Step
  | .string literal =>
    match literal.ending with
    | .closed => next frames (.colon members literal)
    | .broken fault =>
      broken (.breakOff fault (.map members literal :: frames) (.absent fault))
  | _ => broken (.breakOffWithoutKey .malformed frames members)

/-- A value has been read, and a separator or a closing bracket is expected. -/
def atSeparator (frames : List Frame) (node : Node) (lexeme : Lexeme) : Step :=
  match frames, lexeme with
  | [], _ => stop ⟨node, true⟩
  | .list items :: outer, .comma => next (.list (node :: items) :: outer) .value
  | .list items :: outer, .closeList =>
    next outer (.separator (.ofItems (node :: items) .closed))
  | .map members key :: outer, .comma => next outer (.key ((key, node) :: members))
  | .map members key :: outer, .closeMap =>
    next outer (.separator (.ofMembers ((key, node) :: members) .closed))
  | _, _ => broken (.breakOff .malformed frames node)

/-- What a lexeme leads to. -/
def ofLexeme (frames : List Frame) (expectation : Expectation) (lexeme : Lexeme) : Step :=
  match expectation with
  | .value => atValue frames lexeme
  | .itemOrClose =>
    match frames, lexeme with
    | .list items :: outer, .closeList => next outer (.separator (.ofItems items .closed))
    | _, _ => atValue frames lexeme
  | .keyOrClose =>
    match lexeme with
    | .closeMap => next frames (.separator (.map .closed))
    | _ => atKey frames [] lexeme
  | .key members => atKey frames members lexeme
  | .colon members key =>
    match lexeme with
    | .colon => next (.map members key :: frames) .value
    | _ => broken (.breakOff .malformed (.map members key :: frames) (.absent .malformed))
  | .separator node => atSeparator frames node lexeme

end Step

namespace Document

/-- The tree of a text that ends inside the open frames. -/
def atEnd (frames : List Frame) : Expectation → Node
  | .value | .itemOrClose => .breakOff .truncated frames (.absent .truncated)
  | .keyOrClose => .breakOffWithoutKey .truncated frames []
  | .key members => .breakOffWithoutKey .truncated frames members
  | .colon members key =>
    .breakOff .truncated (.map members key :: frames) (.absent .truncated)
  | .separator node => .breakOff .truncated frames node

/-- The tree of the lexemes that follow inside the open frames. -/
def build (frames : List Frame) (expectation : Expectation) : List Lexeme → Document
  | [] => ⟨atEnd frames expectation, false⟩
  | lexeme :: rest =>
    match Step.ofLexeme frames expectation lexeme with
    | .next frames expectation => build frames expectation rest
    | .stop document => document

/-- The tree of a text. -/
def ofText (text : String) : Document :=
  build [] .value (Lexeme.scan text.toList)

end Document

end DiagnosticReplay.Json
