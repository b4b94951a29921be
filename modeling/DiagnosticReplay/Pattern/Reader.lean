import DiagnosticReplay.Pattern.Escape
import DiagnosticReplay.Pattern.Flags
import DiagnosticReplay.Pattern.Nesting
import DiagnosticReplay.Text.CharacterClass
import DiagnosticReplay.Text.Ascii

/-! # Reading patterns

A pattern is read character by character. What is open, groups and classes, is held on stacks, and
of what is closed only the depth is kept. No brace is closed after it was opened, so an opening one
outside of classes and comments begins nothing that could be finished.
-/

namespace DiagnosticReplay.Pattern

/-- What a reader stands before. -/
inductive Spot where
  /-- Before a part of the pattern. -/
  | part
  /-- After an operator of repetition, which a question mark makes reluctant. -/
  | repetition
  /-- After a backslash. -/
  | escape
  /-- Before the digits of a code, the value of those before, and the number of those to come. -/
  | code (value digits : Nat) (isByte : Bool)
  /-- Before the name of a property. -/
  | property
  /-- After the parenthesis that opens a group. -/
  | group
  /-- After some flags of a group, the newest first. -/
  | flags (letters : List Char)
  /-- Before the bracket that opens the name of a group. -/
  | nameBracket
  /-- After some characters of the name of a group, the newest first. -/
  | name (characters : List Char)
  /-- After the bracket that opens a class. -/
  | classStart
  /-- Before the first item of a class that is no dash. -/
  | classFirst (hasDash : Bool)
  /-- Before an item of a class. -/
  | item
  /-- After a character in a class, or after a kind of characters. -/
  | afterItem (character : Option Char)
  /-- Before the end of a range. -/
  | rangeEnd
  /-- Before the rest of something in a class that is already known. -/
  | known (length : Nat)
deriving DecidableEq, Repr

/-- White space and comments may stand at the spot, if the flags allow them at all. -/
def Spot.isGap : Spot → Bool
  | part => true
  | code .. => true
  | property => true
  | group => true
  | classStart => true
  | classFirst _ => true
  | item => true
  | afterItem _ => true
  | rangeEnd => true
  | _ => false

/-- What was read of a pattern. -/
structure State where
  spot : Spot := .part
  inComment : Bool := false
  flags : Flags := {}
  /-- The innermost open group, or the whole pattern. -/
  opened : OpenGroup := {}
  /-- What is around it, and the flags that hold there. -/
  outer : List (Flags × OpenGroup) := []
  /-- The names of groups. -/
  names : List (List Char) := []
  /-- The open classes, the innermost first. -/
  classes : List OpenClass := []
  /-- The start of a range whose end is read next. -/
  rangeStart : Option Char := none
  /-- The boundary of a word of Unicode characters is asked for. -/
  hasWordBoundary : Bool := false
deriving DecidableEq, Repr

namespace State

/-- Go to a spot. -/
def goTo (state : State) (spot : Spot) : State :=
  { state with spot }

/-- Finish a part. -/
def addPart (state : State) (part : Part) : State :=
  { state with spot := .part, opened := state.opened.add part }

/-- Finish an item of the innermost class. -/
def addItem (state : State) (depth : Nat) (spot : Spot) : State :=
  { state with spot, classes := state.classes.modifyHead (·.add depth), rangeStart := none }

/-! ### Groups -/

/-- Open a group with flags of its own. -/
def openGroup (state : State) (flags : Flags) : State :=
  { state with
    spot := .part, flags, opened := {}, outer := (state.flags, state.opened) :: state.outer }

/-- Close the innermost group, if one is open. The flags are again those around it. -/
def closeGroup? (state : State) : Option State :=
  match state.outer with
  | [] => none
  | (flags, opened) :: outer =>
    some { state with
      spot := .part, flags, outer, opened := opened.add { depth := state.opened.innerDepth + 1 } }

/-- Go on after some flags by a character. Flags alone are a part that cannot be repeated. -/
def afterFlags? (state : State) (letters : List Char) (character : Char) : Option State :=
  let flags := state.flags.apply letters.reverse
  let finished := letters.head? != some '-'
  match character, letters with
  | '<', [] => some (state.goTo (.name []))
  | 'P', [] => some (state.goTo .nameBracket)
  | ':', _ => if finished then some (state.openGroup flags) else none
  | ')', _ :: _ =>
    if finished then some ({ state with flags }.addPart { repeatable := false }) else none
  | _, _ =>
    if Flags.letters.contains character && !letters.contains character then
      some (state.goTo (.flags (character :: letters)))
    else none

/-- The name of a group can go on by the character. -/
def isNameCharacter (isFirst : Bool) (character : Char) : Bool :=
  if isFirst then character == '_' || Text.isAlphabetic character
  else "_.[]".toList.contains character || Text.isAlphanumeric character

/-- Go on after some characters of a name. Two groups cannot have one name. -/
def afterName? (state : State) (characters : List Char) (character : Char) : Option State :=
  if character = '>' then
    if characters.isEmpty || state.names.contains characters then none
    else some ({ state with names := characters :: state.names }.openGroup state.flags)
  else if isNameCharacter characters.isEmpty character then
    some (state.goTo (.name (character :: characters)))
  else none

/-! ### Literals and escapes -/

/-- End a range by a character, which must not come before its start. -/
def endRange? (state : State) (start character : Char) : Option State :=
  if start ≤ character then some (state.addItem 0 .item) else none

/-- Take up a literal, as a part or in the innermost class. -/
def addLiteral? (state : State) (literal : Literal) : Option State :=
  if state.classes.isEmpty then
    if state.flags.admits literal then some (state.addPart {}) else none
  else if state.flags.admitsInClass literal then
    match state.rangeStart with
    | some start => state.endRange? start literal.character
    | none => some (state.goTo (.afterItem (some literal.character)))
  else none

/-- Take up a kind of characters, as a part or in the innermost class. It cannot end a range. -/
def addKind? (state : State) : Option State :=
  if state.classes.isEmpty then some (state.addPart {})
  else if state.rangeStart.isNone then some (state.goTo (.afterItem none))
  else none

/-- Take up a place. No place stands in a class. -/
def addPlace? (state : State) : Option State :=
  if state.classes.isEmpty then some (state.addPart {}) else none

/-- Go on after a backslash. -/
def afterBackslash? (state : State) (character : Char) : Option State :=
  match Escape.ofChar? character with
  | none => none
  | some (.single character) => state.addLiteral? { character }
  | some (.kind negated) => if state.flags.admitsKind negated then state.addKind? else none
  | some (.code digits) => some (state.goTo (.code 0 digits (digits == 2)))
  | some .property => some (state.goTo .property)
  | some .edge => state.addPlace?
  | some .wordBoundary =>
    { state with hasWordBoundary := state.hasWordBoundary || state.flags.unicode }.addPlace?

/-- Go on in a code by a digit. What the code stands for must be a character. -/
def afterDigit? (state : State) (value digits : Nat) (isByte : Bool) (character : Char) :
    Option State :=
  match Text.hexValue? character with
  | none => none
  | some digit =>
    let value := 16 * value + digit
    if 1 < digits then some (state.goTo (.code value (digits - 1) isByte))
    else if value.isValidChar then state.addLiteral? { character := Char.ofNat value, isByte }
    else none

/-- Take up a property by its name. Only characters have properties. -/
def afterProperty? (state : State) (character : Char) : Option State :=
  if isPropertyLetter character && state.flags.unicode then state.addKind? else none

/-! ### Classes -/

/-- The names of classes that stand in brackets and colons within a class. -/
def classNames : List String :=
  ["alnum", "alpha", "ascii", "blank", "cntrl", "digit", "graph", "lower", "print", "punct",
    "space", "upper", "word", "xdigit"]

/-- A named class after its bracket: whether it is negated, and the length of what stands after the
bracket. -/
def namedClass? (text : List Char) : Option (Bool × Nat) :=
  let (negated, name) : Bool × List Char :=
    match text with
    | ':' :: '^' :: name => (true, name)
    | ':' :: name => (false, name)
    | _ => (false, [])
  let letters := name.takeWhile (· != ':')
  match name.dropWhile (· != ':') with
  | ':' :: ']' :: rest =>
    if classNames.contains (String.ofList letters) then some (negated, text.length - rest.length)
    else none
  | _ => none

/-- Open a class, which may stand in another. -/
def openClass (state : State) : State :=
  { state with spot := .classStart, classes := {} :: state.classes }

/-- Close the innermost class. -/
def closeClass? (state : State) : Option State :=
  match state.classes with
  | [] => none
  | [opened] => some ({ state with classes := [] }.addPart { depth := opened.innerDepth + 1 })
  | opened :: classes => some ({ state with classes }.addItem (opened.innerDepth + 1) .item)

/-- Go on before an item of a class. -/
def stepItem? (state : State) (character : Char) (rest : List Char) : Option State :=
  if character = '[' then
    match namedClass? rest with
    | some (negated, length) =>
      if state.flags.admitsKind negated then some (state.addItem 0 (.known length)) else none
    | none => some state.openClass
  else if character = ']' then state.closeClass?
  else if "&-~".toList.contains character && rest.head? == some character then
    some { state with spot := .known 1, classes := state.classes.modifyHead OpenClass.operate }
  else if character = '\\' then some (state.goTo .escape)
  else state.addLiteral? { character }

/-- Go on before the first item of a class. Dashes stand for themselves there, and so does a closing
bracket before which there is no dash. -/
def stepFirst? (state : State) (hasDash : Bool) (character : Char) (rest : List Char) :
    Option State :=
  if character = '-' then some (state.addItem 0 (.classFirst true))
  else if character = ']' && !hasDash then some (state.addItem 0 .item)
  else state.stepItem? character rest

/-- Go on after the bracket that opens a class. All but some bytes breaks the encoding of a text. -/
def stepStart? (state : State) (character : Char) (rest : List Char) : Option State :=
  if character = '^' then
    if state.flags.unicode then some (state.goTo (.classFirst false)) else none
  else state.stepFirst? false character rest

/-- The character that a dash in a class is judged by: the next that is not skipped. What is skipped
is white space, and one number sign in it. -/
def afterDash? (flags : Flags) (rest : List Char) : Option Char :=
  if flags.spaced then
    let visible :=
      match rest.dropWhile Text.isWhiteSpace with
      | '#' :: comment => comment.dropWhile Text.isWhiteSpace
      | others => others
    visible.head? <|> rest.head?
  else rest.head?

/-- Go on after a character in a class, or after a kind of characters. A dash makes a range, unless
it is the last thing in the class or the first character of an operator. -/
def stepAfterItem? (state : State) (start : Option Char) (character : Char) (rest : List Char) :
    Option State :=
  let next := afterDash? state.flags rest
  if character = '-' && next != some ']' && next != some '-' then
    start.map fun start => { state with spot := .rangeEnd, rangeStart := some start }
  else (state.addItem 0 .item).stepItem? character rest

/-! ### Parts -/

/-- Go on before a part. -/
def stepPart? (state : State) (character : Char) : Option State :=
  match character with
  | '(' => some (state.goTo .group)
  | ')' => state.closeGroup?
  | '|' => some { state with spot := .part, opened := state.opened.branch }
  | '[' => some state.openClass
  | '\x7b' => none
  | '\\' => some (state.goTo .escape)
  | '.' => if state.flags.unicode then some (state.addPart {}) else none
  | _ =>
    if "?*+".toList.contains character then
      state.opened.repeatLast?.map fun opened => { state with spot := .repetition, opened }
    else state.addLiteral? { character }

/-- Go on by a character that is not skipped, given what follows it. -/
def stepShown? (state : State) (character : Char) (rest : List Char) : Option State :=
  match state.spot with
  | .part => state.stepPart? character
  | .repetition => some (state.goTo .part)
  | .escape => state.afterBackslash? character
  | .code value digits isByte => state.afterDigit? value digits isByte character
  | .property => state.afterProperty? character
  | .group =>
    if character = '?' then some (state.goTo (.flags []))
    else (state.openGroup state.flags).stepPart? character
  | .flags letters => state.afterFlags? letters character
  | .nameBracket => if character = '<' then some (state.goTo (.name [])) else none
  | .name characters => state.afterName? characters character
  | .classStart => state.stepStart? character rest
  | .classFirst hasDash => state.stepFirst? hasDash character rest
  | .item => state.stepItem? character rest
  | .afterItem start => state.stepAfterItem? start character rest
  | .rangeEnd =>
    if character = '\\' then some (state.goTo .escape) else state.addLiteral? { character }
  | .known length =>
    some (state.goTo (if length ≤ 1 then .item else .known (length - 1)))

/-- The state before a character. Only a question mark is taken together with the operator of
repetition before it. -/
def before (state : State) (character : Char) : State :=
  if state.spot = .repetition ∧ character ≠ '?' then state.goTo .part else state

/-- Go on by a character, given what follows it. -/
def step? (state : State) (character : Char) (rest : List Char) : Option State :=
  let state := state.before character
  if state.inComment then some { state with inComment := character != '\n' }
  else if state.flags.spaced && state.spot.isGap && Text.isWhiteSpace character then some state
  else if state.flags.spaced && state.spot.isGap && character == '#' then
    some { state with inComment := true }
  else state.stepShown? character rest

/-- Read a whole text. -/
def readFrom? (state : State) : List Char → Option State
  | [] => some state
  | character :: rest => do (← state.step? character rest).readFrom? rest

/-- The text may end here. -/
def isComplete (state : State) : Bool :=
  (state.spot == .part || state.spot == .repetition) && state.outer.isEmpty
    && state.opened.innerDepth ≤ greatestDepth

end State

end DiagnosticReplay.Pattern
