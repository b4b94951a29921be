/-! # Control sequences

A text can hold sequences that a terminal obeys instead of showing them: an escape character with a
command after it, or a string that runs up to a terminator. What goes to a file is plain, so such
sequences are taken out, and so is every other control but the blank ones.

A blank control inside a command shows, and what follows it shows as well. The command is not
forgotten, though: the next control that does not show takes it up again.
-/

namespace DiagnosticReplay.Text.ControlSequence

/-- Where a terminal stands between two characters. -/
inductive State where
  /-- Outside of any sequence. -/
  | ground
  /-- After an escape character. -/
  | escape
  /-- In an escape sequence that has begun with an intermediate character. -/
  | intermediate
  /-- In a command with parameters. -/
  | command
  /-- After the start of a command for a device. -/
  | deviceStart
  /-- In the parameters of a command for a device. -/
  | deviceParameters
  /-- After the intermediate characters of a command for a device. -/
  | deviceIntermediate
  /-- In a string for the device or the application, or in one that nobody reads. -/
  | deviceString
  /-- In a string for the system that the terminal runs on. -/
  | systemString
deriving DecidableEq, Repr

/-- The code is one of those from `first` to `last`. -/
def within (first last code : Nat) : Bool :=
  first ≤ code && code ≤ last

/-- A control that shows as a blank. -/
def isBlankControl (character : Char) : Bool :=
  character == '\t' || character == '\n' || character == '\x0c' || character == '\r'

/-- The character shows outside of any sequence. -/
def shows (character : Char) : Bool :=
  within 0x20 0x7e character.toNat || 0x80 ≤ character.toNat || isBlankControl character

namespace State

/-- The state after an escape character and another character. -/
def afterEscape (code : Nat) : State :=
  if within 0x20 0x2f code then intermediate
  else if code = 0x5b then command
  else if code = 0x50 then deviceStart
  else if code = 0x5d then systemString
  else if code = 0x58 ∨ code = 0x5e ∨ code = 0x5f then deviceString
  else if within 0x30 0x7e code then ground
  else escape

/-- The state within a command for a device after another character. A string follows the last
character of the command, and where a command is out of order, the rest of it is a string too. -/
def inDeviceCommand (state : State) (code : Nat) : State :=
  if within 0x40 0x7e code then deviceString
  else if within 0x20 0x2f code then deviceIntermediate
  else if within 0x30 0x3f code then
    match state with
    | deviceStart => deviceParameters
    | deviceParameters => if within 0x3c 0x3f code then deviceString else deviceParameters
    | _ => deviceString
  else state

/-- The byte `0x9c` of a character outside ASCII ends a device string. -/
def holdsTerminator (character : Char) : Bool :=
  0x80 ≤ character.toNat && (String.utf8EncodeChar character).contains 0x9c

/-- The state after a character that does not show. An escape character starts a sequence and two
other controls break one off, whatever stands before them. -/
def next (state : State) (character : Char) : State :=
  let code := character.toNat
  if code = 0x1b then escape
  else if code = 0x18 ∨ code = 0x1a then ground
  else
    match state with
    | ground => ground
    | escape => afterEscape code
    | intermediate => if within 0x30 0x7e code then ground else intermediate
    | command => if within 0x40 0x7e code then ground else command
    | deviceStart => inDeviceCommand deviceStart code
    | deviceParameters => inDeviceCommand deviceParameters code
    | deviceIntermediate => inDeviceCommand deviceIntermediate code
    | deviceString => if holdsTerminator character then ground else deviceString
    | systemString => if code = 0x07 then ground else systemString

/-- A blank control shows although the state is not the ground. -/
def showsBlanks : State → Bool
  | escape => true
  | intermediate => true
  | command => true
  | _ => false

/-- The character shows in the state, where `showing` tells whether the one before it did. -/
def shows (state : State) (showing : Bool) (character : Char) : Bool :=
  if showing ∨ state = ground then ControlSequence.shows character
  else state.showsBlanks && isBlankControl character

end State

/-- What shows of a text that starts in a state. A character outside ASCII that shows ends whatever
command was begun before it. -/
def plain (state : State) (showing : Bool) : List Char → List Char
  | [] => []
  | character :: rest =>
    if state.shows showing character then
      character :: plain (if 0x80 ≤ character.toNat then .ground else state) true rest
    else plain (state.next character) false rest

/-- The text without control sequences. -/
def remove (text : String) : String :=
  String.ofList (plain .ground true text.toList)

end DiagnosticReplay.Text.ControlSequence
