import DiagnosticReplay.Text.Ascii

/-! # String literals

A string literal is scanned without being judged: it keeps its escapes of UTF-16 units as numbers.
Only a reader that uses the text asks whether the units pair up, so a literal that is skipped may
hold half a pair. A literal can also break off, at a character that does not belong there or because
the text ends too early; which of both it was is all that is kept of a fault, here and in the other
literals.
-/

namespace DiagnosticReplay.Json

/-- Why a text is not JSON from some place on. -/
inductive Fault where
  /-- The text goes on in a way that JSON does not allow. -/
  | malformed
  /-- The text ends too early. -/
  | truncated
deriving DecidableEq, Repr

/-- How something that needs an end comes to it. -/
inductive Ending where
  | closed
  | broken (fault : Fault)
deriving DecidableEq, Repr

/-- A part of a string literal. -/
inductive StringPart where
  /-- A character, as it stands or by a short escape. -/
  | character (value : Char)
  /-- A UTF-16 unit, escaped by its number. -/
  | unit (value : Nat)
deriving DecidableEq, Repr

/-- A string literal without its quotes, as far as it goes. -/
structure StringLiteral where
  parts : List StringPart
  ending : Ending
deriving DecidableEq, Repr

namespace StringLiteral

/-- The literal with a part before it. -/
def consPart (part : StringPart) (literal : StringLiteral) : StringLiteral :=
  { literal with parts := part :: literal.parts }

/-- The character of an escape of one letter. -/
def shortEscape? : Char → Option Char
  | '"' => some '"'
  | '\\' => some '\\'
  | '/' => some '/'
  | 'b' => some '\x08'
  | 'f' => some '\x0c'
  | 'n' => some '\n'
  | 'r' => some '\r'
  | 't' => some '\t'
  | _ => none

/-- The number of four hexadecimal digits. -/
def unitValue? (first second third fourth : Char) : Option Nat := do
  let a ← Text.hexValue? first
  let b ← Text.hexValue? second
  let c ← Text.hexValue? third
  let d ← Text.hexValue? fourth
  some (4096 * a + 256 * b + 16 * c + d)

/-- The length of a text in bytes. -/
def byteLength (text : List Char) : Nat :=
  text.foldl (fun length character => length + character.utf8Size) 0

/-- The literal that ends at once by a fault, after which nothing is scanned. -/
def stop (fault : Fault) : StringLiteral × List Char :=
  (⟨[], .broken fault⟩, [])

/-- Scan a string literal after its opening quote, and give what follows it. -/
def scan : List Char → StringLiteral × List Char
  | [] => stop .truncated
  | '"' :: rest => (⟨[], .closed⟩, rest)
  | '\\' :: 'u' :: first :: second :: third :: fourth :: rest =>
    match unitValue? first second third fourth with
    | some value =>
      let scanned := scan rest
      (scanned.1.consPart (.unit value), scanned.2)
    | none => stop .malformed
  | '\\' :: 'u' :: rest => stop (if byteLength rest < 4 then .truncated else .malformed)
  | '\\' :: letter :: rest =>
    match shortEscape? letter with
    | some value =>
      let scanned := scan rest
      (scanned.1.consPart (.character value), scanned.2)
    | none => stop .malformed
  | ['\\'] => stop .truncated
  | value :: rest =>
    if value.toNat < 0x20 then stop .malformed
    else
      let scanned := scan rest
      (scanned.1.consPart (.character value), scanned.2)

/-- What follows a literal is not longer than what was scanned. -/
theorem length_scan_le (text : List Char) : (scan text).2.length ≤ text.length := by
  fun_induction scan text with
  | case3 => simp +zetaDelta only [List.length_cons]; omega
  | case6 => simp +zetaDelta only [List.length_cons]; omega
  | case10 => simp +zetaDelta only [List.length_cons]; omega
  | _ => simp [stop]

/-- The unit is the first of a pair. -/
def isLeading (unit : Nat) : Bool :=
  0xd800 ≤ unit && unit < 0xdc00

/-- The unit is the second of a pair. -/
def isTrailing (unit : Nat) : Bool :=
  0xdc00 ≤ unit && unit < 0xe000

/-- The character of a pair of units. -/
def pairValue (leading trailing : Nat) : Char :=
  Char.ofNat (0x10000 + (leading - 0xd800) * 0x400 + (trailing - 0xdc00))

/-- The characters of some parts. A unit that is half of a pair needs its other half right after. -/
def decodeParts (ending : Ending) : List StringPart → Except Fault (List Char)
  | [] =>
    match ending with
    | .closed => .ok []
    | .broken fault => .error fault
  | .character value :: rest => return value :: (← decodeParts ending rest)
  | .unit leading :: .unit trailing :: rest =>
    if isTrailing leading then .error .malformed
    else if isLeading leading then
      if isTrailing trailing then return pairValue leading trailing :: (← decodeParts ending rest)
      else .error .malformed
    else return Char.ofNat leading :: (← decodeParts ending (.unit trailing :: rest))
  | .unit value :: rest =>
    if isTrailing value then .error .malformed
    else if isLeading value then
      match rest, ending with
      | [], .broken fault => .error fault
      | _, _ => .error .malformed
    else return Char.ofNat value :: (← decodeParts ending rest)

/-- The text of the literal. -/
def decode (literal : StringLiteral) : Except Fault String := do
  return String.ofList (← decodeParts literal.ending literal.parts)

end StringLiteral

end DiagnosticReplay.Json
