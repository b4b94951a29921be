/-! # Line maps

A line map turns a byte offset into a line and a column. Offsets and columns count UTF-8 bytes. A
line feed, a carriage return, and a carriage return with a line feed after it each end one line. An
offset past the end of the text belongs to the last line.

Offsets are 32-bit words, so a table is meaningful for texts shorter than `2 ^ 32 - 1` bytes.
-/

namespace DiagnosticReplay.Source

/-- A place in a text: the line counts from one, the column from zero in bytes. -/
structure Position where
  line : UInt32
  column : UInt32
deriving DecidableEq, Repr

/-- The byte offsets at which the lines of a text start. -/
structure LineMap where
  starts : Array UInt32
deriving DecidableEq, Repr

namespace LineMap

/-- The line starts after the first, for a text that begins at byte `offset`. -/
def startsAfter (offset : Nat) : List Char → List Nat
  | [] => []
  | '\r' :: '\n' :: rest => (offset + 2) :: startsAfter (offset + 2) rest
  | character :: rest =>
    let next := offset + character.utf8Size
    if character = '\n' ∨ character = '\r' then next :: startsAfter next rest
    else startsAfter next rest

/-- The line map of a text. Its first line starts at zero, also when the text is empty. -/
def ofText (text : String) : LineMap where
  starts := ((0 :: startsAfter 0 text.toList).map UInt32.ofNat).toArray

/-- Where an offset falls in a table of line starts. -/
inductive Slot where
  /-- The offset is the start of the line with this index. -/
  | found (index : Nat)
  /-- The offset would have to be inserted at this index. -/
  | missing (insertion : Nat)
deriving DecidableEq, Repr

/-- Halve the span from `low` to `high` until it shows where the offset falls. -/
def searchBetween (starts : Array UInt32) (offset : UInt32) (low high : Nat) : Slot :=
  if low < high then
    let middle := low + (high - low) / 2
    match starts[middle]? with
    | none => .missing low
    | some start =>
      if start < offset then searchBetween starts offset (middle + 1) high
      else if offset < start then searchBetween starts offset low middle
      else .found middle
  else .missing low
termination_by high - low

/-- Where an offset falls among the line starts. -/
def search (map : LineMap) (offset : UInt32) : Slot :=
  searchBetween map.starts offset 0 map.starts.size

/-- The index of the line that holds an offset, unless every line starts after it. -/
def lineIndex? (map : LineMap) (offset : UInt32) : Option Nat :=
  match map.search offset with
  | .found index => some index
  | .missing 0 => none
  | .missing (index + 1) => some index

/-- The position of an offset. There is none if no line starts at or before the offset, or if the
line number needs more than 32 bits. -/
def position? (map : LineMap) (offset : UInt32) : Option Position := do
  let index ← map.lineIndex? offset
  let start ← map.starts[index]?
  if start ≤ offset ∧ index + 1 < UInt32.size then
    some { line := UInt32.ofNat (index + 1), column := offset - start }
  else none

/-- The position of an offset, where a table without a line for it is read as one line. -/
def position (map : LineMap) (offset : UInt32) : Position :=
  (map.position? offset).getD { line := 1, column := offset }

/-- The number of lines. -/
def lineCount (map : LineMap) : Nat :=
  map.starts.size

end LineMap

end DiagnosticReplay.Source
