import DiagnosticReplay.Text.PercentEncoding
import DiagnosticReplay.Text.Split

/-! # File URIs

The URI of a file path. The path is cut into segments at both kinds of slash, and each segment into
stretches at tabs and line breaks, which are dropped. Segments are taken one after the other: a `..`
segment takes the segment before it along, a `.` segment goes, and a drive letter keeps its colon.
A segment is percent-encoded before it is taken, and the text so far decides how the next one is
taken. The first segment of a path without a slash before it is never removed.
-/

namespace DiagnosticReplay.FileUri

open Text

/-- Both kinds of slash end a segment. -/
def isSlash (character : Char) : Bool :=
  character == '/' || character == '\\'

/-- Tabs and line breaks are dropped from a path. -/
def isDropped (character : Char) : Bool :=
  character == '\t' || character == '\n' || character == '\r'

/-- The text is a letter and one of the separators, and nothing else. -/
def isDrive (separators : List Char) : List Char → Bool
  | [letter, separator] => letter.isAlpha && separators.contains separator
  | _ => false

/-- The text starts with a drive: a letter and a colon or a bar, and then the end or a separator. -/
def startsWithDrive : List Char → Bool
  | letter :: mark :: rest =>
    letter.isAlpha && (mark == ':' || mark == '|')
      && match rest with
        | [] => true
        | next :: _ => ['/', '\\', '?', '#'].contains next
  | _ => false

/-- A segment in which every encoded dot is a dot and letters are in lower case. -/
def plainDots : List Char → List Char
  | '%' :: '2' :: 'e' :: rest => '.' :: plainDots rest
  | '%' :: '2' :: 'E' :: rest => '.' :: plainDots rest
  | character :: rest => character :: plainDots rest
  | [] => []

/-- The text ends in a slash. -/
def endsInSlash (text : List Char) : Bool :=
  text.getLast? == some '/'

/-- What follows the last slash of a text, unless it has no slash. -/
def afterLastSlash? (text : List Char) : Option (List Char) :=
  if text.contains '/' then some (text.reverse.takeWhile (· != '/')).reverse else none

/-- A text up to and with its last slash. -/
def uptoLastSlash (text : List Char) : List Char :=
  (text.reverse.dropWhile (· != '/')).reverse

/-- The text without its last segment. A drive letter is kept. -/
def removeSegment (text : List Char) : List Char :=
  let closed :=
    if endsInSlash text then
      match afterLastSlash? text.dropLast with
      | some segment => if startsWithDrive segment then text else text.dropLast
      | none => text
    else text
  if closed.isEmpty || isDrive [':'] closed then closed
  else
    match afterLastSlash? closed with
    | some segment => if isDrive [':'] segment then closed else uptoLastSlash closed
    | none => closed

/-- The text with a slash at its end, unless it is empty or has one. -/
def closeSegment (text : List Char) : List Char :=
  if text.isEmpty || endsInSlash text then text else text ++ ['/']

/-- Take an encoded segment into the text that stands before it. The segment comes without its slash,
and `slash` tells whether it had one. -/
def takeSegment (before segment : List Char) (slash : Bool) : List Char :=
  let ending := if slash then ['/'] else []
  if plainDots segment = ['.', '.'] then
    let parent := removeSegment before
    if slash then closeSegment parent else parent
  else if plainDots segment = ['.'] then closeSegment before
  else if before.length = 1 && isDrive [':', '|'] segment then
    before ++ segment.take 1 ++ [':'] ++ ending
  else before ++ segment ++ ending

/-- Put a stretch of a segment after what was read. The number tells how many characters stand before
the segment. After a drive that only a dropped character ends, a new segment starts. -/
def readStretch (read : List Char × Nat) (stretch : List Char) : List Char × Nat :=
  if stretch.isEmpty then read
  else if isDrive [':'] (read.1.drop 1) then
    (read.1 ++ '/' :: PercentEncoding.encode stretch, read.2 + 1)
  else (read.1 ++ PercentEncoding.encode stretch, read.2)

/-- Take a segment of a path into the text that stands before it. -/
def readSegment (before segment : List Char) (slash : Bool) : List Char :=
  let stretches := splitWhere isDropped segment
  let read := stretches.foldl readStretch (before, before.length)
  takeSegment (read.1.take read.2) (read.1.drop read.2) slash

/-- Take segments of a path into the text that stands before them. All but the last had a slash. -/
def readSegments (before : List Char) : List (List Char) → List Char
  | [] => before
  | [segment] => readSegment before segment false
  | segment :: rest => readSegments (readSegment before segment true) rest

/-- The encoded path of a path. -/
def encodePath (path : List Char) : List Char :=
  readSegments [] (splitWhere isSlash path)

/-- The file URI of a path. -/
def ofPath (path : List Char) : List Char :=
  "file:///".toList ++ (encodePath path).dropWhile (· == '/')

end DiagnosticReplay.FileUri
