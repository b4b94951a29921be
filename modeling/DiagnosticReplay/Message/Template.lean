/-! # Templates

A template is cut from left to right into literal characters, `$$` pairs, and `$name` pieces. A name
is as long as the name characters go on. A dollar sign that neither a dollar sign nor a name
character follows is a literal character.
-/

namespace DiagnosticReplay.Template

/-- The characters of a name: ASCII letters and digits, `_`, `-`, and the two characters outside
ASCII whose case folding is an ASCII letter. -/
def isNameChar (character : Char) : Bool :=
  character.isAlphanum || character == '_' || character == '-'
    || character == '\u017f' || character == '\u212a'

/-- A piece of a template. -/
inductive Piece where
  /-- A character that stands for itself. -/
  | literal (character : Char)
  /-- A `$$` pair. -/
  | dollarPair
  /-- A dollar sign and the name after it. -/
  | placeholder (name : List Char)
deriving DecidableEq, Repr

/-- The text of a piece in its template. -/
def Piece.source : Piece → List Char
  | literal character => [character]
  | dollarPair => ['$', '$']
  | placeholder name => '$' :: name

/-- Cut a template into its pieces. -/
def cut : List Char → List Piece
  | [] => []
  | '$' :: '$' :: rest => .dollarPair :: cut rest
  | '$' :: rest =>
    match rest.takeWhile isNameChar with
    | [] => .literal '$' :: cut rest
    | name => .placeholder name :: cut (rest.dropWhile isNameChar)
  | character :: rest => .literal character :: cut rest
termination_by template => template.length
decreasing_by
  all_goals simp only [List.length_cons]
  · omega
  · omega
  · have := (List.dropWhile_suffix (l := rest) isNameChar).length_le
    omega
  · omega

end DiagnosticReplay.Template
