/-! # Splitting

A text cut at every separator. There is one part more than there are separators, so a text without
one is a single part, and two separators side by side have an empty part between them.
-/

namespace DiagnosticReplay.Text

/-- The parts of a text between its separators. -/
def splitWhere (isSeparator : Char → Bool) : List Char → List (List Char)
  | [] => [[]]
  | character :: rest =>
    if isSeparator character then [] :: splitWhere isSeparator rest
    else (splitWhere isSeparator rest).modifyHead (character :: ·)

/-- The parts of a text between the places where a character stands. -/
def splitAt (separator : Char) (text : String) : List String :=
  (splitWhere (· == separator) text.toList).map String.ofList

/-- A text has at least one part. -/
theorem splitWhere_ne_nil (isSeparator : Char → Bool) (text : List Char) :
    splitWhere isSeparator text ≠ [] := by
  induction text with
  | nil => simp [splitWhere]
  | cons character rest shorter =>
    rw [splitWhere]
    split
    · simp
    · simpa using shorter

end DiagnosticReplay.Text
