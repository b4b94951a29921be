import DiagnosticReplay.Pattern.Reader

/-! # Patterns

A pattern is a regular expression over characters. Nothing is ever matched by one here: all that is
asked of a text is whether it can be used as a pattern, and if not, why. In the texts that are asked
about no brace is closed after it was opened.
-/

namespace DiagnosticReplay.Pattern

/-- Why a text cannot be used as a pattern. -/
inductive Fault where
  | malformed
  /-- The boundary of a word of Unicode characters is asked for, which cannot be looked for. -/
  | wordBoundary
deriving DecidableEq, Repr

/-- Why a text cannot be used as a pattern, if it cannot. -/
def fault? (text : List Char) : Option Fault :=
  match ({} : State).readFrom? text with
  | some state =>
    if !state.isComplete then some .malformed
    else if state.hasWordBoundary then some .wordBoundary
    else none
  | none => some .malformed

end DiagnosticReplay.Pattern
