import DiagnosticReplay.Json.NumberLiteral
import DiagnosticReplay.Json.StringLiteral

/-! # Lexemes

A JSON text is cut into lexemes: brackets, separators and literals. Blanks between them leave no
trace. Scanning goes on as far as the text can be cut, and what stops it is the last lexeme, so that
a reader meets it where it stands and not earlier.
-/

namespace DiagnosticReplay.Json

/-- What a literal that breaks off began as. -/
inductive Beginning where
  | null
  | boolean
  | number
deriving DecidableEq, Repr

/-- A lexeme of a JSON text. -/
inductive Lexeme where
  | openList
  | closeList
  | openMap
  | closeMap
  | colon
  | comma
  | null
  | boolean (value : Bool)
  | number (literal : NumberLiteral)
  | string (literal : StringLiteral)
  /-- A literal that breaks off. -/
  | damaged (beginning : Beginning) (fault : Fault)
  /-- A character that starts no lexeme. -/
  | stray
deriving DecidableEq, Repr

namespace Lexeme

/-- Blanks may stand between lexemes. -/
def isBlank (character : Char) : Bool :=
  character == ' ' || character == '\t' || character == '\n' || character == '\r'

/-- The lexeme of a bracket or separator. -/
def ofMark? : Char → Option Lexeme
  | '[' => some openList
  | ']' => some closeList
  | '\x7b' => some openMap
  | '\x7d' => some closeMap
  | ':' => some colon
  | ',' => some comma
  | _ => none

/-- A literal name by its first letter: the letters after it, the lexeme, and what it begins as. -/
def ofName? : Char → Option (List Char × Lexeme × Beginning)
  | 'n' => some ("ull".toList, null, .null)
  | 't' => some ("rue".toList, boolean true, .boolean)
  | 'f' => some ("alse".toList, boolean false, .boolean)
  | _ => none

/-- What follows the expected letters. -/
def afterLetters : List Char → List Char → Except Fault (List Char)
  | [], text => .ok text
  | _ :: _, [] => .error .truncated
  | expected :: letters, character :: rest =>
    if character = expected then afterLetters letters rest else .error .malformed

theorem length_of_afterLetters {letters text rest : List Char}
    (scanned : afterLetters letters text = .ok rest) : rest.length ≤ text.length := by
  induction letters generalizing text with
  | nil =>
    simp only [afterLetters, Except.ok.injEq] at scanned
    exact Nat.le_of_eq (congrArg List.length scanned.symm)
  | cons expected letters ih =>
    cases text with
    | nil => simp [afterLetters] at scanned
    | cons character tail =>
      rw [afterLetters] at scanned
      split at scanned
      · exact Nat.le_succ_of_le (ih scanned)
      · simp at scanned

/-- The number literal that a character starts, and what follows it. -/
def scanNumber (character : Char) (rest : List Char) :
    Except Fault (NumberLiteral × List Char) :=
  if character = '-' then NumberLiteral.scanUnsigned true rest
  else NumberLiteral.scanUnsigned false (character :: rest)

theorem length_of_scanNumber {character : Char} {text rest : List Char} {literal : NumberLiteral}
    (scanned : scanNumber character text = .ok (literal, rest)) : rest.length ≤ text.length := by
  unfold scanNumber at scanned
  split at scanned
  · exact Nat.le_of_lt (NumberLiteral.length_of_scanUnsigned scanned)
  · exact Nat.le_of_lt_succ (NumberLiteral.length_of_scanUnsigned scanned)

/-- The lexemes of a text, up to the first that breaks off. -/
def scan : List Char → List Lexeme
  | [] => []
  | character :: rest =>
    if isBlank character then scan rest
    else if character = '"' then
      let scanned := StringLiteral.scan rest
      string scanned.1 :: scan scanned.2
    else if character = '-' ∨ character.isDigit then
      match _found : scanNumber character rest with
      | .ok (literal, after) => number literal :: scan after
      | .error fault => [damaged .number fault]
    else
      match ofMark? character, ofName? character with
      | some mark, _ => mark :: scan rest
      | none, some (letters, name, beginning) =>
        match _found : afterLetters letters rest with
        | .ok after => name :: scan after
        | .error fault => [damaged beginning fault]
      | none, none => [stray]
termination_by text => text.length
decreasing_by
  all_goals simp only [List.length_cons]
  · omega
  · have := StringLiteral.length_scan_le rest
    omega
  · have := length_of_scanNumber _found
    omega
  · omega
  · have := length_of_afterLetters _found
    omega

end Lexeme

end DiagnosticReplay.Json
