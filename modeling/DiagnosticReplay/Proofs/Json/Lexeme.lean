import DiagnosticReplay.Json.Lexeme
import DiagnosticReplay.Proofs.Json.NumberLiteral
import DiagnosticReplay.Proofs.Json.StringLiteral

/-! # The grammar of lexemes

A text is a row of lexemes, with blanks before, between and after them. Only a number has to be told
from what follows it, since every other lexeme shows by itself where it ends. A scan gives back the
lexemes that were written, whatever spellings and blanks the text has.
-/

namespace DiagnosticReplay.Json.Lexeme

open Text

/-- A lexeme as it is written. -/
inductive Spells : Lexeme → List Char → Prop where
  | openList : Spells openList ['[']
  | closeList : Spells closeList [']']
  | openMap : Spells openMap ['\x7b']
  | closeMap : Spells closeMap ['\x7d']
  | colon : Spells colon [':']
  | comma : Spells comma [',']
  | null : Spells null ['n', 'u', 'l', 'l']
  | affirmed : Spells (boolean true) ['t', 'r', 'u', 'e']
  | denied : Spells (boolean false) ['f', 'a', 'l', 's', 'e']
  | number {literal : NumberLiteral} {text : List Char} : literal.Spells text →
      Spells (number literal) text
  | string {literal : StringLiteral} {text : List Char} : literal.Spells text →
      Spells (string literal) text

/-- A lexeme does not run into the text after it. -/
def EndsBefore (rest : List Char) : Lexeme → Prop
  | number _ => EndsRun NumberLiteral.continues rest
  | _ => True

/-- A row of lexemes as it is written. -/
inductive SpellsRow : List Lexeme → List Char → Prop where
  | nil : SpellsRow [] []
  | blank {character : Char} {lexemes : List Lexeme} {rest : List Char} :
      character ∈ [' ', '\t', '\n', '\r'] → SpellsRow lexemes rest →
      SpellsRow lexemes (character :: rest)
  | cons {lexeme : Lexeme} {lexemes : List Lexeme} {text rest : List Char} : lexeme.Spells text →
      lexeme.EndsBefore rest → SpellsRow lexemes rest →
      SpellsRow (lexeme :: lexemes) (text ++ rest)

theorem scan_blank {character : Char} (isBlank : character ∈ [' ', '\t', '\n', '\r'])
    (rest : List Char) : scan (character :: rest) = scan rest := by
  have blank : Lexeme.isBlank character = true := by
    simp only [List.mem_cons, List.not_mem_nil, or_false] at isBlank
    rcases isBlank with rfl | rfl | rfl | rfl <;> rfl
  rw [scan, if_pos blank]

theorem scan_of_scanNumber {character : Char} {rest after : List Char} {literal : NumberLiteral}
    (starts : character = '-' ∨ character.isDigit = true)
    (scanned : scanNumber character rest = .ok (literal, after)) :
    scan (character :: rest) = number literal :: scan after := by
  have starter : ∀ other, other ≠ '-' → other.isDigit = false → character ≠ other := by
    rintro other notMinus notDigit rfl
    rcases starts with isMinus | isDigit
    · exact notMinus isMinus
    · exact absurd isDigit (Bool.eq_false_iff.mp notDigit)
  have notBlank : isBlank character = false := by
    simp only [isBlank, Bool.or_eq_false_iff, beq_eq_false_iff_ne]
    refine ⟨⟨⟨?_, ?_⟩, ?_⟩, ?_⟩ <;> exact starter _ (by decide) (by decide)
  have notQuote : character ≠ '"' := starter _ (by decide) (by decide)
  rw [scan, if_neg (Bool.eq_false_iff.mp notBlank), if_neg notQuote, if_pos starts]
  split
  · rename_i found
    cases scanned.symm.trans found
    rfl
  · rename_i found
    cases scanned.symm.trans found

theorem scan_number {literal : NumberLiteral} {text rest : List Char}
    (spelled : literal.Spells text) (ends : EndsRun NumberLiteral.continues rest) :
    scan (text ++ rest) = number literal :: scan rest := by
  cases spelled with
  | plain positive unsigned =>
    have scanned := NumberLiteral.scanUnsigned_append unsigned ends
    obtain ⟨digit, others, rfl, isDigit⟩ := unsigned.exists_digit
    have notMinus : digit ≠ '-' := by
      rintro rfl
      exact absurd isDigit (by decide)
    apply scan_of_scanNumber (.inr isDigit)
    rw [scanNumber, if_neg notMinus]
    rwa [positive] at scanned
  | negated negative unsigned =>
    have scanned := NumberLiteral.scanUnsigned_append unsigned ends
    apply scan_of_scanNumber (.inl rfl)
    rw [scanNumber, if_pos rfl]
    rwa [negative] at scanned

/-- A scan takes a spelled lexeme off the text and goes on after it. -/
theorem scan_append {lexeme : Lexeme} {text rest : List Char} (spelled : lexeme.Spells text)
    (ends : lexeme.EndsBefore rest) : scan (text ++ rest) = lexeme :: scan rest := by
  cases spelled with
  | number literal => exact scan_number literal ends
  | string literal =>
    cases literal with
    | closed parts =>
      rw [List.cons_append, List.append_assoc, scan]
      simp [isBlank, StringLiteral.scan_parts parts]
  | null => rw [List.cons_append, scan]; simp [isBlank, ofMark?, ofName?, afterLetters]
  | affirmed => rw [List.cons_append, scan]; simp [isBlank, ofMark?, ofName?, afterLetters]
  | denied => rw [List.cons_append, scan]; simp [isBlank, ofMark?, ofName?, afterLetters]
  | _ => rw [List.cons_append, scan]; simp [isBlank, ofMark?]

/-- The lexemes of a text are those that it was written from. -/
theorem SpellsRow.scan_eq {lexemes : List Lexeme} {text : List Char}
    (spelled : SpellsRow lexemes text) : scan text = lexemes := by
  induction spelled with
  | nil => rw [scan]
  | blank isBlank _ ih => rw [scan_blank isBlank, ih]
  | cons first ends _ ih => rw [scan_append first ends, ih]

/-- Lexemes that can be written each can be written as a row. -/
theorem exists_spellsRow {lexemes : List Lexeme}
    (each : ∀ lexeme ∈ lexemes, ∃ text, lexeme.Spells text) :
    ∃ text, SpellsRow lexemes text := by
  induction lexemes with
  | nil => exact ⟨[], .nil⟩
  | cons lexeme lexemes ih =>
    obtain ⟨first, spelled⟩ := each lexeme List.mem_cons_self
    obtain ⟨others, row⟩ := ih fun other member => each other (List.mem_cons_of_mem _ member)
    refine ⟨first ++ ' ' :: others, .cons spelled ?_ (.blank List.mem_cons_self row)⟩
    cases lexeme with
    | number literal => exact endsRun_cons.mpr (by decide)
    | _ => trivial

end DiagnosticReplay.Json.Lexeme
