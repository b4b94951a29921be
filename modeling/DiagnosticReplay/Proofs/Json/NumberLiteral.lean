import DiagnosticReplay.Json.NumberLiteral
import DiagnosticReplay.Proofs.Result
import DiagnosticReplay.Proofs.Text.Run

/-! # The grammar of number literals

A number is a whole part with an optional sign before it and an optional fraction and exponent after
it. A scan takes as much as it can, so it gives back a spelled literal wherever the text after it
does not go on with a character that a number can hold inside.
-/

namespace DiagnosticReplay.Json.NumberLiteral

open Text

/-- At least one digit. -/
structure Digits (digits : List Char) : Prop where
  nonempty : digits ≠ []
  all : ∀ character ∈ digits, character.isDigit = true

/-- The digits of a whole part, which start with zero only if they are zero. -/
structure Whole (digits : List Char) : Prop extends Digits digits where
  noLeadingZero : digits.head? = some '0' → digits = ['0']

/-- A fraction as it is written. -/
inductive SpellsFraction : Option (List Char) → List Char → Prop where
  | absent : SpellsFraction none []
  | present {digits : List Char} : Digits digits → SpellsFraction (some digits) ('.' :: digits)

/-- The sign of an exponent as it is written. -/
inductive SpellsSign : Bool → List Char → Prop where
  | absent : SpellsSign false []
  | plus : SpellsSign false ['+']
  | minus : SpellsSign true ['-']

/-- An exponent as it is written. -/
inductive SpellsExponent : Option ExponentLiteral → List Char → Prop where
  | absent : SpellsExponent none []
  | present {mark : Char} {negative : Bool} {sign digits : List Char} : mark = 'e' ∨ mark = 'E' →
      SpellsSign negative sign → Digits digits →
      SpellsExponent (some ⟨negative, digits⟩) (mark :: (sign ++ digits))

/-- A number without its sign as it is written. -/
inductive SpellsUnsigned : NumberLiteral → List Char → Prop where
  | mk {negative : Bool} {whole fractionText exponentText : List Char}
      {fraction : Option (List Char)} {exponent : Option ExponentLiteral} : Whole whole →
      SpellsFraction fraction fractionText → SpellsExponent exponent exponentText →
      SpellsUnsigned ⟨negative, whole, fraction, exponent⟩ (whole ++ (fractionText ++ exponentText))

/-- A number as it is written. -/
inductive Spells (literal : NumberLiteral) : List Char → Prop where
  | plain {text : List Char} : literal.negative = false → literal.SpellsUnsigned text →
      literal.Spells text
  | negated {text : List Char} : literal.negative = true → literal.SpellsUnsigned text →
      literal.Spells ('-' :: text)

/-- The character can stand inside a number, the sign aside. -/
def continues (character : Char) : Bool :=
  character.isDigit || character == '.' || character == 'e' || character == 'E'

theorem SpellsUnsigned.exists_digit {literal : NumberLiteral} {text : List Char}
    (spelled : literal.SpellsUnsigned text) :
    ∃ digit rest, text = digit :: rest ∧ digit.isDigit = true := by
  cases spelled with
  | mk whole fraction exponent =>
    obtain ⟨digit, others, rfl⟩ := List.exists_cons_of_ne_nil whole.nonempty
    exact ⟨digit, _, rfl, whole.all digit List.mem_cons_self⟩

section Follow

variable {text rest : List Char}

/-- What can be said of every character of a kind can be said of less. -/
theorem endsRun_of_imp {kind narrower : Char → Bool}
    (within : ∀ character, narrower character = true → kind character = true)
    (ends : EndsRun kind rest) : EndsRun narrower rest := by
  intro next first
  exact Bool.eq_false_iff.mpr fun inside =>
    Bool.eq_false_iff.mp (ends next first) (within next inside)

theorem endsRun_isDigit (ends : EndsRun continues rest) : EndsRun Char.isDigit rest :=
  endsRun_of_imp (fun character digit => by simp [continues, digit]) ends

theorem SpellsExponent.endsRun {exponent : Option ExponentLiteral}
    (spelled : SpellsExponent exponent text) (ends : EndsRun continues rest) :
    EndsRun (fun character => character.isDigit || character == '.') (text ++ rest) := by
  cases spelled with
  | absent =>
    refine endsRun_of_imp (fun character inside => ?_) ends
    simp only [continues, inside, Bool.true_or]
  | present isMark =>
    rcases isMark with rfl | rfl <;> exact endsRun_cons.mpr (by decide)

theorem SpellsFraction.endsRun {fraction : Option (List Char)}
    (spelled : SpellsFraction fraction text)
    (ends : EndsRun (fun character => character.isDigit || character == '.') rest) :
    EndsRun Char.isDigit (text ++ rest) := by
  cases spelled with
  | absent => exact endsRun_of_imp (fun character digit => by simp [digit]) ends
  | present => exact endsRun_cons.mpr (by decide)

end Follow

section Scan

variable {text rest : List Char}

theorem scanDigits_append {digits : List Char} (spelled : Digits digits)
    (ends : EndsRun Char.isDigit rest) : scanDigits (digits ++ rest) = .ok (digits, rest) := by
  obtain ⟨nonempty, all⟩ := spelled
  rw [scanDigits, takeWhile_run all ends, dropWhile_run all ends]
  cases digits with
  | nil => exact absurd rfl nonempty
  | cons digit digits => rfl

theorem scanWhole_append {digits : List Char} (spelled : Whole digits)
    (ends : EndsRun Char.isDigit rest) : scanWhole (digits ++ rest) = .ok (digits, rest) := by
  rw [scanWhole, scanDigits_append spelled.toDigits ends]
  split
  · rename_i same
    cases same
    simpa using spelled.noLeadingZero rfl
  · rfl

theorem scanFraction_append {fraction : Option (List Char)} (spelled : SpellsFraction fraction text)
    (ends : EndsRun (fun character => character.isDigit || character == '.') rest) :
    scanFraction (text ++ rest) = .ok (fraction, rest) := by
  cases spelled with
  | absent =>
    rw [List.nil_append, scanFraction]
    rintro after rfl
    exact absurd (endsRun_cons.mp ends) (by decide)
  | present digits =>
    have scanned := scanDigits_append digits
      (endsRun_of_imp (fun character digit => by simp [digit]) ends)
    simp only [List.cons_append, scanFraction, scanned, Result.ok_bind, Result.pure_eq_ok]

theorem scanSign_append (rest : List Char) {negative : Bool} {digits : List Char}
    (spelled : SpellsSign negative text)
    (digitsSpelled : Digits digits) :
    scanSign (text ++ (digits ++ rest)) = (negative, digits ++ rest) := by
  cases spelled with
  | absent =>
    obtain ⟨digit, others, rfl⟩ := List.exists_cons_of_ne_nil digitsSpelled.nonempty
    have isDigit := digitsSpelled.all digit List.mem_cons_self
    rw [List.nil_append, List.cons_append, scanSign]
    all_goals
      rintro after same
      cases same
      exact absurd isDigit (by decide)
  | plus => rfl
  | minus => rfl

theorem scanExponent_append {exponent : Option ExponentLiteral}
    (spelled : SpellsExponent exponent text) (ends : EndsRun continues rest) :
    scanExponent (text ++ rest) = .ok (exponent, rest) := by
  cases spelled with
  | absent =>
    cases rest with
    | nil => rfl
    | cons next rest =>
      have outside := endsRun_cons.mp ends
      have noMark : ¬(next = 'e' ∨ next = 'E') := by
        rintro (rfl | rfl) <;> exact absurd outside (by decide)
      rw [List.nil_append, scanExponent, if_neg noMark]
  | present isMark sign digits =>
    have signed := scanSign_append rest sign digits
    have scanned := scanDigits_append digits (endsRun_isDigit ends)
    rw [List.cons_append, List.append_assoc, scanExponent, if_pos isMark]
    simp only [signed, scanned, Result.ok_bind, Result.pure_eq_ok]

/-- A spelled number is scanned as it was meant, wherever it cannot go on. -/
theorem scanUnsigned_append {literal : NumberLiteral} (spelled : literal.SpellsUnsigned text)
    (ends : EndsRun continues rest) :
    scanUnsigned literal.negative (text ++ rest) = .ok (literal, rest) := by
  cases spelled with
  | mk whole fraction exponent =>
    have afterFraction := exponent.endsRun ends
    have first := scanWhole_append whole (fraction.endsRun afterFraction)
    have second := scanFraction_append fraction afterFraction
    have third := scanExponent_append exponent ends
    simp only [List.append_assoc, scanUnsigned, first, second, third, Result.ok_bind,
      Result.pure_eq_ok]

end Scan

section Numerals

/-- The literal of a natural number. -/
def ofNat (value : Nat) : NumberLiteral :=
  ⟨false, Nat.toDigits 10 value, none, none⟩

theorem whole_toDigits (value : Nat) : Whole (Nat.toDigits 10 value) where
  nonempty := Nat.toDigits_ne_nil
  all := fun _ member => Nat.isDigit_of_mem_toDigits (by decide) (by decide) member
  noLeadingZero := by
    induction value using Nat.strongRecOn with
    | ind value smaller =>
      intro zero
      by_cases small : value < 10
      · rw [Nat.toDigits_of_lt_base small] at zero ⊢
        exact congrArg (· :: []) (Option.some.inj zero)
      · obtain ⟨first, others, split⟩ :=
          List.exists_cons_of_ne_nil (Nat.toDigits_ne_nil (n := value / 10) (b := 10))
        rw [Nat.toDigits_of_base_le (by decide) (by omega), split, List.cons_append,
          List.head?_cons, ← List.head?_cons (l := others), ← split] at zero
        have allZero := smaller (value / 10) (by omega) zero
        have quotient := Nat.ofDigitChars_ten_toDigits (n := value / 10)
        rw [allZero] at quotient
        have none : value / 10 = 0 := quotient.symm
        omega

theorem spellsUnsigned_ofNat (value : Nat) :
    (ofNat value).SpellsUnsigned (Nat.toDigits 10 value) := by
  have spelled : (ofNat value).SpellsUnsigned (Nat.toDigits 10 value ++ ([] ++ [])) :=
    .mk (whole_toDigits value) .absent .absent
  rwa [List.append_nil, List.append_nil] at spelled

theorem le_ofDigitChars (digits : List Char) (start : Nat) :
    start ≤ Nat.ofDigitChars 10 digits start := by
  rw [Nat.ofDigitChars_eq_ofDigitChars_zero]
  have positive : 0 < 10 ^ digits.length := Nat.pow_pos (by decide)
  exact Nat.le_add_right_of_le (Nat.le_mul_of_pos_left start positive)

/-- What was gathered of some digits, with one digit more. -/
def gatherDigit (gathered : Nat × Nat) (digit : Char) : Nat × Nat :=
  let next := gathered.1 * 10 + digitValue digit
  if gathered.2 = 0 ∧ next < significandBound then (next, 0) else (gathered.1, gathered.2 + 1)

theorem gatherWhole_eq_foldl (digits : List Char) :
    gatherWhole digits = digits.foldl gatherDigit (0, 0) := rfl

theorem next_eq (start : Nat) (digit : Char) :
    start * 10 + digitValue digit = 10 * start + (digit.toNat - '0'.toNat) :=
  congrArg (· + digitValue digit) (Nat.mul_comm start 10)

/-- Digits that denote a number with room in the significand are all taken. -/
theorem gatherWhole_of_lt {digits : List Char}
    (room : Nat.ofDigitChars 10 digits 0 < significandBound) :
    gatherWhole digits = (Nat.ofDigitChars 10 digits 0, 0) := by
  rw [gatherWhole_eq_foldl]
  suffices fromAny : ∀ start, Nat.ofDigitChars 10 digits start < significandBound →
      digits.foldl gatherDigit (start, 0) = (Nat.ofDigitChars 10 digits start, 0) from
    fromAny 0 room
  clear room
  induction digits with
  | nil =>
    intro start room
    rfl
  | cons digit digits ih =>
    intro start room
    rw [Nat.ofDigitChars_cons, ← next_eq] at room ⊢
    have fits := Nat.lt_of_le_of_lt (le_ofDigitChars digits _) room
    rw [List.foldl_cons, gatherDigit, if_pos ⟨rfl, fits⟩]
    exact ih _ room

/-- If all digits were taken, the number that was gathered is the one that they denote. -/
theorem gatherWhole_of_all {digits : List Char} (all : (gatherWhole digits).2 = 0) :
    (gatherWhole digits).1 = Nat.ofDigitChars 10 digits 0 := by
  rw [gatherWhole_eq_foldl] at all ⊢
  suffices fromAny : ∀ start, (digits.foldl gatherDigit start).2 = 0 → start.2 = 0 ∧
      (digits.foldl gatherDigit start).1 = Nat.ofDigitChars 10 digits start.1 from
    (fromAny (0, 0) all).2
  clear all
  induction digits with
  | nil => exact fun start all => ⟨all, rfl⟩
  | cons digit digits ih =>
    intro start all
    rw [List.foldl_cons] at all ⊢
    obtain ⟨taken, denoted⟩ := ih _ all
    rw [denoted, Nat.ofDigitChars_cons, ← next_eq]
    rw [gatherDigit] at taken ⊢
    split at taken
    · rename_i fits
      exact ⟨fits.1, by rw [if_pos fits]⟩
    · simp at taken

/-- A natural number that 64 bits hold is what its literal stands for. -/
theorem value?_ofNat {value : Nat} (room : value < significandBound) :
    (ofNat value).value? = some (.integer value) := by
  have gathered : gatherWhole (ofNat value).whole = (value, 0) := by
    have denotes := Nat.ofDigitChars_ten_toDigits (n := value)
    rw [ofNat, gatherWhole_of_lt (by rwa [denotes]), denotes]
  rw [value?, gathered]
  rfl

end Numerals

end DiagnosticReplay.Json.NumberLiteral
