import DiagnosticReplay.Proofs.Json.NumberMagnitude
import DiagnosticReplay.Proofs.Json.Reading

/-! # What a number stands for

A number is an integer if it is written as digits alone, with an optional sign, and 64 bits hold it;
minus zero is none. Every other number is a floating point number, or too large for one. A field of
32 bits takes the integers that it can hold, exactly as they are written, and none other.
-/

namespace DiagnosticReplay.Json

/-- The token is a row of digits that denotes the number. -/
structure IsNumeral (token : List Char) (number : Nat) : Prop extends
    NumberLiteral.Digits token where
  denotes : Nat.ofDigitChars 10 token 0 = number

/-- The token is a row of digits with an optional sign that denotes the integer. -/
inductive DenotesInteger : List Char → Int → Prop where
  | plain {token : List Char} {number : Nat} : IsNumeral token number →
      DenotesInteger token number
  | negated {token : List Char} {number : Nat} : IsNumeral token number →
      DenotesInteger ('-' :: token) (-number)

/-- The token is a row of digits with an optional sign that denotes an integer of 64 bits. Minus zero
is none. -/
inductive HoldsInteger : List Char → Int → Prop where
  | plain {token : List Char} {number : Nat} : IsNumeral token number →
      number < NumberLiteral.significandBound → HoldsInteger token number
  | negated {token : List Char} {number : Nat} : IsNumeral token number → 0 < number →
      number ≤ NumberLiteral.greatestNegated → HoldsInteger ('-' :: token) (-number)

namespace NumberLiteral

section Tokens

variable {literal : NumberLiteral} {token digits : List Char} {number : Nat}

theorem SpellsUnsigned.eq_of_digits (spelled : literal.SpellsUnsigned digits)
    (all : ∀ digit ∈ digits, digit.isDigit = true) :
    literal = ⟨literal.negative, digits, none, none⟩ := by
  cases spelled with
  | mk whole fraction exponent =>
    rw [List.forall_mem_append, List.forall_mem_append] at all
    obtain ⟨-, fractionAll, exponentAll⟩ := all
    cases fraction with
    | present => exact absurd (fractionAll '.' List.mem_cons_self) (by decide)
    | absent =>
      cases exponent with
      | present isMark =>
        have isDigit := exponentAll _ List.mem_cons_self
        rcases isMark with rfl | rfl <;> exact absurd isDigit (by decide)
      | absent => rw [List.append_nil, List.append_nil]

theorem Spells.eq_of_isNumeral (spelled : literal.Spells token) (numeral : IsNumeral token number) :
    literal = ⟨false, token, none, none⟩ := by
  cases spelled with
  | plain noSign unsigned =>
    rw [← noSign]
    exact unsigned.eq_of_digits numeral.all
  | negated => exact absurd (numeral.all '-' List.mem_cons_self) (by decide)

theorem Spells.eq_of_negated (spelled : literal.Spells ('-' :: digits))
    (numeral : IsNumeral digits number) : literal = ⟨true, digits, none, none⟩ := by
  generalize isToken : '-' :: digits = token at spelled
  cases spelled with
  | plain noSign unsigned =>
    obtain ⟨digit, rest, rfl, isDigit⟩ := unsigned.exists_digit
    obtain rfl := (List.cons.inj isToken).1
    exact absurd isDigit (by decide)
  | negated signed unsigned =>
    obtain rfl := (List.cons.inj isToken).2
    rw [← signed]
    exact unsigned.eq_of_digits numeral.all

/-- A literal of whole digits alone is written as these, after its sign. -/
theorem Spells.denotes_whole (spelled : literal.Spells token) (noFraction : literal.fraction = none)
    (noExponent : literal.exponent = none) :
    if literal.negative then
      ∃ digits, token = '-' :: digits ∧ IsNumeral digits (Nat.ofDigitChars 10 literal.whole 0)
    else IsNumeral token (Nat.ofDigitChars 10 literal.whole 0) := by
  have wholeAlone {text : List Char} (unsigned : literal.SpellsUnsigned text) :
      IsNumeral text (Nat.ofDigitChars 10 literal.whole 0) := by
    obtain ⟨whole, fraction, exponent⟩ := unsigned
    cases noFraction
    cases noExponent
    cases fraction
    cases exponent
    rw [List.append_nil, List.append_nil]
    exact ⟨whole.toDigits, rfl⟩
  cases spelled with
  | plain noSign unsigned =>
    rw [noSign, if_neg Bool.false_ne_true]
    exact wholeAlone unsigned
  | negated signed unsigned =>
    rw [signed, if_pos rfl]
    exact ⟨_, rfl, wholeAlone unsigned⟩

end Tokens

section Values

/-- What whole digits alone stand for. -/
theorem value?_of_whole {literal : NumberLiteral} (noFraction : literal.fraction = none)
    (noExponent : literal.exponent = none) :
    literal.value? =
      if significandBound ≤ Nat.ofDigitChars 10 literal.whole 0 then literal.floating?
      else if literal.negative then
        if 0 < Nat.ofDigitChars 10 literal.whole 0 ∧
            Nat.ofDigitChars 10 literal.whole 0 ≤ greatestNegated then
          some (.integer (-Nat.ofDigitChars 10 literal.whole 0))
        else literal.floating?
      else some (.integer (Nat.ofDigitChars 10 literal.whole 0)) := by
  rw [value?, noFraction, noExponent, if_pos ⟨rfl, rfl⟩]
  by_cases room : Nat.ofDigitChars 10 literal.whole 0 < significandBound
  · rw [gatherWhole_of_lt room, if_neg (Nat.not_le_of_lt room)]
    rfl
  · have dropped : (gatherWhole literal.whole).2 ≠ 0 := by
      intro all
      apply room
      rw [← gatherWhole_of_all all]
      exact gatherWhole_lt literal.whole
    rw [if_pos (Nat.le_of_not_lt room)]
    exact if_pos dropped

variable {literal : NumberLiteral} {token : List Char} {value : Int}

theorem value?_of_holds (spelled : literal.Spells token) (holds : HoldsInteger token value) :
    literal.value? = some (.integer value) := by
  cases holds with
  | plain numeral small =>
    obtain rfl := spelled.eq_of_isNumeral numeral
    rw [value?_of_whole rfl rfl, numeral.denotes, if_neg (Nat.not_le_of_lt small)]
    rfl
  | @negated _ number numeral positive small =>
    obtain rfl := spelled.eq_of_negated numeral
    have room : number < significandBound := Nat.lt_of_le_of_lt small (by decide)
    rw [value?_of_whole rfl rfl, numeral.denotes, if_neg (Nat.not_le_of_lt room), if_pos rfl,
      if_pos (And.intro positive small)]

/-- A number that is no integer of 64 bits is a floating point number. -/
theorem value?_of_not_holds (spelled : literal.Spells token)
    (noInteger : ∀ value, ¬HoldsInteger token value) : literal.value? = literal.floating? := by
  by_cases whole : literal.fraction = none ∧ literal.exponent = none
  · have written := spelled.denotes_whole whole.1 whole.2
    rw [value?_of_whole whole.1 whole.2]
    by_cases large : significandBound ≤ Nat.ofDigitChars 10 literal.whole 0
    · rw [if_pos large]
    rw [if_neg large]
    by_cases signed : literal.negative = true
    · rw [if_pos signed] at written ⊢
      obtain ⟨digits, rfl, numeral⟩ := written
      apply if_neg
      intro inRange
      exact noInteger _ (.negated numeral inRange.1 inRange.2)
    · rw [if_neg signed] at written
      exact absurd (.plain written (Nat.lt_of_not_le large)) (noInteger _)
  · rw [value?, if_neg]
    simpa [Option.isNone_iff_eq_none] using whole

/-- A literal that is floating point keeps its sign. -/
theorem exists_of_floating? {number : NumberValue} (isFloating : literal.floating? = some number) :
    ∃ magnitude, number = .floating literal.negative magnitude := by
  rw [floating?, Option.map_eq_some_iff] at isFloating
  obtain ⟨magnitude, -, same⟩ := isFloating
  exact ⟨magnitude, same.symm⟩

end Values

end NumberLiteral

section Fields

open Decimal Binary64

variable {literal : NumberLiteral} {token : List Char} {value : Int}

/-- The integer is one of 64 bits that a field of 32 bits cannot hold. -/
def IsLong (value : Int) : Prop :=
  -2 ^ 63 ≤ value ∧ value ≤ -1 ∨ 2 ^ 32 ≤ value ∧ value ≤ 2 ^ 64 - 1

/-- The error that tells that a number is too large for a floating point number, or else that it is
one. -/
def RefusesFloating (literal : NumberLiteral) (error : ReadError) : Prop :=
  literal.floating? = none ∧ error = .fault .malformed ∨
    ∃ magnitude, literal.floating? = some (.floating literal.negative magnitude) ∧
      error = .mismatch (.wrongType (.number (.floating literal.negative magnitude)) .uint32)

/-- A field of 32 bits refuses a number with an error that tells what the number is. A number close
to the least that is too large can be told to be either. -/
structure RefusesNumber (literal : NumberLiteral) (token : List Char) (error : ReadError) :
    Prop where
  wrongInteger : ∀ value : Int, DenotesInteger token value → IsLong value →
    error = .mismatch (.wrongInteger value .uint32)
  otherwise : (∀ value : Int, DenotesInteger token value → ¬IsLong value) →
    RefusesFloating literal error
  tooLarge : magnitudeLimit * (1 + 1 / 2 ^ 50) ≤ literal.magnitude → error = .fault .malformed
  notTooLarge : literal.magnitude * (1 + 1 / 2 ^ 50) < magnitudeLimit → error ≠ .fault .malformed

theorem HoldsInteger.denotes (holds : HoldsInteger token value) : DenotesInteger token value := by
  cases holds with
  | plain numeral _ => exact .plain numeral
  | negated numeral _ _ => exact .negated numeral

theorem DenotesInteger.holds (denotes : DenotesInteger token value) (long : IsLong value) :
    HoldsInteger token value := by
  rw [IsLong] at long
  cases denotes with
  | plain numeral =>
    apply HoldsInteger.plain numeral
    rw [NumberLiteral.significandBound]
    omega
  | negated numeral =>
    apply HoldsInteger.negated numeral
    · omega
    · rw [NumberLiteral.greatestNegated]
      omega

/-- An integer of 64 bits is a numeral that a field of 32 bits can hold, or else a long one. -/
theorem HoldsInteger.cases (holds : HoldsInteger token value) :
    (∃ number : Nat, value = number ∧ number < UInt32.size ∧ IsNumeral token number) ∨
      IsLong value ∧ ¬(0 ≤ value ∧ value < UInt32.size) := by
  cases holds with
  | @plain _ number numeral small =>
    by_cases fits : number < UInt32.size
    · exact .inl ⟨number, rfl, fits, numeral⟩
    · right
      rw [NumberLiteral.significandBound] at small
      rw [UInt32.size] at fits ⊢
      rw [IsLong]
      omega
  | negated numeral positive small =>
    right
    rw [NumberLiteral.greatestNegated] at small
    rw [UInt32.size, IsLong]
    omega

/-- The magnitude of an integer is below all that is too large. -/
theorem HoldsInteger.magnitude_lt (spelled : literal.Spells token)
    (holds : HoldsInteger token value) : literal.magnitude < magnitudeLimit := by
  have small (digits : List Char) (negative : Bool)
      (room : Nat.ofDigitChars 10 digits 0 < NumberLiteral.significandBound) :
      (NumberLiteral.mk negative digits none none).magnitude < magnitudeLimit := by
    have bounded : (Nat.ofDigitChars 10 digits 0 : ℚ) < 2 ^ 64 := by exact_mod_cast room
    apply lt_of_lt_of_le _ (two_pow_le_magnitudeLimit (by decide : 64 ≤ 1024))
    simpa [NumberLiteral.magnitude] using bounded
  cases holds with
  | plain numeral room =>
    obtain rfl := spelled.eq_of_isNumeral numeral
    exact small _ _ (numeral.denotes ▸ room)
  | negated numeral _ room =>
    obtain rfl := spelled.eq_of_negated numeral
    exact small _ _ (numeral.denotes ▸ Nat.lt_of_le_of_lt room (by decide))

/-- A long integer is refused as the integer that it is. -/
theorem HoldsInteger.refusesNumber (spelled : literal.Spells token)
    (holds : HoldsInteger token value) (long : IsLong value) :
    RefusesNumber literal token (.mismatch (.wrongInteger value .uint32)) where
  wrongInteger := by
    intro other denotes otherLong
    have same := NumberLiteral.value?_of_holds spelled (denotes.holds otherLong)
    rw [NumberLiteral.value?_of_holds spelled holds] at same
    cases same
    rfl
  otherwise := fun noLong => absurd long (noLong value holds.denotes)
  tooLarge := by
    intro large
    have share := le_mul_of_one_le_right magnitudeLimit_positive.le
      (by norm_num : (1 : ℚ) ≤ 1 + 1 / 2 ^ 50)
    exact absurd (share.trans large) (not_le_of_gt (holds.magnitude_lt spelled))
  notTooLarge := fun _ => ReadError.noConfusion

/-- A number that is no integer of 64 bits is refused as floating point or as too large for it. -/
theorem RefusesFloating.refusesNumber {error : ReadError} (refuses : RefusesFloating literal error)
    (spelled : literal.Spells token) (noInteger : ∀ value, ¬HoldsInteger token value) :
    RefusesNumber literal token error where
  wrongInteger := fun integer denotes long => absurd (denotes.holds long) (noInteger integer)
  otherwise := fun _ => refuses
  tooLarge := by
    intro large
    rcases refuses with ⟨-, isFault⟩ | ⟨magnitude, isFloating, -⟩
    · exact isFault
    · have isNone := (NumberLiteral.floating?_bounds ⟨token, spelled⟩).2 large
      cases isFloating.symm.trans isNone
  notTooLarge := by
    rintro small rfl
    rcases refuses with ⟨isNone, -⟩ | ⟨magnitude, -, isMismatch⟩
    · have large := (NumberLiteral.floating?_bounds ⟨token, spelled⟩).1 isNone
      exact absurd large (not_le_of_gt small)
    · cases isMismatch

namespace Node

theorem readUInt32_of_holds (spelled : literal.Spells token) (holds : HoldsInteger token value) :
    (Node.number literal).readUInt32 =
      if 0 ≤ value ∧ value < UInt32.size then .ok (UInt32.ofNat value.toNat)
      else .mismatch (.wrongInteger value .uint32) := by
  simp only [readUInt32, NumberLiteral.value?_of_holds spelled holds]

theorem readUInt32_of_not_holds (spelled : literal.Spells token)
    (noInteger : ∀ value, ¬HoldsInteger token value) :
    ∃ error, (Node.number literal).readUInt32 = .error error ∧ RefusesFloating literal error := by
  have stands := NumberLiteral.value?_of_not_holds spelled noInteger
  cases isFloating : literal.floating? with
  | none =>
    refine ⟨.fault .malformed, ?_, .inl ⟨isFloating, rfl⟩⟩
    simp only [readUInt32, stands, isFloating, Read.fault]
  | some number =>
    obtain ⟨magnitude, rfl⟩ := NumberLiteral.exists_of_floating? isFloating
    refine ⟨_, ?_, .inr ⟨magnitude, isFloating, rfl⟩⟩
    simp only [readUInt32, stands, isFloating, Read.mismatch]

/-- A number is read exactly, and only a numeral is read. -/
theorem readUInt32_eq_ok_iff (spelled : literal.Spells token) {value : UInt32} :
    (Node.number literal).readUInt32 = .ok value ↔ IsNumeral token value.toNat := by
  constructor
  · intro read
    by_cases holds : ∃ integer, HoldsInteger token integer
    · obtain ⟨integer, holds⟩ := holds
      rw [readUInt32_of_holds spelled holds] at read
      rcases holds.cases with ⟨number, rfl, fits, numeral⟩ | ⟨-, outside⟩
      · rw [if_pos (by omega)] at read
        rw [← Except.ok.inj read, Int.toNat_natCast, UInt32.toNat_ofNat_of_lt' fits]
        exact numeral
      · rw [if_neg outside] at read
        cases read
    · obtain ⟨error, refused, -⟩ := readUInt32_of_not_holds spelled (not_exists.mp holds)
      cases refused.symm.trans read
  · intro numeral
    have fits : value.toNat < UInt32.size := value.toNat_lt
    have holds : HoldsInteger token value.toNat :=
      .plain numeral (Nat.lt_of_lt_of_le fits (by decide))
    rw [readUInt32_of_holds spelled holds, if_pos (by omega), Int.toNat_natCast,
      UInt32.ofNat_toNat]

/-- What a number is refused for. -/
theorem refusesNumber_of_readUInt32 (spelled : literal.Spells token) {error : ReadError}
    (refused : (Node.number literal).readUInt32 = .error error) :
    RefusesNumber literal token error := by
  by_cases holds : ∃ integer, HoldsInteger token integer
  · obtain ⟨integer, holds⟩ := holds
    rw [readUInt32_of_holds spelled holds] at refused
    rcases holds.cases with ⟨number, rfl, fits, -⟩ | ⟨long, outside⟩
    · rw [if_pos (by omega)] at refused
      cases refused
    · rw [if_neg outside] at refused
      rw [← Except.error.inj refused]
      exact holds.refusesNumber spelled long
  · have noInteger := not_exists.mp holds
    obtain ⟨isError, isRead, refuses⟩ := readUInt32_of_not_holds spelled noInteger
    rw [Except.error.inj (refused.symm.trans isRead)]
    exact refuses.refusesNumber spelled noInteger

end Node

end Fields

end DiagnosticReplay.Json
