import DiagnosticReplay.Proofs.Decimal.Scaling
import DiagnosticReplay.Proofs.Json.NumberLiteral

/-! # How large a number is

The digits that a significand of 64 bits has no room for are left out, be they digits of the whole
part or of the fraction. What is left is within a small share of the number that is written, so
whether that number is too large for a floating point number can be told from its exact magnitude,
but for a small share of it.
-/

namespace DiagnosticReplay.Json.NumberLiteral

open Decimal Binary64

section Digits

variable {digits : List Char} {start : Nat}

theorem digitValue_le {digit : Char} (isDigit : digit.isDigit = true) : digitValue digit ≤ 9 := by
  have bounds : 48 ≤ digit.toNat ∧ digit.toNat ≤ 57 := Char.isDigit_iff_toNat.mp isDigit
  rw [digitValue]
  omega

/-- Digits after a number make a number between it and its successor, with as many digits. -/
theorem ofDigitChars_bounds (all : ∀ digit ∈ digits, digit.isDigit = true) (start : Nat) :
    start * 10 ^ digits.length ≤ Nat.ofDigitChars 10 digits start ∧
      Nat.ofDigitChars 10 digits start < (start + 1) * 10 ^ digits.length := by
  induction digits generalizing start with
  | nil => simp
  | cons digit digits ih =>
    obtain ⟨isDigit, others⟩ := List.forall_mem_cons.mp all
    have small := digitValue_le isDigit
    obtain ⟨least, most⟩ := ih others (start * 10 + digitValue digit)
    rw [Nat.ofDigitChars_cons, ← next_eq, List.length_cons, Nat.pow_succ']
    constructor
    · refine le_trans ?_ least
      rw [← Nat.mul_assoc]
      exact Nat.mul_le_mul_right _ (by omega)
    · refine lt_of_lt_of_le most ?_
      rw [← Nat.mul_assoc]
      exact Nat.mul_le_mul_right _ (by omega)

/-- The digits that follow a number, counted as its fraction, add less than one to it. -/
theorem scaled_bounds (all : ∀ digit ∈ digits, digit.isDigit = true) (start : Nat) :
    (start : ℚ) ≤ Nat.ofDigitChars 10 digits start / 10 ^ digits.length ∧
      (Nat.ofDigitChars 10 digits start : ℚ) / 10 ^ digits.length ≤ start + 1 := by
  obtain ⟨least, most⟩ := ofDigitChars_bounds all start
  have power : (0 : ℚ) < 10 ^ digits.length := by positivity
  rw [le_div_iff₀ power, div_le_iff₀ power]
  exact ⟨by exact_mod_cast least, by exact_mod_cast most.le⟩

end Digits

section Gathering

/-- The significand has room for no further digit. -/
def IsFull (significand : Nat) : Prop :=
  significandBound ≤ significand * 10 + 9

theorem isFull_of_not_lt {significand : Nat} {digit : Char} (isDigit : digit.isDigit = true)
    (noRoom : ¬significand * 10 + digitValue digit < significandBound) : IsFull significand := by
  have small := digitValue_le isDigit
  rw [IsFull]
  omega

theorem foldl_gatherDigit_of_dropped (digits : List Char) (significand : Nat) {dropped : Nat}
    (positive : 0 < dropped) :
    digits.foldl gatherDigit (significand, dropped) = (significand, dropped + digits.length) := by
  induction digits generalizing dropped with
  | nil => rfl
  | cons digit digits ih =>
    have full : ¬(dropped = 0 ∧ significand * 10 + digitValue digit < significandBound) := by omega
    rw [List.foldl_cons, gatherDigit, if_neg full, ih (Nat.succ_pos dropped), List.length_cons,
      Nat.succ_add, Nat.add_succ]

/-- The whole digits that are taken come first, and others follow only when there is no more
room. -/
theorem gatherWhole_split {digits : List Char} (all : ∀ digit ∈ digits, digit.isDigit = true) :
    ∃ taken left, digits = taken ++ left ∧
      gatherWhole digits = (Nat.ofDigitChars 10 taken 0, left.length) ∧
      (left = [] ∨ IsFull (Nat.ofDigitChars 10 taken 0)) := by
  rw [gatherWhole_eq_foldl]
  suffices fromAny : ∀ start, ∃ taken left, digits = taken ++ left ∧
      digits.foldl gatherDigit (start, 0) = (Nat.ofDigitChars 10 taken start, left.length) ∧
      (left = [] ∨ IsFull (Nat.ofDigitChars 10 taken start)) from fromAny 0
  induction digits with
  | nil => exact fun start => ⟨[], [], rfl, rfl, .inl rfl⟩
  | cons digit digits ih =>
    intro start
    obtain ⟨isDigit, others⟩ := List.forall_mem_cons.mp all
    by_cases room : start * 10 + digitValue digit < significandBound
    · obtain ⟨taken, left, rfl, gathered, full⟩ := ih others (start * 10 + digitValue digit)
      refine ⟨digit :: taken, left, rfl, ?_⟩
      rw [List.foldl_cons, gatherDigit, if_pos ⟨rfl, room⟩, gathered, Nat.ofDigitChars_cons, ← next_eq]
      exact ⟨rfl, full⟩
    · refine ⟨[], digit :: digits, rfl, ?_, .inr (isFull_of_not_lt isDigit room)⟩
      rw [List.foldl_cons, gatherDigit, if_neg (fun fits => room fits.2),
        foldl_gatherDigit_of_dropped digits start (Nat.succ_pos 0), List.length_cons,
        Nat.ofDigitChars_nil, Nat.add_comm (0 + 1)]

theorem gatherFraction_split {digits : List Char} (all : ∀ digit ∈ digits, digit.isDigit = true)
    (significand : Nat) :
    ∃ taken left, digits = taken ++ left ∧
      gatherFraction significand digits =
        (Nat.ofDigitChars 10 taken significand, taken.length) ∧
      (left = [] ∨ IsFull (Nat.ofDigitChars 10 taken significand)) := by
  induction digits generalizing significand with
  | nil => exact ⟨[], [], rfl, rfl, .inl rfl⟩
  | cons digit digits ih =>
    obtain ⟨isDigit, others⟩ := List.forall_mem_cons.mp all
    rw [gatherFraction]
    by_cases room : significand * 10 + digitValue digit < significandBound
    · obtain ⟨taken, left, rfl, gathered, full⟩ := ih others (significand * 10 + digitValue digit)
      refine ⟨digit :: taken, left, rfl, ?_⟩
      simp only [if_pos room, gathered, Nat.ofDigitChars_cons, ← next_eq, List.length_cons, true_and]
      exact full
    · simp only [if_neg room]
      exact ⟨[], digit :: digits, rfl, rfl, .inr (isFull_of_not_lt isDigit room)⟩

theorem gatherWhole_lt (digits : List Char) : (gatherWhole digits).1 < significandBound := by
  rw [gatherWhole_eq_foldl]
  suffices fromAny : ∀ start : Nat × Nat, start.1 < significandBound →
      (digits.foldl gatherDigit start).1 < significandBound from fromAny (0, 0) (by decide)
  induction digits with
  | nil => exact fun _ small => small
  | cons digit digits ih =>
    intro start small
    apply ih
    rw [gatherDigit]
    split
    · rename_i fits
      exact fits.2
    · exact small

theorem gatherFraction_lt {significand : Nat} (small : significand < significandBound)
    (digits : List Char) : (gatherFraction significand digits).1 < significandBound := by
  induction digits generalizing significand with
  | nil => exact small
  | cons digit digits ih =>
    rw [gatherFraction]
    by_cases room : significand * 10 + digitValue digit < significandBound
    · simp only [if_pos room]
      exact ih room
    · simp only [if_neg room]
      exact small

end Gathering

section Magnitude

/-- The number that a literal is written for, its sign aside. -/
def magnitude (literal : NumberLiteral) : ℚ :=
  Nat.ofDigitChars 10 (literal.whole ++ literal.fraction.getD []) 0 *
    10 ^ ((literal.exponent.map exponentValue).getD 0 - (literal.fraction.getD []).length)

theorem magnitude_nonneg (literal : NumberLiteral) : 0 ≤ literal.magnitude := by
  rw [magnitude]
  positivity

/-- The significand and the exponent that a literal is read as, its sign aside. -/
def gathered (literal : NumberLiteral) : Nat × Int :=
  let whole := gatherWhole literal.whole
  let fraction := gatherFraction whole.1 (literal.fraction.getD [])
  (fraction.1, whole.2 - fraction.2 + (literal.exponent.map exponentValue).getD 0)

theorem digits_of_spells {literal : NumberLiteral} (written : ∃ text, literal.Spells text) :
    (∀ digit ∈ literal.whole, digit.isDigit = true) ∧
      ∀ digit ∈ literal.fraction.getD [], digit.isDigit = true := by
  obtain ⟨text, spelled⟩ := written
  have unsigned : ∃ rest, literal.SpellsUnsigned rest := by
    cases spelled with
    | plain _ unsigned => exact ⟨_, unsigned⟩
    | negated _ unsigned => exact ⟨_, unsigned⟩
  obtain ⟨rest, whole, fraction, -⟩ := unsigned
  refine ⟨whole.all, ?_⟩
  cases fraction with
  | absent => exact List.forall_mem_nil _
  | present digits => exact digits.all

/-- Two numbers are the same but for a small share. -/
structure Close (first second : ℚ) : Prop where
  upper : first ≤ second * (1 + 1 / 2 ^ 60)
  lower : second ≤ first * (1 + 1 / 2 ^ 60)

theorem IsFull.le {significand : Nat} (full : IsFull significand) : (2 : ℚ) ^ 60 ≤ significand := by
  have natural : 2 ^ 60 ≤ significand := by
    simp only [IsFull, significandBound] at full
    omega
  exact_mod_cast natural

/-- Two numbers are close that both start with the digits of a full significand. -/
theorem IsFull.close {significand : Nat} (full : IsFull significand) {first second unit : ℚ}
    (positive : 0 < unit) (firstStarts : significand ≤ first ∧ first ≤ significand + 1)
    (secondStarts : significand ≤ second ∧ second ≤ significand + 1) :
    Close (first * unit) (second * unit) := by
  have large := full.le
  have share {one other : ℚ} (one_le : one ≤ significand + 1) (le_other : significand ≤ other) :
      one * unit ≤ other * unit * (1 + 1 / 2 ^ 60) := by
    rw [mul_right_comm]
    gcongr
    linarith
  exact ⟨share firstStarts.2 secondStarts.1, share secondStarts.2 firstStarts.1⟩

theorem Close.refl {number : ℚ} (nonneg : 0 ≤ number) : Close number number :=
  have share := le_mul_of_one_le_right nonneg (by norm_num : (1 : ℚ) ≤ 1 + 1 / 2 ^ 60)
  ⟨share, share⟩

theorem scaled_eq (number : Nat) (exponent : Int) (digits : List Char) :
    (number : ℚ) * 10 ^ (exponent - digits.length) = number / 10 ^ digits.length * 10 ^ exponent := by
  rw [zpow_sub₀ (by norm_num), zpow_natCast]
  ring

variable {taken left : List Char} {start : Nat}

/-- Numbers that go on in some way after a full significand are close. -/
theorem IsFull.close_scaled (full : IsFull start) (takenAll : ∀ digit ∈ taken, digit.isDigit = true)
    (leftAll : ∀ digit ∈ left, digit.isDigit = true) (exponent : Int) :
    Close (Nat.ofDigitChars 10 taken start * 10 ^ (exponent - taken.length))
      (Nat.ofDigitChars 10 left start * 10 ^ (exponent - left.length)) := by
  have positive : (0 : ℚ) < 10 ^ exponent := by positivity
  have close := full.close positive (scaled_bounds takenAll start) (scaled_bounds leftAll start)
  rwa [← scaled_eq, ← scaled_eq] at close

/-- Digits that are left out after a full significand make no great difference. -/
theorem close_of_taken (leftAll : ∀ digit ∈ left, digit.isDigit = true)
    (full : left = [] ∨ IsFull (Nat.ofDigitChars 10 taken start)) (exponent : Int) :
    Close (Nat.ofDigitChars 10 taken start * 10 ^ (exponent - taken.length))
      (Nat.ofDigitChars 10 (taken ++ left) start * 10 ^ (exponent - (taken ++ left).length)) := by
  rcases full with rfl | full
  · rw [List.append_nil]
    exact .refl (by positivity)
  · have close := full.close_scaled (List.forall_mem_nil _) leftAll (exponent - taken.length)
    rw [List.length_nil, Nat.cast_zero, sub_zero, Nat.ofDigitChars_nil] at close
    rwa [Nat.ofDigitChars_append, List.length_append, Nat.cast_add, ← sub_sub]

/-- What a literal is read as is close to what it is written for. -/
theorem close_gathered {literal : NumberLiteral} (written : ∃ text, literal.Spells text) :
    Close (literal.gathered.1 * 10 ^ literal.gathered.2) literal.magnitude := by
  obtain ⟨wholeAll, fractionAll⟩ := digits_of_spells written
  obtain ⟨wholeTaken, wholeLeft, wholeSplit, wholeGathered, wholeFull⟩ := gatherWhole_split wholeAll
  obtain ⟨taken, left, fractionSplit, fractionGathered, fractionFull⟩ :=
    gatherFraction_split fractionAll (gatherWhole literal.whole).1
  rw [wholeSplit] at wholeAll
  rw [fractionSplit] at fractionAll
  obtain ⟨-, wholeLeftAll⟩ := List.forall_mem_append.mp wholeAll
  obtain ⟨takenAll, leftAll⟩ := List.forall_mem_append.mp fractionAll
  rw [wholeGathered] at fractionGathered fractionFull
  simp only [gathered, magnitude, wholeGathered, fractionGathered]
  rw [wholeSplit, fractionSplit]
  generalize (literal.exponent.map exponentValue).getD 0 = exponent
  generalize isStart : Nat.ofDigitChars 10 wholeTaken 0 = start at *
  rcases wholeFull with rfl | full
  · have close := close_of_taken leftAll fractionFull exponent
    rw [List.append_nil, Nat.ofDigitChars_append, isStart]
    rwa [List.length_nil, Nat.cast_zero, zero_sub, neg_add_eq_sub]
  · -- all that follows the whole digits that are taken follows a full significand
    have close := full.close_scaled takenAll
      (List.forall_mem_append.mpr ⟨wholeLeftAll, fractionAll⟩) (wholeLeft.length + exponent)
    rw [List.append_assoc, Nat.ofDigitChars_append, isStart, sub_add_eq_add_sub]
    have lengths : (wholeLeft ++ (taken ++ left)).length =
        wholeLeft.length + (taken ++ left).length := List.length_append
    rwa [lengths, Nat.cast_add, add_sub_add_left_eq_sub] at close

/-- Whether a literal is too large for a floating point number can be told from its exact magnitude,
but for a small share of it. -/
theorem floating?_bounds {literal : NumberLiteral} (written : ∃ text, literal.Spells text) :
    (literal.floating? = none → magnitudeLimit ≤ literal.magnitude * (1 + 1 / 2 ^ 50)) ∧
    (magnitudeLimit * (1 + 1 / 2 ^ 50) ≤ literal.magnitude → literal.floating? = none) := by
  have tooLarge : literal.floating? = none ↔
      ofDecimal? literal.gathered.1 literal.gathered.2 = none := by
    rw [floating?, Option.map_eq_none_iff]
    rfl
  have small : literal.gathered.1 < 2 ^ 64 := gatherFraction_lt (gatherWhole_lt _) _
  obtain ⟨upper, lower⟩ := close_gathered written
  obtain ⟨only, surely⟩ := ofDecimal?_bounds small literal.gathered.2
  rw [tooLarge]
  constructor
  · intro isLarge
    calc magnitudeLimit
      _ ≤ literal.gathered.1 * 10 ^ literal.gathered.2 * (1 + 3 / 2 ^ 52) := only isLarge
      _ ≤ literal.magnitude * (1 + 1 / 2 ^ 60) * (1 + 3 / 2 ^ 52) := by gcongr
      _ ≤ literal.magnitude * (1 + 1 / 2 ^ 50) := by
        rw [mul_assoc]
        gcongr
        · exact literal.magnitude_nonneg
        · norm_num
  · intro isLarge
    apply surely
    have positive : (0 : ℚ) < 1 + 1 / 2 ^ 60 := by norm_num
    refine le_of_mul_le_mul_right ?_ positive
    calc magnitudeLimit * (1 + 3 / 2 ^ 52) * (1 + 1 / 2 ^ 60)
      _ ≤ magnitudeLimit * (1 + 1 / 2 ^ 50) := by
        rw [mul_assoc]
        have nonneg := magnitudeLimit_positive.le
        gcongr
        norm_num
      _ ≤ literal.magnitude := isLarge
      _ ≤ literal.gathered.1 * 10 ^ literal.gathered.2 * (1 + 1 / 2 ^ 60) := lower

end Magnitude

end DiagnosticReplay.Json.NumberLiteral
