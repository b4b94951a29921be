import DiagnosticReplay.Decimal.Binary64
import Mathlib.Algebra.Order.Field.Power
import Mathlib.Algebra.Order.Field.Rat
import Mathlib.Tactic.FieldSimp
import Mathlib.Tactic.Linarith
import Mathlib.Tactic.NormNum
import Mathlib.Tactic.Positivity
import Mathlib.Tactic.Ring

/-! # What rounding keeps

A quotient that is rounded is off by half a unit in the last place at most, and it is too large
exactly from the midpoint above the greatest number on.
-/

namespace DiagnosticReplay.Decimal

section Quotients

variable {numerator denominator : Nat}

/-- A quotient is rounded down or up, and a tie to the even number. -/
theorem roundQuotient_cases (numerator denominator : Nat) :
    roundQuotient numerator denominator = numerator / denominator ∧
        2 * (numerator % denominator) ≤ denominator ∧
        (2 * (numerator % denominator) = denominator → numerator / denominator % 2 = 0) ∨
      roundQuotient numerator denominator = numerator / denominator + 1 ∧
        denominator ≤ 2 * (numerator % denominator) ∧
        (2 * (numerator % denominator) = denominator → numerator / denominator % 2 = 1) := by
  simp only [roundQuotient]
  split
  · omega
  · split
    · omega
    · split <;> omega

/-- A rounded quotient is off by one half at most. -/
theorem abs_roundQuotient_sub_le (numerator : Nat) (positive : 0 < denominator) :
    |(roundQuotient numerator denominator : ℚ) - numerator / denominator| ≤ 1 / 2 := by
  have parts := Nat.div_add_mod' numerator denominator
  have small := Nat.mod_lt numerator positive
  have next := Nat.add_one_mul (numerator / denominator) denominator
  obtain ⟨below, above⟩ : 2 * numerator ≤
        2 * (roundQuotient numerator denominator * denominator) + denominator ∧
      2 * (roundQuotient numerator denominator * denominator) ≤ 2 * numerator + denominator := by
    rcases roundQuotient_cases numerator denominator with ⟨down, half, -⟩ | ⟨up, half, -⟩
    · rw [down]
      omega
    · rw [up]
      omega
  have belowCast : (2 * numerator : ℚ) ≤
      2 * (roundQuotient numerator denominator * denominator) + denominator := by
    exact_mod_cast below
  have aboveCast : 2 * ((roundQuotient numerator denominator : ℚ) * denominator) ≤
      2 * numerator + denominator := by
    exact_mod_cast above
  have positiveCast : (0 : ℚ) < denominator := by exact_mod_cast positive
  rw [abs_sub_le_iff, sub_le_iff_le_add, sub_le_iff_le_add, ← sub_le_iff_le_add',
    le_div_iff₀ positiveCast, div_le_iff₀ positiveCast]
  constructor <;> linarith

/-- A tie above an odd number is rounded up. -/
theorem lt_roundQuotient_iff (positive : 0 < denominator) {floor : Nat} (odd : floor % 2 = 1) :
    floor < roundQuotient numerator denominator ↔
      2 * (floor * denominator) + denominator ≤ 2 * numerator := by
  have parts := Nat.div_add_mod' numerator denominator
  have small := Nat.mod_lt numerator positive
  have rounded := roundQuotient_cases numerator denominator
  rcases Nat.lt_trichotomy floor (numerator / denominator) with below | same | above
  · have least := Nat.mul_le_mul_right denominator (Nat.succ_le_of_lt below)
    rw [Nat.succ_mul] at least
    omega
  · rw [same] at odd ⊢
    omega
  · have most := Nat.mul_le_mul_right denominator (Nat.succ_le_of_lt above)
    rw [Nat.succ_mul] at most
    omega

end Quotients

namespace Binary64

/-- The number that a significand and an exponent stand for. -/
def value (number : Binary64) : ℚ :=
  number.significand * 2 ^ number.exponent

section Units

variable {numerator denominator : Nat}

theorem inUnits_positive (numerator : Nat) (positive : 0 < denominator) (exponent : Int) :
    0 < (inUnits numerator denominator exponent).2 := by
  simp only [inUnits, Nat.shiftLeft_eq]
  exact Nat.mul_pos positive (Nat.two_pow_pos exponent.toNat)

/-- Counting a quotient in units divides it by the unit. -/
theorem inUnits_quotient (numerator denominator : Nat) (exponent : Int) :
    ((inUnits numerator denominator exponent).1 : ℚ) /
        (inUnits numerator denominator exponent).2 =
      numerator / denominator / 2 ^ exponent := by
  have units : (2 : ℚ) ^ exponent = 2 ^ exponent.toNat / 2 ^ (-exponent).toNat := by
    rw [← zpow_natCast, ← zpow_natCast, ← zpow_sub₀ two_ne_zero]
    congr 1
    omega
  simp only [inUnits, Nat.shiftLeft_eq]
  push_cast
  rw [units]
  field_simp

theorem le_inUnits_iff (positive : 0 < denominator) (exponent : Int) {limit : Nat} :
    limit ≤ (inUnits numerator denominator exponent).1 /
        (inUnits numerator denominator exponent).2 ↔
      (limit : ℚ) * 2 ^ exponent ≤ numerator / denominator := by
  have units : (0 : ℚ) < 2 ^ exponent := by positivity
  have scaled := inUnits_positive numerator positive exponent
  have scaledCast : (0 : ℚ) < (inUnits numerator denominator exponent).2 := by exact_mod_cast scaled
  rw [Nat.le_div_iff_mul_le scaled, ← le_div_iff₀ units, ← inUnits_quotient,
    le_div_iff₀ scaledCast]
  norm_cast

/-- Between powers of two the digits of a quotient are counted. -/
theorem log2_quotient (numeratorPositive : 0 < numerator) (denominatorPositive : 0 < denominator) :
    (2 : ℚ) ^ ((numerator.log2 : Int) - denominator.log2 - 1) < numerator / denominator ∧
      (numerator : ℚ) / denominator < 2 ^ ((numerator.log2 : Int) - denominator.log2 + 1) := by
  have top : (2 : ℚ) ^ numerator.log2 ≤ numerator := by
    exact_mod_cast Nat.log2_self_le numeratorPositive.ne'
  have topNext : (numerator : ℚ) < 2 ^ (numerator.log2 + 1) := by
    exact_mod_cast Nat.lt_log2_self (n := numerator)
  have bottom : (2 : ℚ) ^ denominator.log2 ≤ denominator := by
    exact_mod_cast Nat.log2_self_le denominatorPositive.ne'
  have bottomNext : (denominator : ℚ) < 2 ^ (denominator.log2 + 1) := by
    exact_mod_cast Nat.lt_log2_self (n := denominator)
  have positive : (0 : ℚ) < denominator := by exact_mod_cast denominatorPositive
  constructor
  · rw [lt_div_iff₀ positive]
    calc (2 : ℚ) ^ ((numerator.log2 : Int) - denominator.log2 - 1) * denominator
      _ < 2 ^ ((numerator.log2 : Int) - denominator.log2 - 1) * 2 ^ (denominator.log2 + 1) := by
        gcongr
      _ = 2 ^ numerator.log2 := by
        rw [← zpow_natCast, ← zpow_natCast, ← zpow_add₀ two_ne_zero]
        congr 1
        omega
      _ ≤ numerator := top
  · rw [div_lt_iff₀ positive]
    calc (numerator : ℚ)
      _ < 2 ^ (numerator.log2 + 1) := topNext
      _ = 2 ^ ((numerator.log2 : Int) - denominator.log2 + 1) * 2 ^ denominator.log2 := by
        rw [← zpow_natCast, ← zpow_natCast, ← zpow_add₀ two_ne_zero]
        congr 1
        omega
      _ ≤ 2 ^ ((numerator.log2 : Int) - denominator.log2 + 1) * denominator := by gcongr

/-- At the exponent that is chosen, a quotient has a whole part of 53 bits, or fewer at the least
exponent. -/
theorem exponentFor_spec (numeratorPositive : 0 < numerator)
    (denominatorPositive : 0 < denominator) :
    (numerator : ℚ) / denominator < 2 ^ (exponentFor numerator denominator + 53) ∧
      ((2 : ℚ) ^ (exponentFor numerator denominator + 52) ≤ numerator / denominator ∨
        exponentFor numerator denominator = leastExponent) := by
  have bounds := log2_quotient numeratorPositive denominatorPositive
  have limit : (significandLimit : ℚ) = 2 ^ (53 : Int) := by norm_num [significandLimit]
  simp only [exponentFor, le_inUnits_iff denominatorPositive, limit, ← zpow_add₀ (two_ne_zero' ℚ)]
  generalize estimated : max ((numerator.log2 : Int) - denominator.log2 - 53) leastExponent = estimate
  have below : (numerator : ℚ) / denominator < 2 ^ (estimate + 54) := by
    refine bounds.2.trans_le (zpow_le_zpow_right₀ one_le_two ?_)
    omega
  split
  · rename_i above
    rw [add_comm] at above
    rw [show estimate + 1 + 53 = estimate + 54 by ring, show estimate + 1 + 52 = estimate + 53 by ring,
      ]
    exact ⟨below, .inl above⟩
  · rename_i notAbove
    rw [add_comm, not_le] at notAbove
    refine ⟨notAbove, ?_⟩
    rcases le_total leastExponent ((numerator.log2 : Int) - denominator.log2 - 53) with normal | tiny
    · left
      refine le_trans (zpow_le_zpow_right₀ one_le_two ?_) bounds.1.le
      omega
    · right
      omega

end Units

section Rounding

variable {numerator denominator : Nat}

/-- The significand of a quotient, at the exponent that is chosen for it. -/
def significandFor (numerator denominator : Nat) : Nat :=
  let scaled := inUnits numerator denominator (exponentFor numerator denominator)
  roundQuotient scaled.1 scaled.2

/-- A quotient is rounded by half a unit in the last place at most. -/
theorem abs_significandFor_sub_le (numerator : Nat) (positive : 0 < denominator) :
    |significandFor numerator denominator * (2 : ℚ) ^ exponentFor numerator denominator -
        numerator / denominator| ≤ 2 ^ exponentFor numerator denominator / 2 := by
  have units : (0 : ℚ) < 2 ^ exponentFor numerator denominator := by positivity
  have half := abs_roundQuotient_sub_le
    (inUnits numerator denominator (exponentFor numerator denominator)).1
    (inUnits_positive numerator positive (exponentFor numerator denominator))
  rw [inUnits_quotient, ← significandFor] at half
  calc |significandFor numerator denominator * (2 : ℚ) ^ exponentFor numerator denominator -
        numerator / denominator|
    _ = |significandFor numerator denominator -
          numerator / denominator / (2 : ℚ) ^ exponentFor numerator denominator| *
          2 ^ exponentFor numerator denominator := by
      rw [← abs_of_pos units, ← abs_mul, abs_of_pos units, sub_mul, div_mul_cancel₀ _ units.ne']
    _ ≤ 1 / 2 * 2 ^ exponentFor numerator denominator := by gcongr
    _ = 2 ^ exponentFor numerator denominator / 2 := by ring

theorem significandFor_le (numeratorPositive : 0 < numerator)
    (denominatorPositive : 0 < denominator) :
    significandFor numerator denominator ≤ significandLimit := by
  have units : (0 : ℚ) < 2 ^ exponentFor numerator denominator := by positivity
  have half := (abs_sub_le_iff.mp (abs_significandFor_sub_le numerator denominatorPositive)).1
  have below := (exponentFor_spec numeratorPositive denominatorPositive).1
  rw [add_comm, zpow_add₀ two_ne_zero] at below
  have limit : (significandLimit : ℚ) = 2 ^ (53 : Int) := by norm_num [significandLimit]
  have strict : (significandFor numerator denominator : ℚ) < significandLimit + 1 := by
    refine lt_of_mul_lt_mul_right ?_ units.le
    rw [limit]
    linarith
  have natural : significandFor numerator denominator < significandLimit + 1 := by
    exact_mod_cast strict
  omega

/-- The number that a quotient is rounded to. A significand that got one bit more is a power of
two. -/
def rounded (numerator denominator : Nat) : Binary64 :=
  if significandFor numerator denominator = significandLimit then
    ⟨leastFullSignificand, exponentFor numerator denominator + 1⟩
  else ⟨significandFor numerator denominator, exponentFor numerator denominator⟩

theorem value_rounded (numerator denominator : Nat) :
    (rounded numerator denominator).value =
      significandFor numerator denominator * 2 ^ exponentFor numerator denominator := by
  rw [rounded]
  split
  · rename_i full
    rw [value, full, zpow_add_one₀ two_ne_zero]
    simp only [leastFullSignificand, significandLimit]
    push_cast
    ring
  · rfl

theorem ofRatio?_eq (positive : 0 < numerator) :
    ofRatio? numerator denominator =
      if (rounded numerator denominator).exponent ≤ greatestExponent then
        some (rounded numerator denominator)
      else none := by
  rw [ofRatio?, if_neg positive.ne']
  rfl

/-- The significand gets one bit more from half a unit below on. -/
theorem significandFor_full_iff (numeratorPositive : 0 < numerator)
    (denominatorPositive : 0 < denominator) :
    significandFor numerator denominator = significandLimit ↔
      ((2 : ℚ) ^ 53 - 1 / 2) * 2 ^ exponentFor numerator denominator ≤ numerator / denominator := by
  have atMost := significandFor_le numeratorPositive denominatorPositive
  have units : (0 : ℚ) < 2 ^ exponentFor numerator denominator := by positivity
  have scaled := inUnits_positive numerator denominatorPositive (exponentFor numerator denominator)
  have scaledCast : (0 : ℚ) <
      (inUnits numerator denominator (exponentFor numerator denominator)).2 := by
    exact_mod_cast scaled
  have full : significandFor numerator denominator = significandLimit ↔
      significandLimit - 1 < significandFor numerator denominator := by
    simp only [significandLimit] at atMost ⊢
    omega
  rw [full, significandFor, lt_roundQuotient_iff scaled (by decide), ← le_div_iff₀ units,
    ← inUnits_quotient, le_div_iff₀ scaledCast, ← Nat.cast_le (α := ℚ)]
  push_cast [significandLimit]
  constructor <;> intro bound <;> linarith

/-- The midpoint between the greatest number and the one that would follow it. -/
def overflowThreshold : ℚ :=
  (2 ^ 53 - 1 / 2) * 2 ^ (971 : Int)

theorem overflowThreshold_positive : 0 < overflowThreshold := by
  rw [overflowThreshold]
  exact mul_pos (by norm_num) (by positivity)

/-- A quotient of less than the greatest exponent is below the midpoint, even with one bit more. -/
theorem lt_overflowThreshold_of_exponent (numeratorPositive : 0 < numerator)
    (denominatorPositive : 0 < denominator)
    (less : exponentFor numerator denominator < greatestExponent) :
    (numerator : ℚ) / denominator < overflowThreshold := by
  calc (numerator : ℚ) / denominator
    _ < 2 ^ (exponentFor numerator denominator + 53) :=
      (exponentFor_spec numeratorPositive denominatorPositive).1
    _ ≤ 2 ^ (52 + 971 : Int) := by
      apply zpow_le_zpow_right₀ one_le_two
      rw [greatestExponent] at less
      omega
    _ ≤ overflowThreshold := by
      rw [overflowThreshold, zpow_add₀ two_ne_zero]
      gcongr
      norm_num

/-- A quotient of more than the greatest exponent is above the midpoint. -/
theorem overflowThreshold_le_of_exponent (numeratorPositive : 0 < numerator)
    (denominatorPositive : 0 < denominator)
    (more : greatestExponent < exponentFor numerator denominator) :
    overflowThreshold ≤ (numerator : ℚ) / denominator := by
  have normal := (exponentFor_spec numeratorPositive denominatorPositive).2.resolve_right
    (by simp only [greatestExponent, leastExponent] at *; omega)
  calc overflowThreshold
    _ ≤ 2 ^ (53 + 971 : Int) := by
      rw [overflowThreshold, zpow_add₀ two_ne_zero]
      gcongr
      norm_num
    _ ≤ 2 ^ (exponentFor numerator denominator + 52) := by
      apply zpow_le_zpow_right₀ one_le_two
      rw [greatestExponent] at more
      omega
    _ ≤ numerator / denominator := normal

/-- A quotient is too large exactly from the midpoint above the greatest number on. -/
theorem ofRatio?_eq_none_iff (numerator : Nat) (denominatorPositive : 0 < denominator) :
    ofRatio? numerator denominator = none ↔
      overflowThreshold ≤ (numerator : ℚ) / denominator := by
  rcases Nat.eq_zero_or_pos numerator with rfl | numeratorPositive
  · rw [ofRatio?, if_pos rfl, Nat.cast_zero, zero_div]
    exact iff_of_false (Option.some_ne_none zero) (not_le.mpr overflowThreshold_positive)
  have tooLarge : ofRatio? numerator denominator = none ↔
      greatestExponent < (rounded numerator denominator).exponent := by
    rw [ofRatio?_eq numeratorPositive, ← not_le]
    split <;> rename_i fits <;> simp [fits]
  rw [tooLarge, rounded]
  rcases lt_trichotomy (exponentFor numerator denominator) greatestExponent with less | same | more
  · have small := lt_overflowThreshold_of_exponent numeratorPositive denominatorPositive less
    refine iff_of_false ?_ (not_le.mpr small)
    split <;> dsimp only <;> omega
  · -- only at the greatest exponent does one bit more make the difference
    have full := significandFor_full_iff numeratorPositive denominatorPositive
    rw [same] at full ⊢
    rw [overflowThreshold, ← greatestExponent, ← full]
    by_cases isFull : significandFor numerator denominator = significandLimit
    · simp [isFull]
    · simp [isFull]
  · have large := overflowThreshold_le_of_exponent numeratorPositive denominatorPositive more
    refine iff_of_true ?_ large
    split <;> dsimp only <;> omega

/-- A quotient that is rounded is off by its part that 53 bits cannot hold, or by the least number
that can be told from zero. -/
theorem abs_value_sub_le (positive : 0 < denominator) {result : Binary64}
    (isResult : ofRatio? numerator denominator = some result) :
    |result.value - numerator / denominator| ≤
      (numerator / denominator : ℚ) / 2 ^ 53 + 2 ^ (leastExponent - 1) := by
  have quotient : (0 : ℚ) ≤ numerator / denominator := by positivity
  have least : (0 : ℚ) < 2 ^ (leastExponent - 1) := by positivity
  rcases Nat.eq_zero_or_pos numerator with rfl | numeratorPositive
  · rw [ofRatio?, if_pos rfl] at isResult
    obtain rfl := Option.some.inj isResult
    simp only [value, zero, Nat.cast_zero, zero_mul, zero_div, sub_self, abs_zero, zero_add]
    exact least.le
  · rw [ofRatio?_eq numeratorPositive, Option.ite_none_right_eq_some] at isResult
    rw [← Option.some.inj isResult.2, value_rounded]
    have half := abs_significandFor_sub_le numerator positive
    rcases (exponentFor_spec numeratorPositive positive).2 with normal | tiny
    · rw [zpow_add₀ two_ne_zero] at normal
      have most : (2 : ℚ) ^ exponentFor numerator denominator / 2 ≤
          (numerator / denominator : ℚ) / 2 ^ 53 := by
        rw [div_le_div_iff₀ two_pos (by positivity)]
        linarith
      linarith
    · have most : (2 : ℚ) ^ exponentFor numerator denominator / 2 = 2 ^ (leastExponent - 1) := by
        rw [tiny, zpow_sub_one₀ two_ne_zero, div_eq_mul_inv]
      have share : (0 : ℚ) ≤ (numerator / denominator : ℚ) / 2 ^ 53 := by positivity
      linarith

end Rounding

end Binary64

end DiagnosticReplay.Decimal
