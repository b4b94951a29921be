import DiagnosticReplay.Proofs.Decimal.Binary64

/-! # When a decimal number is too large

A decimal number is made by rounding its significand and a power of ten, and rounding their product
or quotient once more. So whether it is too large can be told from its exact value, but for a small
share of it; and a number is never too large that was divided.
-/

namespace DiagnosticReplay.Decimal.Binary64

/-- The number is within two units in the last place of an exact value. -/
def IsNear (number : Binary64) (exact : ℚ) : Prop :=
  |number.value - exact| ≤ exact / 2 ^ 52

section Nearness

variable {number : Binary64} {exact : ℚ}

theorem IsNear.upper (near : number.IsNear exact) : number.value ≤ exact * (1 + 1 / 2 ^ 52) := by
  have bound := (abs_sub_le_iff.mp near).1
  linarith

theorem IsNear.lower (near : number.IsNear exact) : exact * (1 - 1 / 2 ^ 52) ≤ number.value := by
  have bound := (abs_sub_le_iff.mp near).2
  linarith

theorem value_nonneg (number : Binary64) : 0 ≤ number.value := by
  rw [value]
  positivity

/-- What a number is near is not negative. -/
theorem IsNear.nonneg (near : number.IsNear exact) : 0 ≤ exact := by
  have share : 0 ≤ exact / 2 ^ 52 := (abs_nonneg _).trans near
  linarith

theorem value_eq_zero_iff : number.value = 0 ↔ number.significand = 0 := by
  rw [value, mul_eq_zero, or_iff_left (by positivity), Nat.cast_eq_zero]

/-- A number near a natural number is zero only if that is. -/
theorem IsNear.significand_eq_zero_iff {natural : Nat} (near : number.IsNear natural) :
    number.significand = 0 ↔ natural = 0 := by
  rw [← value_eq_zero_iff, ← Nat.cast_eq_zero (R := ℚ)]
  have lower := near.lower
  have upper := near.upper
  constructor
  · intro isZero
    rw [isZero] at lower
    exact le_antisymm (by linarith) near.nonneg
  · intro isZero
    rw [isZero, zero_mul] at upper
    exact le_antisymm upper number.value_nonneg

/-- From one on, what is rounded is near. -/
theorem isNear_of_ofRatio? {numerator denominator : Nat} (positive : 0 < denominator)
    (atLeast : 1 ≤ (numerator : ℚ) / denominator)
    (isNumber : ofRatio? numerator denominator = some number) :
    number.IsNear (numerator / denominator) := by
  have bound := abs_value_sub_le positive isNumber
  have tiny : (2 : ℚ) ^ (leastExponent - 1) ≤ 1 / 2 ^ 53 := by
    rw [one_div, ← zpow_natCast, ← zpow_neg]
    exact zpow_le_zpow_right₀ one_le_two (by decide)
  rw [IsNear]
  linarith

theorem exists_ofRatio?_eq {numerator denominator : Nat} (positive : 0 < denominator)
    (small : (numerator : ℚ) / denominator < overflowThreshold) :
    ∃ number, ofRatio? numerator denominator = some number := by
  apply Option.ne_none_iff_exists'.mp
  rw [ne_eq, ofRatio?_eq_none_iff numerator positive, not_le]
  exact small

/-- A natural number that is not too large is rounded to a number near it. -/
theorem exists_isNear {natural : Nat} (small : (natural : ℚ) < overflowThreshold) :
    ∃ number, ofRatio? natural 1 = some number ∧ number.IsNear natural := by
  have whole : (natural : ℚ) / (1 : Nat) = natural := by rw [Nat.cast_one, div_one]
  obtain ⟨number, isNumber⟩ := exists_ofRatio?_eq one_pos (whole.trans_lt small)
  refine ⟨number, isNumber, ?_⟩
  rcases Nat.eq_zero_or_pos natural with rfl | positive
  · obtain rfl := Option.some.inj isNumber
    simp [IsNear, value, zero]
  · have atLeast : 1 ≤ (natural : ℚ) / (1 : Nat) := by
      rw [whole]
      exact_mod_cast positive
    rw [← whole]
    exact isNear_of_ofRatio? one_pos atLeast isNumber

end Nearness

section Powers

/-- The power of two that all numbers are below. -/
@[irreducible] def magnitudeLimit : ℚ :=
  2 ^ 1024

theorem magnitudeLimit_positive : 0 < magnitudeLimit := by
  rw [magnitudeLimit]
  exact pow_pos two_pos 1024

theorem two_pow_le_magnitudeLimit {exponent : Nat} (small : exponent ≤ 1024) :
    (2 : ℚ) ^ exponent ≤ magnitudeLimit := by
  rw [magnitudeLimit]
  exact pow_le_pow_right₀ one_le_two small

theorem overflowThreshold_bounds :
    magnitudeLimit * (1 - 1 / 2 ^ 54) = overflowThreshold ∧ overflowThreshold ≤ magnitudeLimit := by
  have units : (0 : ℚ) < 2 ^ (971 : Int) := by positivity
  have most : magnitudeLimit = 2 ^ 53 * 2 ^ (971 : Int) := by
    rw [magnitudeLimit, ← zpow_natCast, ← zpow_natCast, ← zpow_add₀ two_ne_zero]
    rfl
  rw [overflowThreshold, most]
  constructor
  · ring
  · gcongr
    norm_num

theorem magnitudeLimit_le : magnitudeLimit ≤ 10 ^ 309 := by
  calc magnitudeLimit
    _ = (2 ^ 93) ^ 11 * 2 := by rw [magnitudeLimit, ← pow_mul, ← pow_succ]
    _ ≤ (10 ^ 28) ^ 11 * 10 := by
      gcongr <;> norm_num
    _ = 10 ^ 309 := by rw [← pow_mul, ← pow_succ]

theorem powerOfTen_lt {exponent : Nat} (small : exponent ≤ greatestPower) :
    ((10 ^ exponent : Nat) : ℚ) < overflowThreshold := by
  rw [← overflowThreshold_bounds.1, Nat.cast_pow]
  calc (10 : ℚ) ^ exponent
    _ ≤ 10 ^ 308 := pow_le_pow_right₀ (by norm_num) small
    _ = (10 ^ 28) ^ 11 := (pow_mul 10 28 11)
    _ ≤ (2 ^ 93 * (101 / 100)) ^ 11 := by
      gcongr
      norm_num
    _ = 2 ^ 1023 * (101 / 100) ^ 11 := by rw [mul_pow, ← pow_mul]
    _ < 2 ^ 1023 * (2 * (1 - 1 / 2 ^ 54)) := by
      gcongr
      norm_num
    _ = magnitudeLimit * (1 - 1 / 2 ^ 54) := by rw [← mul_assoc, ← pow_succ, magnitudeLimit]

theorem exists_powerOfTen? {exponent : Nat} (small : exponent ≤ greatestPower) :
    ∃ power, powerOfTen? exponent = some power ∧ power.IsNear (10 ^ exponent) := by
  obtain ⟨power, isPower, near⟩ := exists_isNear (powerOfTen_lt small)
  push_cast at near
  exact ⟨power, isPower, near⟩

theorem two_pow_64_lt : (2 : ℚ) ^ 64 < overflowThreshold := by
  refine lt_of_le_of_lt ?_ (@powerOfTen_lt 20 (by decide))
  norm_num

theorem IsNear.two_le {power : Binary64} {exponent : Nat} (near : power.IsNear (10 ^ exponent))
    (positive : 0 < exponent) : 2 ≤ power.value := by
  have atLeast : (10 : ℚ) ^ 1 ≤ 10 ^ exponent := pow_le_pow_right₀ (by norm_num) positive
  have lower := near.lower
  linarith

end Powers

section Operations

theorem ratio_positive (number : Binary64) : 0 < number.ratio.2 :=
  inUnits_positive number.significand one_pos (-number.exponent)

theorem ratio_quotient (number : Binary64) :
    (number.ratio.1 : ℚ) / number.ratio.2 = number.value := by
  rw [ratio, inUnits_quotient, Nat.cast_one, div_one, zpow_neg, div_inv_eq_mul, value]

theorem ratio_fst_positive {number : Binary64} (positive : 0 < number.value) :
    0 < number.ratio.1 := by
  rw [← ratio_quotient] at positive
  have denominator : (0 : ℚ) < number.ratio.2 := by exact_mod_cast number.ratio_positive
  exact_mod_cast (div_pos_iff_of_pos_right denominator).mp positive

variable {first second : Binary64}

/-- A product is too large exactly from the midpoint above the greatest number on. -/
theorem mul?_eq_none_iff (first second : Binary64) :
    first.mul? second = none ↔ overflowThreshold ≤ first.value * second.value := by
  rw [mul?, ofRatio?_eq_none_iff _ (Nat.mul_pos first.ratio_positive second.ratio_positive),
    Nat.cast_mul, Nat.cast_mul, mul_div_mul_comm, ratio_quotient, ratio_quotient]

/-- A number that 66 bits hold is not too large, and stays so when it is divided. -/
theorem exists_div?_eq (most : first.value ≤ 2 ^ 65) (atLeast : 2 ≤ second.value) :
    ∃ result, first.div? second = some result ∧ result.value ≤ 2 ^ 65 := by
  have positive : 0 < first.ratio.2 * second.ratio.1 :=
    Nat.mul_pos first.ratio_positive (ratio_fst_positive (by linarith))
  have quotient : ((first.ratio.1 * second.ratio.2 : Nat) : ℚ) /
      (first.ratio.2 * second.ratio.1 : Nat) = first.value / second.value := by
    rw [Nat.cast_mul, Nat.cast_mul, mul_div_mul_comm, ratio_quotient, ← ratio_quotient second,
      div_div_eq_mul_div, mul_div_assoc]
  have half : first.value / second.value ≤ 2 ^ 64 := by
    rw [div_le_iff₀ (by linarith)]
    linarith
  have small : first.value / second.value < overflowThreshold :=
    half.trans_lt two_pow_64_lt
  obtain ⟨result, isResult⟩ := exists_ofRatio?_eq positive (quotient.trans_lt small)
  have bound := (abs_sub_le_iff.mp (abs_value_sub_le positive isResult)).1
  rw [quotient] at bound
  have tiny : (2 : ℚ) ^ (leastExponent - 1) ≤ 1 := zpow_le_one_of_nonpos₀ one_le_two (by decide)
  exact ⟨result, isResult, by linarith⟩

/-- Whether the product of numbers near others is too large can be told from the others, but for a
small share. -/
theorem IsNear.product_bounds {one other : ℚ} (firstNear : first.IsNear one)
    (secondNear : second.IsNear other) :
    (overflowThreshold ≤ first.value * second.value →
      magnitudeLimit ≤ one * other * (1 + 3 / 2 ^ 52)) ∧
    (magnitudeLimit * (1 + 3 / 2 ^ 52) ≤ one * other →
      overflowThreshold ≤ first.value * second.value) := by
  obtain ⟨least, most⟩ := overflowThreshold_bounds
  have product : 0 ≤ one * other := mul_nonneg firstNear.nonneg secondNear.nonneg
  constructor
  · intro large
    have upper : first.value * second.value ≤ one * other * (1 + 1 / 2 ^ 52) ^ 2 := by
      calc first.value * second.value
        _ ≤ (one * (1 + 1 / 2 ^ 52)) * (other * (1 + 1 / 2 ^ 52)) := by
          have nonneg := firstNear.nonneg
          exact mul_le_mul firstNear.upper secondNear.upper second.value_nonneg (by positivity)
        _ = one * other * (1 + 1 / 2 ^ 52) ^ 2 := by ring
    have share : ((1 : ℚ) + 1 / 2 ^ 52) ^ 2 ≤ (1 + 3 / 2 ^ 52) * (1 - 1 / 2 ^ 54) := by norm_num
    have positive : (0 : ℚ) < 1 - 1 / 2 ^ 54 := by norm_num
    refine le_of_mul_le_mul_right ?_ positive
    calc magnitudeLimit * (1 - 1 / 2 ^ 54)
      _ ≤ one * other * (1 + 1 / 2 ^ 52) ^ 2 := least.trans_le (large.trans upper)
      _ ≤ one * other * ((1 + 3 / 2 ^ 52) * (1 - 1 / 2 ^ 54)) := by gcongr
      _ = one * other * (1 + 3 / 2 ^ 52) * (1 - 1 / 2 ^ 54) := by ring
  · intro large
    have share : (1 : ℚ) ≤ (1 + 3 / 2 ^ 52) * (1 - 1 / 2 ^ 52) ^ 2 := by norm_num
    have positive : (0 : ℚ) ≤ 1 - 1 / 2 ^ 52 := by norm_num
    calc overflowThreshold
      _ ≤ magnitudeLimit * ((1 + 3 / 2 ^ 52) * (1 - 1 / 2 ^ 52) ^ 2) :=
        most.trans (le_mul_of_one_le_right magnitudeLimit_positive.le share)
      _ = magnitudeLimit * (1 + 3 / 2 ^ 52) * (1 - 1 / 2 ^ 52) ^ 2 := by ring
      _ ≤ one * other * (1 - 1 / 2 ^ 52) ^ 2 := by gcongr
      _ = (one * (1 - 1 / 2 ^ 52)) * (other * (1 - 1 / 2 ^ 52)) := by ring
      _ ≤ first.value * second.value :=
        mul_le_mul firstNear.lower secondNear.lower (mul_nonneg secondNear.nonneg positive)
          first.value_nonneg

end Operations

section Scaling

theorem exists_divGreatestPower?_eq {number : Binary64} (most : number.value ≤ 2 ^ 65)
    (times : Nat) :
    ∃ result, number.divGreatestPower? times = some result ∧ result.value ≤ 2 ^ 65 := by
  induction times generalizing number with
  | zero => exact ⟨number, rfl, most⟩
  | succ times ih =>
    obtain ⟨power, isPower, near⟩ := exists_powerOfTen? (Nat.le_refl greatestPower)
    obtain ⟨smaller, isSmaller, mostToo⟩ := exists_div?_eq most (near.two_le (by decide))
    rw [divGreatestPower?]
    split
    · exact ⟨number, rfl, most⟩
    · obtain ⟨result, isResult, mostOfAll⟩ := ih mostToo
      refine ⟨result, ?_, mostOfAll⟩
      simp only [isPower, isSmaller, isResult, bind, Option.bind]

/-- A number of 64 bits is never too large when it is divided by a power of ten. -/
theorem exists_divPowerOfTen?_eq {number : Binary64} (most : number.value ≤ 2 ^ 65) {exponent : Nat}
    (positive : 0 < exponent) : ∃ result, number.divPowerOfTen? exponent = some result := by
  obtain ⟨smaller, isSmaller, mostToo⟩ :=
    exists_divGreatestPower?_eq most ((exponent - 1) / greatestPower)
  have ⟨remains, left⟩ : 0 < exponent - greatestPower * ((exponent - 1) / greatestPower) ∧
      exponent - greatestPower * ((exponent - 1) / greatestPower) ≤ greatestPower := by
    simp only [greatestPower]
    omega
  obtain ⟨power, isPower, near⟩ := exists_powerOfTen? left
  obtain ⟨result, isResult, -⟩ := exists_div?_eq mostToo (near.two_le remains)
  refine ⟨result, ?_⟩
  simp only [divPowerOfTen?, isPower, isSmaller, isResult, bind, Option.bind]

/-- Scaling up by a power of ten is too large only from about the power of two on that numbers end
before, and surely from a little above it on. -/
theorem mulPowerOfTen?_bounds {number : Binary64} {natural : Nat} (near : number.IsNear natural)
    (exponent : Nat) :
    (number.mulPowerOfTen? exponent = none →
      magnitudeLimit ≤ natural * 10 ^ exponent * (1 + 3 / 2 ^ 52)) ∧
    (magnitudeLimit * (1 + 3 / 2 ^ 52) ≤ natural * 10 ^ exponent →
      number.mulPowerOfTen? exponent = none) := by
  rw [mulPowerOfTen?]
  split
  · rename_i small
    obtain ⟨power, isPower, powerNear⟩ := exists_powerOfTen? small
    simp only [isPower, bind, Option.bind, mul?_eq_none_iff]
    exact near.product_bounds powerNear
  · rename_i notSmall
    have tenfold : magnitudeLimit ≤ 10 ^ exponent := by
      refine magnitudeLimit_le.trans (pow_le_pow_right₀ (by norm_num) ?_)
      simp only [greatestPower] at notSmall
      omega
    simp only [near.significand_eq_zero_iff]
    rcases Nat.eq_zero_or_pos natural with rfl | positive
    · have limit : 0 < magnitudeLimit * (1 + 3 / 2 ^ 52) :=
        mul_pos magnitudeLimit_positive (by norm_num)
      rw [if_pos rfl, Nat.cast_zero, zero_mul]
      exact ⟨fun none => absurd none (Option.some_ne_none number),
        fun large => absurd large (not_le.mpr limit)⟩
    · have atLeast : (1 : ℚ) ≤ natural := by exact_mod_cast positive
      rw [if_neg positive.ne']
      refine ⟨fun _ => ?_, fun _ => rfl⟩
      calc magnitudeLimit
        _ ≤ 10 ^ exponent := tenfold
        _ ≤ natural * 10 ^ exponent := le_mul_of_one_le_left (by positivity) atLeast
        _ ≤ natural * 10 ^ exponent * (1 + 3 / 2 ^ 52) :=
          le_mul_of_one_le_right (by positivity) (by norm_num)

/-- A decimal number is too large only from about the power of two on that numbers end before, and
surely from a little above it on. -/
theorem ofDecimal?_bounds {significand : Nat} (small : significand < 2 ^ 64) (exponent : Int) :
    (ofDecimal? significand exponent = none →
      magnitudeLimit ≤ significand * 10 ^ exponent * (1 + 3 / 2 ^ 52)) ∧
    (magnitudeLimit * (1 + 3 / 2 ^ 52) ≤ significand * 10 ^ exponent →
      ofDecimal? significand exponent = none) := by
  have smallCast : (significand : ℚ) < 2 ^ 64 := by exact_mod_cast small
  obtain ⟨number, isNumber, near⟩ := exists_isNear (smallCast.trans two_pow_64_lt)
  rw [ofDecimal?, isNumber, Option.bind_eq_bind, Option.bind_some]
  split
  · rename_i negative
    have most : number.value ≤ 2 ^ 65 := by
      have upper := near.upper
      linarith
    have positive : 0 < (-exponent).toNat := by omega
    obtain ⟨result, isResult⟩ := exists_divPowerOfTen?_eq most positive
    rw [isResult]
    refine ⟨fun none => absurd none (Option.some_ne_none result),
      fun large => absurd large (not_le.mpr ?_)⟩
    calc (significand : ℚ) * 10 ^ exponent
      _ ≤ significand :=
        mul_le_of_le_one_right (Nat.cast_nonneg _)
          (zpow_le_one_of_nonpos₀ (by norm_num) negative.le)
      _ < overflowThreshold := smallCast.trans two_pow_64_lt
      _ ≤ magnitudeLimit := overflowThreshold_bounds.2
      _ ≤ magnitudeLimit * (1 + 3 / 2 ^ 52) :=
        le_mul_of_one_le_right magnitudeLimit_positive.le (by norm_num)
  · rename_i notNegative
    have power : (10 : ℚ) ^ exponent = 10 ^ exponent.toNat := by
      rw [← zpow_natCast, Int.toNat_of_nonneg (not_lt.mp notNegative)]
    rw [power]
    exact mulPowerOfTen?_bounds near exponent.toNat

end Scaling

end DiagnosticReplay.Decimal.Binary64
