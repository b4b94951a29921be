/-! # Binary floating point

Magnitudes of finite numbers with a significand of 53 bits, as a natural number times a power of
two. Every operation rounds the exact result to the nearest number, a tie to the even significand,
and gives nothing where the result is too large. All arithmetic is on natural numbers, so a rounding
can be computed and reasoned about exactly.
-/

namespace DiagnosticReplay.Decimal

/-- The magnitude `significand * 2 ^ exponent`. The significand has 53 bits, or fewer at the smallest
exponent. -/
structure Binary64 where
  significand : Nat
  exponent : Int
deriving DecidableEq, Repr

/-- The quotient of two numbers, rounded to the nearest integer and a tie to the even one. -/
def roundQuotient (numerator denominator : Nat) : Nat :=
  let floor := numerator / denominator
  let rest := 2 * (numerator % denominator)
  if rest < denominator then floor
  else if denominator < rest then floor + 1
  else if floor % 2 = 0 then floor
  else floor + 1

namespace Binary64

/-- The significands of 53 bits and fewer are below this number, `2 ^ 53`. -/
def significandLimit : Nat := 0x20000000000000

/-- The least significand of 53 bits, `2 ^ 52`. -/
def leastFullSignificand : Nat := 0x10000000000000

/-- The least exponent. -/
def leastExponent : Int := -1074

/-- The greatest exponent. -/
def greatestExponent : Int := 971

/-- Zero. -/
def zero : Binary64 := ⟨0, leastExponent⟩

/-- A quotient in units of `2 ^ exponent`, as numerator and denominator. -/
def inUnits (numerator denominator : Nat) (exponent : Int) : Nat × Nat :=
  (numerator <<< (-exponent).toNat, denominator <<< exponent.toNat)

/-- The exponent at which a positive quotient has a significand of 53 bits, or the least exponent if
that is greater. -/
def exponentFor (numerator denominator : Nat) : Int :=
  let estimate := max ((numerator.log2 : Int) - denominator.log2 - 53) leastExponent
  let scaled := inUnits numerator denominator estimate
  if significandLimit ≤ scaled.1 / scaled.2 then estimate + 1 else estimate

/-- The quotient of two numbers, rounded; nothing if it is too large. -/
def ofRatio? (numerator denominator : Nat) : Option Binary64 :=
  if numerator = 0 then some zero
  else
    let exponent := exponentFor numerator denominator
    let scaled := inUnits numerator denominator exponent
    let significand := roundQuotient scaled.1 scaled.2
    let rounded : Binary64 :=
      if significand = significandLimit then ⟨leastFullSignificand, exponent + 1⟩
      else ⟨significand, exponent⟩
    if rounded.exponent ≤ greatestExponent then some rounded else none

/-- The exact value as numerator and denominator. -/
def ratio (number : Binary64) : Nat × Nat :=
  inUnits number.significand 1 (-number.exponent)

/-- The rounded product. -/
def mul? (first second : Binary64) : Option Binary64 :=
  ofRatio? (first.ratio.1 * second.ratio.1) (first.ratio.2 * second.ratio.2)

/-- The rounded quotient by a number other than zero. -/
def div? (first second : Binary64) : Option Binary64 :=
  ofRatio? (first.ratio.1 * second.ratio.2) (first.ratio.2 * second.ratio.1)

/-- A power of ten, rounded. -/
def powerOfTen? (exponent : Nat) : Option Binary64 :=
  ofRatio? (Nat.pow 10 exponent) 1

/-- The greatest power of ten that is used in one step of scaling. -/
def greatestPower : Nat := 308

/-- Divide by the greatest power of ten some number of times, and stop early at zero. -/
def divGreatestPower? (number : Binary64) : Nat → Option Binary64
  | 0 => some number
  | times + 1 =>
    if number.significand = 0 then some number
    else do
      let smaller ← number.div? (← powerOfTen? greatestPower)
      smaller.divGreatestPower? times

/-- Divide by a power of ten, in steps that are each rounded where the power is too great for one. -/
def divPowerOfTen? (number : Binary64) (exponent : Nat) : Option Binary64 := do
  let times := (exponent - 1) / greatestPower
  let smaller ← number.divGreatestPower? times
  smaller.div? (← powerOfTen? (exponent - greatestPower * times))

/-- Multiply by a power of ten; nothing if the result is too large. -/
def mulPowerOfTen? (number : Binary64) (exponent : Nat) : Option Binary64 :=
  if exponent ≤ greatestPower then do
    number.mul? (← powerOfTen? exponent)
  else if number.significand = 0 then some number
  else none

/-- The number `significand * 10 ^ exponent`. The significand, the power of ten and their product or
quotient are each rounded, so the last bit can differ from the nearest number. -/
def ofDecimal? (significand : Nat) (exponent : Int) : Option Binary64 := do
  let number ← ofRatio? significand 1
  if exponent < 0 then number.divPowerOfTen? (-exponent).toNat
  else number.mulPowerOfTen? exponent.toNat

end Binary64

end DiagnosticReplay.Decimal
