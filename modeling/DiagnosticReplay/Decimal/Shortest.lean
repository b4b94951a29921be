import DiagnosticReplay.Decimal.Binary64

/-! # Shortest decimals

The decimal text of a binary number: the fewest digits that are rounded back to the number, and of
those the nearest to it. Where the decimal point goes and how an exponent is written is set apart in
a style.
-/

namespace DiagnosticReplay.Decimal

/-- The decimal number `digits * 10 ^ exponent`. -/
structure Numeral where
  digits : Nat
  exponent : Int
deriving DecidableEq, Repr

namespace Binary64

/-- A decimal in quarters of a unit in the last place of a number, as numerator and denominator. -/
def inQuarters (number : Binary64) (numeral : Numeral) : Nat × Nat :=
  inUnits (numeral.digits * Nat.pow 10 numeral.exponent.toNat)
    (Nat.pow 10 (-numeral.exponent).toNat)
    (number.exponent - 2)

/-- The distance, in quarters of a unit, at which smaller numbers stop being rounded to a number. The
unit below a power of two is half as large. -/
def quartersBelow (number : Binary64) : Nat :=
  if number.significand = leastFullSignificand ∧ leastExponent < number.exponent then 1 else 2

/-- The decimal is rounded to the number. A decimal halfway to a neighbour goes to the number with
the even significand. -/
def isRoundedFrom (number : Binary64) (numeral : Numeral) : Bool :=
  let quarters := number.inQuarters numeral
  let least := (4 * number.significand - number.quartersBelow) * quarters.2
  let greatest := (4 * number.significand + 2) * quarters.2
  if number.significand % 2 = 0 then least ≤ quarters.1 && quarters.1 ≤ greatest
  else least < quarters.1 && quarters.1 < greatest

/-- The power of ten `10 ^ place` is not above the number. -/
def reaches (number : Binary64) (place : Int) : Bool :=
  Nat.pow 10 place.toNat * number.ratio.2 ≤ number.ratio.1 * Nat.pow 10 (-place).toNat

/-- The place of the first decimal digit of a positive number. -/
def firstPlace (number : Binary64) : Int :=
  let estimate := (((number.significand.log2 : Int) + number.exponent) * 30103).fdiv 100000
  if number.reaches (estimate + 1) then estimate + 1
  else if number.reaches estimate then estimate
  else estimate - 1

/-- The multiple of `10 ^ exponent` that is rounded to the number, if there is one. Only the two
multiples next to the number are in question, and of both the nearer is taken. -/
def nearestOnGrid? (number : Binary64) (exponent : Int) : Option Numeral :=
  let numerator := number.ratio.1 * Nat.pow 10 (-exponent).toNat
  let denominator := number.ratio.2 * Nat.pow 10 exponent.toNat
  let below : Numeral := ⟨numerator / denominator, exponent⟩
  let above : Numeral := ⟨numerator / denominator + 1, exponent⟩
  let nearest : Numeral := ⟨roundQuotient numerator denominator, exponent⟩
  match number.isRoundedFrom below, number.isRoundedFrom above with
  | true, true => some nearest
  | true, false => some below
  | false, true => some above
  | false, false => none

/-- The most digits that a shortest decimal needs. -/
def greatestDigitCount : Nat := 17

/-- The shortest decimal of a number other than zero. -/
def shortest (number : Binary64) : Numeral :=
  let place := number.firstPlace
  let grids := (List.range greatestDigitCount).map fun (further : Nat) => place - further
  match grids.findSome? number.nearestOnGrid? with
  | some numeral => numeral
  | none => ⟨0, 0⟩

end Binary64

/-- Which numbers are written without an exponent. -/
structure Style where
  /-- The least place of a first digit that is written without an exponent. -/
  leastPositional : Int
  /-- The greatest place of a first digit that is written without an exponent. -/
  greatestPositional : Int

/-- Digits with the point after the digit at place zero, where the first digit is at `place`. -/
def positional (digits : List Char) (place : Int) : List Char :=
  if place < 0 then "0.".toList ++ List.replicate (-place - 1).toNat '0' ++ digits
  else
    let whole := place.toNat + 1
    let fraction := digits.drop whole
    digits.take whole ++ List.replicate (whole - digits.length) '0' ++ ['.']
      ++ if fraction.isEmpty then ['0'] else fraction

/-- Digits with the point after the first of them, and the place of the first as an exponent. -/
def scientific (digits : List Char) (place : Int) : List Char :=
  let fraction := digits.drop 1
  digits.take 1 ++ (if fraction.isEmpty then [] else '.' :: fraction)
    ++ ['e', if place < 0 then '-' else '+'] ++ Nat.toDigits 10 place.natAbs

/-- The text of a magnitude in a style. -/
def Style.text (style : Style) (number : Binary64) : String :=
  if number.significand = 0 then "0.0"
  else
    let numeral := number.shortest
    let written := Nat.toDigits 10 numeral.digits
    let place := numeral.exponent + written.length - 1
    let digits := (written.reverse.dropWhile (· == '0')).reverse
    String.ofList <|
      if style.leastPositional ≤ place ∧ place ≤ style.greatestPositional then
        positional digits place
      else scientific digits place

end DiagnosticReplay.Decimal
