import DiagnosticReplay.Decimal.Shortest
import DiagnosticReplay.Json.StringLiteral

/-! # Number literals

A number literal is scanned without being judged: it keeps its digits. Only a reader that uses the
number asks what it stands for, so a literal that is skipped may be too large for any number. An
integer of up to 64 bits is kept exactly; any other number is taken as floating point.
-/

namespace DiagnosticReplay.Json

/-- The exponent of a number literal. -/
structure ExponentLiteral where
  negative : Bool
  digits : List Char
deriving DecidableEq, Repr

/-- A number literal. Every part that is there has a digit, and a whole part of more than one digit
does not start with zero. -/
structure NumberLiteral where
  negative : Bool
  whole : List Char
  fraction : Option (List Char)
  exponent : Option ExponentLiteral
deriving DecidableEq, Repr

/-- What a number literal stands for. A number that is not an integer of 64 bits is a floating point
number, whose magnitude comes with a sign of its own. -/
inductive NumberValue where
  | integer (value : Int)
  | floating (negative : Bool) (magnitude : Decimal.Binary64)
deriving DecidableEq, Repr

namespace NumberLiteral

/-- The digits at the start of a text, of which there must be one, and what follows them. -/
def scanDigits (text : List Char) : Except Fault (List Char × List Char) :=
  match text.takeWhile Char.isDigit with
  | [] => .error (if text.isEmpty then .truncated else .malformed)
  | digits => .ok (digits, text.dropWhile Char.isDigit)

/-- The whole part at the start of a text, and what follows it. -/
def scanWhole (text : List Char) : Except Fault (List Char × List Char) :=
  match scanDigits text with
  | .ok ('0' :: _ :: _, _) => .error .malformed
  | scanned => scanned

/-- The fraction at the start of a text, if there is one, and what follows it. -/
def scanFraction (text : List Char) : Except Fault (Option (List Char) × List Char) :=
  match text with
  | '.' :: rest => do
    let digits ← scanDigits rest
    return (some digits.1, digits.2)
  | _ => .ok (none, text)

/-- A sign at the start of a text, and what follows it. -/
def scanSign : List Char → Bool × List Char
  | '-' :: rest => (true, rest)
  | '+' :: rest => (false, rest)
  | text => (false, text)

/-- The exponent at the start of a text, if there is one, and what follows it. -/
def scanExponent (text : List Char) : Except Fault (Option ExponentLiteral × List Char) :=
  match text with
  | [] => .ok (none, [])
  | mark :: rest =>
    if mark = 'e' ∨ mark = 'E' then do
      let sign := scanSign rest
      let digits ← scanDigits sign.2
      return (some ⟨sign.1, digits.1⟩, digits.2)
    else .ok (none, text)

/-- Scan a number literal without its sign, and give what follows it. -/
def scanUnsigned (negative : Bool) (text : List Char) :
    Except Fault (NumberLiteral × List Char) := do
  let whole ← scanWhole text
  let fraction ← scanFraction whole.2
  let exponent ← scanExponent fraction.2
  return (⟨negative, whole.1, fraction.1, exponent.1⟩, exponent.2)

theorem length_of_scanDigits {text digits rest : List Char}
    (scanned : scanDigits text = .ok (digits, rest)) : rest.length < text.length := by
  unfold scanDigits at scanned
  split at scanned
  · simp at scanned
  · rename_i nonempty
    simp only [Except.ok.injEq, Prod.mk.injEq] at scanned
    have parts := congrArg List.length
      (List.takeWhile_append_dropWhile (p := Char.isDigit) (l := text))
    have positive : 0 < (text.takeWhile Char.isDigit).length :=
      List.length_pos_iff.mpr (by simpa using nonempty)
    simp only [List.length_append] at parts
    rw [← scanned.2]
    omega

theorem length_of_scanWhole {text digits rest : List Char}
    (scanned : scanWhole text = .ok (digits, rest)) : rest.length < text.length := by
  unfold scanWhole at scanned
  split at scanned
  · simp at scanned
  · exact length_of_scanDigits scanned

theorem length_of_scanFraction {text rest : List Char} {fraction : Option (List Char)}
    (scanned : scanFraction text = .ok (fraction, rest)) : rest.length ≤ text.length := by
  unfold scanFraction at scanned
  split at scanned
  · rename_i tail
    cases found : scanDigits tail with
    | error fault => simp [found, bind, Except.bind] at scanned
    | ok pair =>
      have shorter := length_of_scanDigits found
      simp only [found, bind, Except.bind, pure, Except.pure, Except.ok.injEq,
        Prod.mk.injEq] at scanned
      simp only [List.length_cons]
      rw [← scanned.2]
      omega
  · simp only [Except.ok.injEq, Prod.mk.injEq] at scanned
    exact Nat.le_of_eq (congrArg List.length scanned.2.symm)

theorem length_scanSign_le (text : List Char) : (scanSign text).2.length ≤ text.length := by
  unfold scanSign
  split <;> simp

theorem length_of_scanExponent {text rest : List Char} {exponent : Option ExponentLiteral}
    (scanned : scanExponent text = .ok (exponent, rest)) : rest.length ≤ text.length := by
  unfold scanExponent at scanned
  split at scanned
  · simp only [Except.ok.injEq, Prod.mk.injEq] at scanned
    exact Nat.le_of_eq (congrArg List.length scanned.2.symm)
  · rename_i mark tail
    split at scanned
    · cases found : scanDigits (scanSign tail).2 with
      | error fault => simp [found, bind, Except.bind] at scanned
      | ok pair =>
        have shorter := length_of_scanDigits found
        have signed := length_scanSign_le tail
        simp only [found, bind, Except.bind, pure, Except.pure, Except.ok.injEq,
          Prod.mk.injEq] at scanned
        simp only [List.length_cons]
        rw [← scanned.2]
        omega
    · simp only [Except.ok.injEq, Prod.mk.injEq] at scanned
      exact Nat.le_of_eq (congrArg List.length scanned.2.symm)

/-- A number takes at least one character. -/
theorem length_of_scanUnsigned {negative : Bool} {text rest : List Char} {literal : NumberLiteral}
    (scanned : scanUnsigned negative text = .ok (literal, rest)) : rest.length < text.length := by
  unfold scanUnsigned at scanned
  cases whole : scanWhole text with
  | error fault => simp [whole, bind, Except.bind] at scanned
  | ok first =>
    cases fraction : scanFraction first.2 with
    | error fault => simp [whole, fraction, bind, Except.bind] at scanned
    | ok second =>
      cases exponent : scanExponent second.2 with
      | error fault => simp [whole, fraction, exponent, bind, Except.bind] at scanned
      | ok third =>
        have one := length_of_scanWhole whole
        have two := length_of_scanFraction fraction
        have three := length_of_scanExponent exponent
        simp only [whole, fraction, exponent, bind, Except.bind, pure, Except.pure,
          Except.ok.injEq, Prod.mk.injEq] at scanned
        rw [← scanned.2]
        omega

/-- The value of a decimal digit. -/
def digitValue (digit : Char) : Nat :=
  digit.toNat - 48

/-- The number of values that a significand of 64 bits can have, `2 ^ 64`. -/
def significandBound : Nat := 0x10000000000000000

/-- The magnitude of the least integer of 64 bits, `2 ^ 63`. -/
def greatestNegated : Nat := 0x8000000000000000

/-- The number that whole digits stand for, with the count of the digits that it has no room for.
Once a digit does not fit, no later digit is taken. -/
def gatherWhole (digits : List Char) : Nat × Nat :=
  digits.foldl
    (fun gathered digit =>
      let next := gathered.1 * 10 + digitValue digit
      if gathered.2 = 0 ∧ next < significandBound then (next, 0)
      else (gathered.1, gathered.2 + 1))
    (0, 0)

/-- A significand with fraction digits put after it as long as they fit, and their count. -/
def gatherFraction (significand : Nat) : List Char → Nat × Nat
  | [] => (significand, 0)
  | digit :: rest =>
    let next := significand * 10 + digitValue digit
    if next < significandBound then
      let gathered := gatherFraction next rest
      (gathered.1, gathered.2 + 1)
    else (significand, 0)

/-- The number that an exponent stands for. -/
def exponentValue (exponent : ExponentLiteral) : Int :=
  let value : Nat := exponent.digits.foldl (fun value digit => value * 10 + digitValue digit) 0
  if exponent.negative then -value else value

/-- The floating point value; nothing if it is too large. -/
def floating? (literal : NumberLiteral) : Option NumberValue :=
  let whole := gatherWhole literal.whole
  let gathered := gatherFraction whole.1 (literal.fraction.getD [])
  let exponent : Int := (literal.exponent.map exponentValue).getD 0
  (Decimal.Binary64.ofDecimal? gathered.1 (whole.2 - gathered.2 + exponent)).map
    (.floating literal.negative)

/-- What the literal stands for; nothing if it is too large for a floating point number. A literal
without fraction and exponent is an integer if 64 bits hold it, and minus zero is not. -/
def value? (literal : NumberLiteral) : Option NumberValue :=
  if literal.fraction.isNone ∧ literal.exponent.isNone then
    let whole := gatherWhole literal.whole
    if whole.2 ≠ 0 then literal.floating?
    else if literal.negative then
      if 0 < whole.1 ∧ whole.1 ≤ greatestNegated then some (.integer (-whole.1))
      else literal.floating?
    else some (.integer whole.1)
  else literal.floating?

/-- Numbers in messages: without an exponent from `1e-5` up to below `1e16`. -/
def messageStyle : Decimal.Style where
  leastPositional := -5
  greatestPositional := 15

end NumberLiteral

end DiagnosticReplay.Json
