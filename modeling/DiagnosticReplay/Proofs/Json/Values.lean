import DiagnosticReplay.Proofs.Json.NumberLiteral
import DiagnosticReplay.Proofs.Json.StringLiteral

/-! # What literals stand for

A literal that was written says what it stands for by its parts alone: a text is decoded from a
literal exactly if the literal denotes it, and a number is an integer that is not negative exactly if
it is the numeral of that integer, without sign, fraction, exponent, or leading zeros.
-/

namespace DiagnosticReplay.Json

namespace StringLiteral

/-- Every escaped unit has sixteen bits. -/
def HasUnits (parts : List StringPart) : Prop :=
  ∀ value, .unit value ∈ parts → value < 0x10000

theorem SpellsPart.lt_of_unit {value : Nat} {text : List Char}
    (spelled : SpellsPart (.unit value) text) : value < 0x10000 := by
  cases spelled with
  | unit first second third fourth =>
    have := first.small
    have := second.small
    have := third.small
    have := fourth.small
    omega

theorem SpellsParts.hasUnits {parts : List StringPart} {text : List Char}
    (spelled : SpellsParts parts text) : HasUnits parts := by
  induction spelled with
  | nil => exact fun _ member => absurd member List.not_mem_nil
  | cons first _ ih =>
    intro value member
    rcases List.mem_cons.mp member with rfl | later
    · exact first.lt_of_unit
    · exact ih value later

theorem HasUnits.tail {part : StringPart} {parts : List StringPart}
    (units : HasUnits (part :: parts)) : HasUnits parts :=
  fun value member => units value (List.mem_cons_of_mem _ member)

theorem toNat_ofNat {value : Nat} (valid : value.isValidChar) : (Char.ofNat value).toNat = value := by
  rw [Char.ofNat, dif_pos valid]
  rfl

theorem PartsDenote.consUnit {value : Nat} {parts : List StringPart} {text : List Char}
    (small : value < 0x10000) (notTrailing : ¬isTrailing value = true)
    (notLeading : ¬isLeading value = true) (denoted : PartsDenote parts text) :
    PartsDenote (.unit value :: parts) (Char.ofNat value :: text) := by
  have valid : value.isValidChar := by
    simp only [isTrailing, isLeading, Bool.and_eq_true, decide_eq_true_eq] at notTrailing notLeading
    simp only [Nat.isValidChar]
    omega
  have same : (Char.ofNat value).toNat = value := toNat_ofNat valid
  rw [← same] at small
  have unit := denoted.unit small
  rwa [same] at unit

theorem PartsDenote.consPair {leading trailing : Nat} {parts : List StringPart} {text : List Char}
    (first : isLeading leading = true) (second : isTrailing trailing = true)
    (denoted : PartsDenote parts text) :
    PartsDenote (.unit leading :: .unit trailing :: parts) (pairValue leading trailing :: text) := by
  simp only [isTrailing, isLeading, Bool.and_eq_true, decide_eq_true_eq] at first second
  have valid : (0x10000 + (leading - 0xd800) * 0x400 + (trailing - 0xdc00)).isValidChar := by
    simp only [Nat.isValidChar]
    omega
  have same : (pairValue leading trailing).toNat =
      0x10000 + (leading - 0xd800) * 0x400 + (trailing - 0xdc00) := by
    rw [pairValue, toNat_ofNat valid]
  have pair : PartsDenote _ (pairValue leading trailing :: text) := denoted.pair (by omega)
  rw [same] at pair
  have high : 0xd800 + (0x10000 + (leading - 0xd800) * 0x400 + (trailing - 0xdc00) - 0x10000) / 0x400 =
      leading := by omega
  have low : 0xdc00 + (0x10000 + (leading - 0xd800) * 0x400 + (trailing - 0xdc00) - 0x10000) % 0x400 =
      trailing := by omega
  rwa [high, low] at pair

/-- Parts that are decoded come to their end, and stand for what they are decoded to. -/
theorem partsDenote_of_decodeParts {ending : Ending} {parts : List StringPart} {text : List Char}
    (decoded : decodeParts ending parts = .ok text) :
    ending = .closed ∧ (HasUnits parts → PartsDenote parts text) := by
  fun_induction decodeParts ending parts generalizing text with
  | case1 closed =>
    cases decoded
    exact ⟨closed, fun _ => .nil⟩
  | case3 value rest ih =>
    obtain ⟨following, isFollowing, same⟩ := Result.bind_eq_ok_iff.mp decoded
    cases same
    exact (ih isFollowing).imp_right fun denoted units => .character (denoted units.tail)
  | case5 leading trailing rest _ first second ih =>
    obtain ⟨following, isFollowing, same⟩ := Result.bind_eq_ok_iff.mp decoded
    cases same
    exact (ih isFollowing).imp_right fun denoted units =>
      .consPair first second (denoted units.tail.tail)
  | case7 value trailing rest notTrailing notLeading ih =>
    obtain ⟨following, isFollowing, same⟩ := Result.bind_eq_ok_iff.mp decoded
    cases same
    exact (ih isFollowing).imp_right fun denoted units =>
      .consUnit (units value List.mem_cons_self) notTrailing notLeading (denoted units.tail)
  | case11 value rest _ notTrailing notLeading ih =>
    obtain ⟨following, isFollowing, same⟩ := Result.bind_eq_ok_iff.mp decoded
    cases same
    exact (ih isFollowing).imp_right fun denoted units =>
      .consUnit (units value List.mem_cons_self) notTrailing notLeading (denoted units.tail)
  -- the other parts cannot be decoded
  | _ => cases decoded

theorem closed_of_decode {literal : StringLiteral} {text : String}
    (decoded : literal.decode = .ok text) : literal.ending = .closed := by
  obtain ⟨characters, isDecoded, -⟩ := Result.bind_eq_ok_iff.mp decoded
  exact (partsDenote_of_decodeParts isDecoded).1

/-- A literal that was written is decoded as the text that it stands for, and as nothing else. -/
theorem decode_eq_ok_iff {literal : StringLiteral} (written : ∃ body, literal.Spells body)
    {text : String} : literal.decode = .ok text ↔ literal.Denotes text := by
  refine ⟨fun decoded => ?_, Denotes.decode⟩
  obtain ⟨body, spelled⟩ := written
  cases spelled with
  | closed parts =>
    obtain ⟨characters, isDecoded, same⟩ := Result.bind_eq_ok_iff.mp decoded
    cases same
    refine .closed ?_
    rw [String.toList_ofList]
    exact (partsDenote_of_decodeParts isDecoded).2 parts.hasUnits

end StringLiteral

namespace NumberLiteral

theorem digitChar_digitValue {digit : Char} (isDigit : digit.isDigit = true) :
    (digit.toNat - '0'.toNat).digitChar = digit ∧ digit.toNat - '0'.toNat < 10 := by
  have bounds : 48 ≤ digit.toNat ∧ digit.toNat ≤ 57 := Char.isDigit_iff_toNat.mp isDigit
  have small : digit.toNat - 48 < 10 := by omega
  have each : ∀ value < 10, value.digitChar = Char.ofNat (48 + value) := by decide
  refine ⟨(each _ small).trans ?_, small⟩
  rw [Nat.add_sub_cancel' bounds.1, Char.ofNat_toNat]

/-- Digits after a number that is not zero are the last digits of the number that they make. -/
theorem toDigits_ofDigitChars {digits : List Char} (all : ∀ digit ∈ digits, digit.isDigit = true)
    {start : Nat} (positive : 0 < start) :
    Nat.toDigits 10 (Nat.ofDigitChars 10 digits start) = Nat.toDigits 10 start ++ digits := by
  induction digits generalizing start with
  | nil => rw [Nat.ofDigitChars_nil, List.append_nil]
  | cons digit digits ih =>
    obtain ⟨isDigit, others⟩ := List.forall_mem_cons.mp all
    obtain ⟨same, small⟩ := digitChar_digitValue isDigit
    rw [Nat.ofDigitChars_cons, ih others (by omega), Nat.toDigits_of_base_le (by decide) (by omega),
      Nat.mul_add_div (by decide), Nat.div_eq_of_lt small, Nat.mul_add_mod, Nat.mod_eq_of_lt small, same,
      Nat.add_zero, List.append_assoc, List.singleton_append]

/-- The digits of a whole part are those of the number that they denote. -/
theorem Whole.toDigits_ofDigitChars {digits : List Char} (whole : Whole digits) :
    Nat.toDigits 10 (Nat.ofDigitChars 10 digits 0) = digits := by
  obtain ⟨⟨nonempty, all⟩, noLeadingZero⟩ := whole
  cases digits with
  | nil => exact absurd rfl nonempty
  | cons digit digits =>
    obtain ⟨isDigit, others⟩ := List.forall_mem_cons.mp all
    obtain ⟨same, small⟩ := digitChar_digitValue isDigit
    rw [Nat.ofDigitChars_cons, Nat.mul_zero, Nat.zero_add]
    by_cases zero : digit.toNat - '0'.toNat = 0
    · rw [zero] at same
      obtain ⟨rfl, rfl⟩ := List.cons.inj (noLeadingZero (congrArg some same.symm))
      rfl
    · rw [NumberLiteral.toDigits_ofDigitChars others (Nat.pos_of_ne_zero zero), Nat.toDigits_of_lt_base small, same,
        List.singleton_append]

theorem floating?_ne_integer {literal : NumberLiteral} {value : Int} :
    literal.floating? ≠ some (.integer value) := by
  simp [floating?]

/-- A number stands for a natural number only as its numeral. -/
theorem eq_ofNat_of_value? {literal : NumberLiteral} (written : ∃ text, literal.Spells text)
    {value : Nat} (stands : literal.value? = some (.integer value)) : literal = ofNat value := by
  obtain ⟨negative, whole, fraction, exponent⟩ := literal
  have isWhole : Whole whole := by
    obtain ⟨text, spelled⟩ := written
    cases spelled with
    | plain _ unsigned => cases unsigned; assumption
    | negated _ unsigned => cases unsigned; assumption
  rw [value?] at stands
  split at stands
  · rename_i plain
    simp only [Option.isNone_iff_eq_none] at plain
    obtain ⟨rfl, rfl⟩ := plain
    dsimp only at stands
    split at stands
    · exact absurd stands floating?_ne_integer
    · rename_i taken
      split at stands
      · split at stands
        · have same := NumberValue.integer.inj (Option.some.inj stands)
          omega
        · exact absurd stands floating?_ne_integer
      · rename_i notNegative
        have denoted := gatherWhole_of_all (Decidable.not_not.mp taken)
        have same : (gatherWhole whole).1 = value :=
          Int.ofNat.inj (NumberValue.integer.inj (Option.some.inj stands))
        rw [denoted] at same
        rw [ofNat, ← same, isWhole.toDigits_ofDigitChars, Bool.eq_false_iff.mpr notNegative]
  · exact absurd stands floating?_ne_integer

end NumberLiteral

end DiagnosticReplay.Json
