import DiagnosticReplay.Proofs.Text.PercentEncoding
import Mathlib.Data.List.Infix

/-! # Escapes in encoded texts

An escape is a percent sign and two digits. Encoding writes only whole escapes, so in the encoding of
a text without percent signs every percent sign has its digits.

A percent sign of the text itself is not encoded. So a text that spells an escape is encoded like the
text with the byte in the place of the escape, and the encoding does not tell the two apart.
`unescape` reads a text in that way: what encoding makes of two texts is the same exactly if they are
read as the same bytes. Texts that spell no escape are told apart, whatever percent signs they have.
-/

namespace DiagnosticReplay.Text.PercentEncoding

variable {text first second rest after : List Char} {byte : UInt8} {character high low : Char}

section Complete

/-- The digits of the escapes that encoding writes. -/
def escapeDigits : List Char := "0123456789ABCDEF".toList

/-- The text goes on with two digits. -/
def StartsWithDigits (after : List Char) : Prop :=
  ∃ high low rest, after = high :: low :: rest ∧ high ∈ escapeDigits ∧ low ∈ escapeDigits

/-- Two digits follow every percent sign of the text. -/
def EscapesComplete (text : List Char) : Prop :=
  ∀ after, '%' :: after <:+ text → StartsWithDigits after

theorem upperHexDigit_mem_escapeDigits : ∀ value < 16, upperHexDigit value ∈ escapeDigits := by
  decide

theorem escapesComplete_cons : EscapesComplete (character :: rest) ↔
    (character = '%' → StartsWithDigits rest) ∧ EscapesComplete rest := by
  simp only [EscapesComplete, List.suffix_cons_iff, List.cons.injEq]
  constructor
  · intro complete
    exact ⟨fun percent => complete rest (.inl ⟨percent.symm, rfl⟩),
      fun after later => complete after (.inr later)⟩
  · rintro ⟨here, later⟩ after (⟨percent, rfl⟩ | inRest)
    · exact here percent.symm
    · exact later after inRest

theorem escapesComplete_of_not_mem (absent : '%' ∉ text) : EscapesComplete text :=
  fun _ suffix => absurd (suffix.subset List.mem_cons_self) absent

theorem StartsWithDigits.append (starts : StartsWithDigits after) (second : List Char) :
    StartsWithDigits (after ++ second) := by
  obtain ⟨high, low, rest, rfl, isHigh, isLow⟩ := starts
  exact ⟨high, low, rest ++ second, rfl, isHigh, isLow⟩

/-- A character that is no digit is not one of the two. -/
theorem StartsWithDigits.before (starts : StartsWithDigits (after ++ character :: rest))
    (other : character ∉ escapeDigits) : StartsWithDigits after := by
  obtain ⟨high, low, tail, same, isHigh, isLow⟩ := starts
  match after with
  | [] => exact absurd ((List.cons.inj same).1 ▸ isHigh) other
  | [one] => exact absurd ((List.cons.inj (List.cons.inj same).2).1 ▸ isLow) other
  | one :: two :: after =>
    obtain ⟨rfl, others⟩ := List.cons.inj same
    obtain ⟨rfl, -⟩ := List.cons.inj others
    exact ⟨one, two, after, rfl, isHigh, isLow⟩

theorem EscapesComplete.append (one : EscapesComplete first) (two : EscapesComplete second) :
    EscapesComplete (first ++ second) := by
  induction first with
  | nil => exact two
  | cons character rest ih =>
    obtain ⟨here, others⟩ := escapesComplete_cons.mp one
    exact escapesComplete_cons.mpr ⟨fun percent => (here percent).append second, ih others⟩

/-- A cut before a character that is no digit goes through no escape. -/
theorem EscapesComplete.before (complete : EscapesComplete (first ++ character :: rest))
    (other : character ∉ escapeDigits) : EscapesComplete first := by
  induction first with
  | nil => exact escapesComplete_of_not_mem List.not_mem_nil
  | cons head tail ih =>
    obtain ⟨here, others⟩ := escapesComplete_cons.mp complete
    exact escapesComplete_cons.mpr ⟨fun percent => (here percent).before other, ih others⟩

theorem EscapesComplete.suffix (complete : EscapesComplete (first ++ second)) :
    EscapesComplete second :=
  fun after suffix => complete after (suffix.trans (List.suffix_append first second))

theorem escapesComplete_encodeByte (other : byte.toNat ≠ 0x25) :
    EscapesComplete (encodeByte byte) := by
  rcases encodeByte_cases other with ⟨written, -, ordinary⟩ | ⟨high, low, one, two, -, -, written⟩
  · rw [written]
    exact escapesComplete_of_not_mem (by simpa using ordinary.symm)
  · have digits : '%' ∉ [upperHexDigit high, upperHexDigit low] := by
      have noDigit : ∀ value < 16, '%' ≠ upperHexDigit value := by decide
      simp [noDigit high one, noDigit low two]
    rw [written]
    exact escapesComplete_cons.mpr ⟨fun _ => ⟨_, _, [], rfl, upperHexDigit_mem_escapeDigits high one,
      upperHexDigit_mem_escapeDigits low two⟩, escapesComplete_of_not_mem digits⟩

/-- Every escape in the encoding of a text without percent signs is a whole one. -/
theorem escapesComplete_encode (plain : '%' ∉ text) : EscapesComplete (encode text) := by
  rw [encode_eq_flatMap_bytes]
  have others := percent_not_mem_bytes plain
  generalize text.flatMap String.utf8EncodeChar = bytes at others
  induction bytes with
  | nil => exact escapesComplete_of_not_mem List.not_mem_nil
  | cons byte bytes ih =>
    obtain ⟨other, rest⟩ := List.forall_mem_cons.mp others
    exact (escapesComplete_encodeByte other).append (ih rest)

end Complete

section Characters

/-- A character stands in an encoded text as it is, or its encoding starts with a percent sign. -/
theorem encodeChar_cases (character : Char) :
    encodeChar character = [character] ∨ ∃ tail, encodeChar character = '%' :: tail := by
  obtain ⟨byte, bytes, same⟩ := List.exists_cons_of_ne_nil
    (@String.utf8EncodeChar_ne_nil character)
  have written : encodeChar character = encodeByte byte ++ bytes.flatMap encodeByte := by
    rw [encodeChar, same, List.flatMap_cons]
  by_cases escaped : mustEncode byte
  · exact .inr ⟨_, by rw [written, encodeByte, if_pos escaped, List.cons_append]⟩
  · have low : byte.toNat < 0x7f := by
      simp only [mustEncode, Bool.or_eq_true, decide_eq_true_eq, UInt8.le_iff_toNat_le, not_or,
        Nat.not_le] at escaped
      exact escaped.1.2
    have code : byte.toNat = character.toNat :=
      toNat_of_mem_utf8EncodeChar (same ▸ List.mem_cons_self) (by omega)
    have whole : String.utf8EncodeChar character = [UInt8.ofNat character.toNat] :=
      utf8EncodeChar_of_ascii (by omega)
    rw [same, List.cons.injEq] at whole
    left
    rw [written, whole.2, List.flatMap_nil, List.append_nil, encodeByte, if_neg escaped, code,
      Char.ofNat_toNat]

/-- What an encoded text starts with, if it is no percent sign, the text starts with. -/
theorem encode_eq_cons_iff (ordinary : character ≠ '%') : encode text = character :: rest ↔
    ∃ tail, text = character :: tail ∧ encodeChar character = [character] ∧ encode tail = rest := by
  constructor
  · intro same
    cases text with
    | nil => exact absurd same (by simp)
    | cons head tail =>
      rw [encode_cons] at same
      rcases encodeChar_cases head with asItIs | ⟨escape, written⟩
      · rw [asItIs, List.singleton_append, List.cons.injEq] at same
        obtain ⟨rfl, following⟩ := same
        exact ⟨tail, rfl, asItIs, following⟩
      · rw [written, List.cons_append, List.cons.injEq] at same
        exact absurd same.1.symm ordinary
  · rintro ⟨tail, rfl, asItIs, rfl⟩
    rw [encode_cons, asItIs, List.singleton_append]

@[simp] theorem encodeChar_percent : encodeChar '%' = ['%'] := by decide

theorem encodeChar_upperHexDigit : ∀ value < 16,
    encodeChar (upperHexDigit value) = [upperHexDigit value] ∧ upperHexDigit value ≠ '%' := by
  decide

end Characters

section Unescape

/-- The byte that encoding writes as a percent sign and the two digits, if there is one. -/
def escapedByte? (high low : Char) : Option UInt8 :=
  match hexValue? high, hexValue? low with
  | some upper, some lower =>
    let byte := UInt8.ofNat (16 * upper + lower)
    if encodeByte byte = ['%', high, low] then some byte else none
  | _, _ => none

/-- The byte of the escape that a text starts with, if it starts with one. -/
def leadingEscape? : List Char → Option UInt8
  | '%' :: high :: low :: _ => escapedByte? high low
  | _ => none

/-- The bytes of a text in which every escape that encoding writes stands for its byte. -/
def unescape : List Char → List UInt8
  | [] => []
  | character :: rest =>
    match leadingEscape? (character :: rest) with
    | some byte => byte :: unescape (rest.drop 2)
    | none => String.utf8EncodeChar character ++ unescape rest
termination_by text => text.length
decreasing_by
  all_goals simp only [List.length_cons, List.length_drop]
  · omega
  · omega

/-- The text holds nothing that encoding writes for a byte that it escapes. -/
def SpellsNoEscape (text : List Char) : Prop :=
  ∀ byte, mustEncode byte = true → ¬encodeByte byte <:+: text

instance (text : List Char) : Decidable (SpellsNoEscape text) :=
  decidable_of_iff (∀ code : Fin 256, mustEncode (.ofNat code) = true →
      ¬encodeByte (.ofNat code) <:+: text)
    ⟨fun all byte => by simpa using all ⟨byte.toNat, byte.toNat_lt⟩, fun all _ => all _⟩

/-- What is written for a byte that is escaped. -/
theorem encodeByte_of_mustEncode (escaped : mustEncode byte = true) :
    ∃ high low, high < 16 ∧ low < 16 ∧ 16 * high + low = byte.toNat ∧
      encodeByte byte = ['%', upperHexDigit high, upperHexDigit low] := by
  have bound := byte.toNat_lt
  exact ⟨byte.toNat / 16, byte.toNat % 16, by omega, by omega, by omega, if_pos escaped⟩

theorem mustEncode_of_encodeByte (written : encodeByte byte = ['%', high, low]) :
    mustEncode byte = true := by
  cases escaped : mustEncode byte with
  | true => rfl
  | false => simp [encodeByte, escaped] at written

theorem escapedByte?_eq_some_iff :
    escapedByte? high low = some byte ↔ encodeByte byte = ['%', high, low] := by
  rw [escapedByte?]
  constructor
  · intro found
    split at found
    · dsimp only at found
      split at found
      · rename_i written
        exact Option.some.inj found ▸ written
      · exact absurd found (by simp)
    · exact absurd found (by simp)
  · intro written
    obtain ⟨upper, lower, one, two, sum, digits⟩ :=
      encodeByte_of_mustEncode (mustEncode_of_encodeByte written)
    rw [digits, List.cons.injEq, List.cons.injEq, List.cons.injEq] at written
    obtain ⟨-, rfl, rfl, -⟩ := written
    simp only [(hexValue?_digits upper one).2, (hexValue?_digits lower two).2, sum,
      UInt8.ofNat_toNat, digits, if_true]

theorem leadingEscape?_eq_some_iff : leadingEscape? text = some byte ↔
    mustEncode byte = true ∧ encodeByte byte <+: text := by
  constructor
  · intro found
    unfold leadingEscape? at found
    split at found
    · rename_i high low rest
      have written := escapedByte?_eq_some_iff.mp found
      exact ⟨mustEncode_of_encodeByte written, rest, by rw [written]; rfl⟩
    · exact absurd found (by simp)
  · rintro ⟨escaped, rest, rfl⟩
    obtain ⟨high, low, -, -, -, written⟩ := encodeByte_of_mustEncode escaped
    rw [written]
    exact escapedByte?_eq_some_iff.mpr written

theorem unescape_encodeByte_append (escaped : mustEncode byte = true) (rest : List Char) :
    unescape (encodeByte byte ++ rest) = byte :: unescape rest := by
  have found : leadingEscape? (encodeByte byte ++ rest) = some byte :=
    leadingEscape?_eq_some_iff.mpr ⟨escaped, List.prefix_append _ _⟩
  obtain ⟨high, low, -, -, -, written⟩ := encodeByte_of_mustEncode escaped
  rw [written, List.cons_append] at found ⊢
  rw [unescape, found]
  rfl

theorem unescape_cons (none : leadingEscape? (character :: rest) = none) :
    unescape (character :: rest) = String.utf8EncodeChar character ++ unescape rest := by
  rw [unescape, none]

theorem leadingEscape?_of_ne_percent (ordinary : character ≠ '%') :
    leadingEscape? (character :: rest) = none := by
  unfold leadingEscape?
  split
  · rename_i same
    exact absurd (List.cons.inj same).1 ordinary
  · rfl

/-- Bytes other than the percent sign are read back, whether they were escaped or not. -/
theorem unescape_flatMap_encodeByte_append {bytes : List UInt8}
    (others : ∀ byte ∈ bytes, byte.toNat ≠ 0x25) (rest : List Char) :
    unescape (bytes.flatMap encodeByte ++ rest) = bytes ++ unescape rest := by
  induction bytes with
  | nil => rfl
  | cons byte bytes ih =>
    obtain ⟨other, following⟩ := List.forall_mem_cons.mp others
    rw [List.flatMap_cons, List.append_assoc, List.cons_append, ← ih following]
    by_cases escaped : mustEncode byte = true
    · exact unescape_encodeByte_append escaped _
    · have written : encodeByte byte = [Char.ofNat byte.toNat] := if_neg escaped
      rcases encodeByte_cases other with ⟨-, ascii, ordinary⟩ | ⟨_, _, -, -, -, -, escape⟩
      · rw [written, List.singleton_append, unescape_cons (leadingEscape?_of_ne_percent ordinary),
          utf8EncodeChar_ofNat ascii, List.singleton_append]
      · exact absurd (written.symm.trans escape) (by simp)

/-- After a percent sign of the text an escape is spelled by the text or not at all. -/
theorem leadingEscape?_percent_encode (text : List Char) :
    leadingEscape? ('%' :: encode text) = leadingEscape? ('%' :: text) := by
  apply Option.ext
  intro byte
  rw [leadingEscape?_eq_some_iff, leadingEscape?_eq_some_iff]
  refine and_congr_right fun escaped => ?_
  obtain ⟨high, low, one, two, -, written⟩ := encodeByte_of_mustEncode escaped
  obtain ⟨highAsItIs, highOrdinary⟩ := encodeChar_upperHexDigit high one
  obtain ⟨lowAsItIs, lowOrdinary⟩ := encodeChar_upperHexDigit low two
  rw [written, List.cons_prefix_cons, List.cons_prefix_cons]
  refine and_congr_right fun _ => ?_
  constructor
  · rintro ⟨rest, same⟩
    obtain ⟨tail, rfl, -, following⟩ := (encode_eq_cons_iff highOrdinary).mp same.symm
    obtain ⟨others, rfl, -⟩ := (encode_eq_cons_iff lowOrdinary).mp following
    exact ⟨others, rfl⟩
  · rintro ⟨rest, rfl⟩
    refine ⟨encode rest, ?_⟩
    simp [encode_cons, highAsItIs, lowAsItIs]

/-- A text that starts with an escape is encoded with the escape as it is. -/
theorem encode_encodeByte_append (escaped : mustEncode byte = true) (rest : List Char) :
    encode (encodeByte byte ++ rest) = encodeByte byte ++ encode rest := by
  obtain ⟨high, low, one, two, -, written⟩ := encodeByte_of_mustEncode escaped
  simp [written, encode_cons, (encodeChar_upperHexDigit high one).1,
    (encodeChar_upperHexDigit low two).1]

/-- The escape in front of a text, and what the reading goes on with. -/
theorem eq_encodeByte_append (found : leadingEscape? (character :: rest) = some byte) :
    mustEncode byte = true ∧ character :: rest = encodeByte byte ++ rest.drop 2 := by
  obtain ⟨escaped, tail, same⟩ := leadingEscape?_eq_some_iff.mp found
  obtain ⟨high, low, -, -, -, written⟩ := encodeByte_of_mustEncode escaped
  rw [written, List.cons_append, List.cons.injEq] at same
  obtain ⟨rfl, rfl⟩ := same
  exact ⟨escaped, by rw [written]; rfl⟩

/-- Encoding the bytes that a text is read as gives the encoding of the text. -/
theorem flatMap_encodeByte_unescape (text : List Char) :
    (unescape text).flatMap encodeByte = encode text := by
  fun_induction unescape text with
  | case1 => rfl
  | case2 character rest byte found ih =>
    obtain ⟨escaped, same⟩ := eq_encodeByte_append found
    rw [List.flatMap_cons, ih, same, encode_encodeByte_append escaped]
  | case3 character rest none ih => rw [List.flatMap_append, ih, encode_cons, encodeChar]

/-- An encoded text is read as the text is. -/
theorem unescape_encode (text : List Char) : unescape (encode text) = unescape text := by
  fun_induction unescape text with
  | case1 => exact unescape.eq_1
  | case2 character rest byte found ih =>
    obtain ⟨escaped, same⟩ := eq_encodeByte_append found
    rw [same, encode_encodeByte_append escaped, unescape_encodeByte_append escaped, ih]
  | case3 character rest none ih =>
    by_cases percent : character = '%'
    · subst percent
      rw [← leadingEscape?_percent_encode] at none
      rw [encode_cons, encodeChar_percent, List.singleton_append, unescape_cons none, ih]
    · have others : ∀ byte ∈ String.utf8EncodeChar character, byte.toNat ≠ 0x25 := by
        have plain : '%' ∉ [character] := by simpa using Ne.symm percent
        simpa using percent_not_mem_bytes plain
      rw [encode_cons, encodeChar, unescape_flatMap_encodeByte_append others, ih]

/-- Two texts are encoded alike exactly if they are read as the same bytes. -/
theorem encode_eq_encode_iff : encode first = encode second ↔ unescape first = unescape second := by
  constructor
  · intro same
    rw [← unescape_encode first, same, unescape_encode]
  · intro same
    rw [← flatMap_encodeByte_unescape first, same, flatMap_encodeByte_unescape]

/-- Without escapes every character of a text stands for itself. -/
theorem unescape_of_spellsNoEscape (spellsNone : SpellsNoEscape text) :
    unescape text = text.flatMap String.utf8EncodeChar := by
  fun_induction unescape text with
  | case1 => rfl
  | case2 character rest byte found ih =>
    obtain ⟨escaped, front⟩ := leadingEscape?_eq_some_iff.mp found
    exact absurd front.isInfix (spellsNone byte escaped)
  | case3 character rest none ih =>
    have others : SpellsNoEscape rest := fun byte escaped inside =>
      spellsNone byte escaped (inside.trans (List.suffix_cons character rest).isInfix)
    rw [ih others, List.flatMap_cons]

/-- Texts that spell no escape are told apart by their encodings. -/
theorem encode_inj_of_spellsNoEscape (one : SpellsNoEscape first) (two : SpellsNoEscape second)
    (same : encode first = encode second) : first = second := by
  apply eq_of_bytes_eq
  rw [← unescape_of_spellsNoEscape one, ← unescape_of_spellsNoEscape two,
    encode_eq_encode_iff.mp same]

end Unescape

end DiagnosticReplay.Text.PercentEncoding
