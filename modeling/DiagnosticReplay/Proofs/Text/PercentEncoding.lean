import DiagnosticReplay.Proofs.Text.Utf8
import DiagnosticReplay.Text.PercentEncoding

/-! # Percent encoding read back

A byte is written as one character or as a percent sign with two digits, and both are read back. So a
text that has no percent sign of its own is read back byte by byte, and two such texts with one
encoding are the same. Encoding brings in percent signs and digits and nothing else, and leaves a
slash as it is, so the slashes of an encoded text are those of the text.
-/

namespace DiagnosticReplay.Text.PercentEncoding

variable {text first second rest : List Char} {byte : UInt8} {character : Char}

section Bytes

/-- What is written for a byte that is not the percent sign: the character of the byte, or a percent
sign and two digits. -/
theorem encodeByte_cases (other : byte.toNat ≠ 0x25) :
    (encodeByte byte = [Char.ofNat byte.toNat] ∧ byte.toNat < 0x80 ∧ Char.ofNat byte.toNat ≠ '%') ∨
      ∃ high low, high < 16 ∧ low < 16 ∧ 16 * high + low = byte.toNat ∧ byte.toNat ≠ 0x2e ∧
        encodeByte byte = ['%', upperHexDigit high, upperHexDigit low] := by
  have bound := byte.toNat_lt
  have kept : ∀ code < 0x80, code ≠ 0x25 → Char.ofNat code ≠ '%' := by decide
  rw [encodeByte]
  split
  · rename_i encoded
    refine .inr ⟨byte.toNat / 16, byte.toNat % 16, by omega, by omega, by omega, ?_, rfl⟩
    intro dot
    obtain rfl : byte = 0x2e := UInt8.toNat_inj.mp dot
    exact absurd encoded (by decide)
  · rename_i asItIs
    simp only [mustEncode, Bool.or_eq_true, decide_eq_true_eq, UInt8.le_iff_toNat_le,
      not_or, Nat.not_le] at asItIs
    have ascii : byte.toNat < 0x80 := Nat.lt_succ_of_lt asItIs.1.2
    exact .inl ⟨rfl, ascii, kept byte.toNat ascii other⟩

end Bytes

section Decoding

theorem decode_cons (ordinary : character ≠ '%') (rest : List Char) :
    decode (character :: rest) = String.utf8EncodeChar character ++ decode rest := by
  rw [decode]
  rintro high low others rfl
  exact absurd rfl ordinary

theorem decode_escape {high low : Nat} (highBound : high < 16) (lowBound : low < 16)
    (rest : List Char) :
    decode ('%' :: upperHexDigit high :: upperHexDigit low :: rest) =
      UInt8.ofNat (16 * high + low) :: decode rest := by
  rw [decode, (hexValue?_digits high highBound).2, (hexValue?_digits low lowBound).2]

theorem decode_encodeByte_append (other : byte.toNat ≠ 0x25) (rest : List Char) :
    decode (encodeByte byte ++ rest) = byte :: decode rest := by
  rcases encodeByte_cases other with ⟨written, ascii, ordinary⟩ | ⟨high, low, one, two, sum, -, written⟩
  · rw [written, List.singleton_append, decode_cons ordinary, utf8EncodeChar_ofNat ascii,
      List.singleton_append]
  · rw [written, List.cons_append, List.cons_append, List.singleton_append,
      decode_escape one two, sum, UInt8.ofNat_toNat]

/-- Bytes without a percent sign are read back. -/
theorem decode_flatMap_encodeByte {bytes : List UInt8} (plain : ∀ byte ∈ bytes, byte.toNat ≠ 0x25) :
    decode (bytes.flatMap encodeByte) = bytes := by
  induction bytes with
  | nil => exact decode.eq_1
  | cons byte rest ih =>
    obtain ⟨other, others⟩ := List.forall_mem_cons.mp plain
    rw [List.flatMap_cons, decode_encodeByte_append other, ih others]

theorem encode_eq_flatMap_bytes (text : List Char) :
    encode text = (text.flatMap String.utf8EncodeChar).flatMap encodeByte :=
  List.flatMap_assoc.symm

/-- The bytes of a text without a percent sign hold none either. -/
theorem percent_not_mem_bytes (plain : '%' ∉ text) :
    ∀ byte ∈ text.flatMap String.utf8EncodeChar, byte.toNat ≠ 0x25 := by
  intro byte member percent
  obtain ⟨character, inText, inCharacter⟩ := List.mem_flatMap.mp member
  have code := toNat_of_mem_utf8EncodeChar inCharacter (by omega)
  have same : character = '%' := Char.toNat_inj.mp (code.symm.trans percent)
  exact plain (same ▸ inText)

/-- A text without a percent sign is read back as its bytes. -/
theorem decode_encode (plain : '%' ∉ text) :
    decode (encode text) = text.flatMap String.utf8EncodeChar := by
  rw [encode_eq_flatMap_bytes, decode_flatMap_encodeByte (percent_not_mem_bytes plain)]

theorem toByteArray_decode_encode (plain : '%' ∉ text) :
    (decode (encode text)).toByteArray = (String.ofList text).toUTF8 := by
  rw [decode_encode plain]
  rfl

/-- A text is known by its bytes. -/
theorem eq_of_bytes_eq
    (same : first.flatMap String.utf8EncodeChar = second.flatMap String.utf8EncodeChar) :
    first = second := by
  have strings : String.ofList first = String.ofList second :=
    String.toByteArray_inj.mp (congrArg List.toByteArray same)
  exact String.ofList_inj.mp strings

theorem encode_inj (plainFirst : '%' ∉ first) (plainSecond : '%' ∉ second)
    (same : encode first = encode second) : first = second := by
  apply eq_of_bytes_eq
  rw [← decode_encode plainFirst, ← decode_encode plainSecond, same]

end Decoding

section Characters

/-- The characters that encoding brings in. -/
def escapeCharacters : List Char := "%0123456789ABCDEF".toList

theorem upperHexDigit_mem_escapeCharacters :
    ∀ value < 16, upperHexDigit value ∈ escapeCharacters := by
  decide

/-- A character of an encoded text is one of the text or one that encoding brings in. -/
theorem mem_of_mem_encode (member : character ∈ encode text) :
    character ∈ text ∨ character ∈ escapeCharacters := by
  obtain ⟨source, inText, inSource⟩ := List.mem_flatMap.mp member
  obtain ⟨byte, inBytes, written⟩ := List.mem_flatMap.mp inSource
  by_cases percent : byte.toNat = 0x25
  · have code := toNat_of_mem_utf8EncodeChar inBytes (by omega)
    have same : byte = 0x25 := UInt8.toNat_inj.mp percent
    subst same
    rw [show encodeByte 0x25 = ['%'] from rfl, List.mem_singleton] at written
    exact .inr (written ▸ by decide)
  · rcases encodeByte_cases percent with ⟨asItIs, ascii, -⟩ | ⟨high, low, one, two, -, -, escape⟩
    · rw [asItIs, List.mem_singleton, toNat_of_mem_utf8EncodeChar inBytes ascii,
        Char.ofNat_toNat] at written
      exact .inl (written ▸ inText)
    · rw [escape] at written
      simp only [List.mem_cons, List.not_mem_nil, or_false] at written
      rcases written with rfl | rfl | rfl
      · exact .inr (by decide)
      · exact .inr (upperHexDigit_mem_escapeCharacters high one)
      · exact .inr (upperHexDigit_mem_escapeCharacters low two)

theorem not_mem_encode (absent : character ∉ text) (foreign : character ∉ escapeCharacters) :
    character ∉ encode text :=
  fun member => (mem_of_mem_encode member).elim absent foreign

@[simp] theorem encode_nil : encode [] = [] := rfl

@[simp] theorem encode_append (first second : List Char) :
    encode (first ++ second) = encode first ++ encode second :=
  List.flatMap_append

theorem encode_cons (character : Char) (rest : List Char) :
    encode (character :: rest) = encodeChar character ++ encode rest := rfl

@[simp] theorem encodeChar_slash : encodeChar '/' = ['/'] := by decide

theorem encodeByte_ne_nil (byte : UInt8) : encodeByte byte ≠ [] := by
  rw [encodeByte]
  split <;> exact List.cons_ne_nil _ _

theorem encodeChar_ne_nil (character : Char) : encodeChar character ≠ [] := by
  obtain ⟨byte, rest, bytes⟩ := List.exists_cons_of_ne_nil String.utf8EncodeChar_ne_nil
  rw [encodeChar, bytes, List.flatMap_cons]
  exact List.append_ne_nil_of_left_ne_nil (encodeByte_ne_nil byte) _

theorem encode_eq_nil_iff : encode text = [] ↔ text = [] := by
  cases text with
  | nil => simp
  | cons character rest => simp [encode_cons, encodeChar_ne_nil]

end Characters

end DiagnosticReplay.Text.PercentEncoding
