/-! # Bytes of characters

A character of ASCII is written as one byte, its code, and any other as bytes of the upper half. So a
byte of the lower half is always the whole of a character, wherever in a text it stands.
-/

namespace DiagnosticReplay.Text

variable {byte : UInt8} {character : Char}

theorem utf8EncodeChar_of_ascii (ascii : character.toNat < 0x80) :
    String.utf8EncodeChar character = [UInt8.ofNat character.toNat] := by
  rw [String.utf8EncodeChar]
  exact if_pos (Nat.le_of_lt_succ ascii)

/-- The character of an ASCII byte has this byte alone. -/
theorem utf8EncodeChar_ofNat (ascii : byte.toNat < 0x80) :
    String.utf8EncodeChar (Char.ofNat byte.toNat) = [byte] := by
  have codes : ∀ code < 0x80, (Char.ofNat code).toNat = code := by decide
  have code : (Char.ofNat byte.toNat).toNat = byte.toNat := codes byte.toNat ascii
  rw [utf8EncodeChar_of_ascii (by rw [code]; exact ascii), code, UInt8.ofNat_toNat]

/-- The bytes of a character outside ASCII lie in the upper half. -/
theorem upperHalf_utf8EncodeChar (outside : 0x80 ≤ character.toNat) :
    ∀ byte ∈ String.utf8EncodeChar character, 0x80 ≤ byte.toNat := by
  change 0x80 ≤ character.val.toNat at outside
  fun_cases String.utf8EncodeChar character with
  | case1 => omega
  | case2 value | case3 value | case4 value =>
    simp only [List.mem_cons, forall_eq_or_imp, UInt8.toNat_ofNat', List.not_mem_nil,
      false_implies, implies_true, and_true]
    omega

/-- A byte in the lower half is the whole of a character. -/
theorem toNat_of_mem_utf8EncodeChar (member : byte ∈ String.utf8EncodeChar character)
    (ascii : byte.toNat < 0x80) : byte.toNat = character.toNat := by
  rcases Nat.lt_or_ge character.toNat 0x80 with inside | outside
  · rw [utf8EncodeChar_of_ascii inside, List.mem_singleton] at member
    rw [member, UInt8.toNat_ofNat']
    exact Nat.mod_eq_of_lt (by omega)
  · have upper := upperHalf_utf8EncodeChar outside byte member
    omega

/-- The byte of a character of ASCII is in no other character. -/
theorem eq_of_mem_utf8EncodeChar (letter : Char) (ascii : letter.toNat < 0x80)
    (member : UInt8.ofNat letter.toNat ∈ String.utf8EncodeChar character) : character = letter := by
  have value : (UInt8.ofNat letter.toNat).toNat = letter.toNat :=
    UInt8.toNat_ofNat_of_lt' (Nat.lt_trans ascii (by decide))
  have code := toNat_of_mem_utf8EncodeChar member (value.symm ▸ ascii)
  exact Char.toNat_inj.mp (code.symm.trans value)

end DiagnosticReplay.Text
