import DiagnosticReplay.Proofs.Source.LineMap
import DiagnosticReplay.Proofs.Text.Utf8

/-! # Where lines start

The table of a text is known from its bytes alone. A line starts at the first byte, right after each
line feed, and right after each carriage return that no line feed follows, and nowhere else. The scan
takes a carriage return and the line feed after it in one step and every other character by itself,
and a character outside ASCII has no byte that could end a line; so every start lies between two
characters, and the last one is at most the end of the text.
-/

namespace DiagnosticReplay.Source.LineMap

/-- A line starts at the byte offset: it is zero, or a line feed stands before it, or a carriage return
stands before it and no line feed at it. -/
def StartsLine (text : String) (offset : Nat) : Prop :=
  offset = 0 ∨ ∃ last, offset = last + 1 ∧
    (text.toUTF8[last]? = some 0x0a ∨
      text.toUTF8[last]? = some 0x0d ∧ text.toUTF8[offset]? ≠ some 0x0a)

section Bytes

variable {offset start : Nat} {byte : UInt8} {first bytes : List UInt8} {text : List Char}

/-- A line ends with the byte at the place: a line feed, or a carriage return without one after it. -/
def EndsLine (bytes : List UInt8) (place : Nat) : Prop :=
  bytes[place]? = some 0x0a ∨ bytes[place]? = some 0x0d ∧ bytes[place + 1]? ≠ some 0x0a

/-- A line starts after one of the bytes, of which the first stands at `offset`. -/
def StartsIn (offset : Nat) (bytes : List UInt8) (start : Nat) : Prop :=
  ∃ place, start = offset + place + 1 ∧ EndsLine bytes place

/-- The first byte ends a line or it does not, and the others are judged without it. -/
theorem startsIn_cons_iff : StartsIn offset (byte :: bytes) start ↔
    start = offset + 1 ∧ EndsLine (byte :: bytes) 0 ∨ StartsIn (offset + 1) bytes start := by
  constructor
  · rintro ⟨place, rfl, ends⟩
    cases place with
    | zero => exact .inl ⟨rfl, ends⟩
    | succ place => exact .inr ⟨place, by omega, ends⟩
  · rintro (⟨rfl, ends⟩ | ⟨place, rfl, ends⟩)
    · exact ⟨0, rfl, ends⟩
    · exact ⟨place + 1, by omega, ends⟩

/-- Bytes that are neither a line feed nor a carriage return start no line. -/
theorem startsIn_append_iff (plain : ∀ byte ∈ first, byte ≠ 0x0a ∧ byte ≠ 0x0d) :
    StartsIn offset (first ++ bytes) start ↔
      StartsIn (offset + first.length) bytes start := by
  induction first generalizing offset with
  | nil => rfl
  | cons byte first ih =>
    obtain ⟨⟨notFeed, notReturn⟩, others⟩ := List.forall_mem_cons.mp plain
    have noEnd : ¬ EndsLine (byte :: (first ++ bytes)) 0 := by simp [EndsLine, notFeed, notReturn]
    rw [List.cons_append, startsIn_cons_iff, ih others, List.length_cons, Nat.add_assoc,
      Nat.add_comm 1]
    exact or_iff_right fun ended => noEnd ended.2

/-- The first byte of a text is a line feed only where its first character is one. -/
theorem exists_lineFeed_of_first
    (first : (text.flatMap String.utf8EncodeChar)[0]? = some 0x0a) : ∃ rest, text = '\n' :: rest := by
  cases text with
  | nil => simp at first
  | cons character rest =>
    obtain ⟨byte, others, written⟩ := List.exists_cons_of_ne_nil
      (@String.utf8EncodeChar_ne_nil character)
    rw [List.flatMap_cons, written, List.cons_append, List.getElem?_cons_zero,
      Option.some.injEq] at first
    subst first
    have same : character = '\n' :=
      Text.eq_of_mem_utf8EncodeChar '\n' (by decide) (written ▸ List.mem_cons_self)
    exact ⟨rest, same ▸ rfl⟩

/-- A character that ends no line has no byte that does. -/
theorem plain_utf8EncodeChar {character : Char}
    (plain : ¬ (character = '\n' ∨ character = '\r')) :
    ∀ byte ∈ String.utf8EncodeChar character, byte ≠ 0x0a ∧ byte ≠ 0x0d := by
  intro byte member
  constructor
  · rintro rfl
    exact plain (.inl (Text.eq_of_mem_utf8EncodeChar '\n' (by decide) member))
  · rintro rfl
    exact plain (.inr (Text.eq_of_mem_utf8EncodeChar '\r' (by decide) member))

/-- The scan over the characters finds the starts that the bytes show. -/
theorem mem_startsAfter_iff : start ∈ startsAfter offset text ↔
    StartsIn offset (text.flatMap String.utf8EncodeChar) start := by
  fun_induction startsAfter offset text with
  | case1 => simp [StartsIn, EndsLine]
  | case2 offset rest ih =>
    have written : ('\r' :: '\n' :: rest).flatMap String.utf8EncodeChar =
        0x0d :: 0x0a :: rest.flatMap String.utf8EncodeChar := rfl
    have together : ¬ EndsLine (0x0d :: 0x0a :: rest.flatMap String.utf8EncodeChar) 0 := by
      simp [EndsLine]
    rw [written, startsIn_cons_iff, or_iff_right fun ended => together ended.2,
      startsIn_cons_iff, List.mem_cons, ih]
    exact or_congr_left (and_iff_left (.inl rfl)).symm
  | case3 offset character rest notPair next ends ih =>
    have ended : EndsLine ((character :: rest).flatMap String.utf8EncodeChar) 0 := by
      rcases ends with rfl | rfl
      · exact .inl rfl
      · refine .inr ⟨rfl, fun feed => ?_⟩
        obtain ⟨tail, rfl⟩ := exists_lineFeed_of_first feed
        exact notPair tail rfl rfl
    have written : (character :: rest).flatMap String.utf8EncodeChar =
        UInt8.ofNat character.toNat :: rest.flatMap String.utf8EncodeChar := by
      rcases ends with rfl | rfl <;> rfl
    have size : character.utf8Size = 1 := by rcases ends with rfl | rfl <;> rfl
    rw [written] at ended ⊢
    rw [startsIn_cons_iff, List.mem_cons, ih, and_iff_left ended, ← size]
  | case4 offset character rest notPair next plain ih =>
    rw [List.flatMap_cons, startsIn_append_iff (plain_utf8EncodeChar plain),
      String.length_utf8EncodeChar, ih]

end Bytes

variable {text : String} {start : Nat}

theorem getElem?_toUTF8 (text : String) (place : Nat) :
    text.toUTF8[place]? = (text.toList.flatMap String.utf8EncodeChar)[place]? := by
  have bytes : text.toUTF8 = (text.toList.flatMap String.utf8EncodeChar).toByteArray :=
    String.utf8Encode_toList.symm
  rw [bytes, getElem?_def, getElem?_def]
  simp only [List.size_toByteArray, List.getElem_toByteArray]

/-- The starts of a text are those that its bytes show. -/
theorem mem_startsOf_iff : start ∈ startsOf text ↔ StartsLine text start := by
  rw [startsOf, List.mem_cons, mem_startsAfter_iff, StartsLine]
  refine or_congr_right (exists_congr fun last => ?_)
  rw [Nat.zero_add, EndsLine, ← getElem?_toUTF8, ← getElem?_toUTF8]
  exact and_congr_right fun same => by rw [same]

/-- A start lies between two characters. -/
theorem isValid_of_mem_startsOf (member : start ∈ startsOf text) :
    String.Pos.Raw.IsValid text ⟨start⟩ := by
  rcases List.mem_cons.mp member with rfl | later
  · exact String.Pos.Raw.isValid_zero
  · obtain ⟨before, after, split, rfl⟩ := exists_before_of_mem_startsAfter later
    have size : 0 + byteCount before = (String.ofList before).utf8ByteSize := by
      rw [Nat.zero_add, ← byteCount_toList, String.toList_ofList]
    rw [size, ← String.ofList_toList (s := text), split, String.ofList_append]
    exact String.Pos.Raw.isValid_rawEndPos.append_right _

/-- The table lists where the lines of a text start, in order and without repetition. -/
structure IsTable (text : String) (starts : List UInt32) : Prop where
  first : starts.head? = some 0
  increasing : starts.Pairwise (· < ·)
  /-- No start lies past the end of the text or inside a character. -/
  inside : ∀ start ∈ starts, start.toNat ≤ text.utf8ByteSize ∧
    String.Pos.Raw.IsValid text ⟨start.toNat⟩
  exact : ∀ offset, offset ∈ starts.map UInt32.toNat ↔ StartsLine text offset

/-- The line map of a text holds the starts of its lines and nothing else. -/
theorem isTable_ofText (short : Short text) : IsTable text (ofText text).starts.toList where
  first := rfl
  increasing := pairwise_starts_ofText short
  inside := by
    intro start member
    have listed : start.toNat ∈ startsOf text :=
      map_toNat_starts short ▸ List.mem_map_of_mem member
    exact ⟨le_of_mem_startsOf listed, isValid_of_mem_startsOf listed⟩
  exact := by
    intro offset
    rw [map_toNat_starts short, mem_startsOf_iff]

/-- A line starts after the lone carriage return, and none between the two characters of the ending
before it. -/
theorem isTable_ofText_loneReturn :
    Short "é\r\n\ry\n" ∧ 5 ∈ (ofText "é\r\n\ry\n").starts.toList.map UInt32.toNat ∧
      ¬ StartsLine "é\r\n\ry\n" 3 := by
  have short : Short "é\r\n\ry\n" := by decide +kernel
  have table := isTable_ofText short
  have starts : StartsLine "é\r\n\ry\n" 5 :=
    .inr ⟨4, rfl, .inr ⟨by decide +kernel, by decide +kernel⟩⟩
  refine ⟨short, (table.exact 5).mpr starts, mt (table.exact 3).mpr ?_⟩
  decide +kernel

end DiagnosticReplay.Source.LineMap
