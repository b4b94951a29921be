import DiagnosticReplay.Json.StringLiteral
import DiagnosticReplay.Proofs.Result

/-! # The grammar of string literals

A character of a text stands in a literal as it is, by a short escape, or by its UTF-16 units, one
escape a unit; a character above U+FFFF has two units. Whichever of these a literal uses, scanning
finds its parts again and decoding gives the text.
-/

namespace DiagnosticReplay.Json.StringLiteral

open Text

/-- The letters of short escapes, each with the character that it stands for. -/
def shortEscapes : List (Char × Char) :=
  [('"', '"'), ('\\', '\\'), ('/', '/'), ('b', '\x08'), ('f', '\x0c'), ('n', '\n'), ('r', '\r'),
    ('t', '\t')]

/-- A hexadecimal digit of either case. -/
structure HexDigit (value : Nat) (digit : Char) : Prop where
  small : value < 16
  isDigit : digit = lowerHexDigit value ∨ digit = upperHexDigit value

/-- The character needs no escape. -/
structure Unescaped (character : Char) : Prop where
  notControl : 0x20 ≤ character.toNat
  notQuote : character ≠ '"'
  notBackslash : character ≠ '\\'

/-- A part of a literal as it is written. -/
inductive SpellsPart : StringPart → List Char → Prop where
  | plain {character : Char} : Unescaped character → SpellsPart (.character character) [character]
  | short {letter character : Char} : (letter, character) ∈ shortEscapes →
      SpellsPart (.character character) ['\\', letter]
  | unit {a b c d : Nat} {first second third fourth : Char} : HexDigit a first →
      HexDigit b second → HexDigit c third → HexDigit d fourth →
      SpellsPart (.unit (4096 * a + 256 * b + 16 * c + d))
        ['\\', 'u', first, second, third, fourth]

/-- Parts of a literal as they are written. -/
inductive SpellsParts : List StringPart → List Char → Prop where
  | nil : SpellsParts [] []
  | cons {part : StringPart} {parts : List StringPart} {text rest : List Char} :
      SpellsPart part text → SpellsParts parts rest → SpellsParts (part :: parts) (text ++ rest)

/-- A literal with its quotes as it is written. -/
inductive Spells : StringLiteral → List Char → Prop where
  | closed {parts : List StringPart} {body : List Char} : SpellsParts parts body →
      Spells ⟨parts, .closed⟩ ('"' :: (body ++ ['"']))

/-- What the parts of a literal stand for. -/
inductive PartsDenote : List StringPart → List Char → Prop where
  | nil : PartsDenote [] []
  | character {character : Char} {parts : List StringPart} {text : List Char} :
      PartsDenote parts text → PartsDenote (.character character :: parts) (character :: text)
  | unit {character : Char} {parts : List StringPart} {text : List Char} :
      character.toNat < 0x10000 → PartsDenote parts text →
      PartsDenote (.unit character.toNat :: parts) (character :: text)
  | pair {character : Char} {parts : List StringPart} {text : List Char} :
      0x10000 ≤ character.toNat → PartsDenote parts text →
      PartsDenote
        (.unit (0xd800 + (character.toNat - 0x10000) / 0x400) ::
          .unit (0xdc00 + (character.toNat - 0x10000) % 0x400) :: parts)
        (character :: text)

/-- What a literal stands for. -/
inductive Denotes : StringLiteral → String → Prop where
  | closed {parts : List StringPart} {text : String} : PartsDenote parts text.toList →
      Denotes ⟨parts, .closed⟩ text

section Scan

theorem shortEscape?_of_mem : ∀ escape ∈ shortEscapes, shortEscape? escape.1 = some escape.2 := by
  decide

theorem ne_unit_of_mem : ∀ escape ∈ shortEscapes, escape.1 ≠ 'u' := by
  decide

theorem HexDigit.hexValue? {value : Nat} {digit : Char} (isHex : HexDigit value digit) :
    Text.hexValue? digit = some value := by
  obtain ⟨small, rfl | rfl⟩ := isHex
  · exact (hexValue?_digits value small).1
  · exact (hexValue?_digits value small).2

/-- A scan takes a spelled part off the text and goes on after it. -/
theorem scan_part {part : StringPart} {text : List Char} (spelled : SpellsPart part text)
    (rest : List Char) :
    scan (text ++ rest) = ((scan rest).1.consPart part, (scan rest).2) := by
  cases spelled with
  | plain unescaped =>
    obtain ⟨notControl, notQuote, notBackslash⟩ := unescaped
    rw [List.singleton_append, scan]
    · rw [if_neg (Nat.not_lt.mpr notControl)]
    · exact notQuote
    all_goals
      intros
      exact notBackslash ‹_›
  | short escape =>
    have found := shortEscape?_of_mem _ escape
    have notUnit := ne_unit_of_mem _ escape
    rw [List.cons_append, List.singleton_append, scan, found]
    · intro _ _ _ _ _ isUnit
      exact absurd isUnit notUnit
    · exact notUnit
  | unit first second third fourth =>
    simp only [List.cons_append, List.nil_append, scan, unitValue?, first.hexValue?,
      second.hexValue?, third.hexValue?, fourth.hexValue?, Option.bind_eq_bind, Option.bind_some]

theorem scan_parts {parts : List StringPart} {body : List Char} (spelled : SpellsParts parts body)
    (rest : List Char) : scan (body ++ '"' :: rest) = (⟨parts, .closed⟩, rest) := by
  induction spelled with
  | nil => rw [List.nil_append, scan]
  | cons first others ih => rw [List.append_assoc, scan_part first, ih]; rfl

end Scan

section Decode

theorem decodeParts_unit (value : Nat) {parts : List StringPart} {text : List Char}
    (notTrailing : isTrailing value = false) (notLeading : isLeading value = false)
    (decoded : decodeParts .closed parts = .ok text) :
    decodeParts .closed (.unit value :: parts) = .ok (Char.ofNat value :: text) := by
  have step : decodeParts .closed (.unit value :: parts) =
      (decodeParts .closed parts).bind fun following => .ok (Char.ofNat value :: following) := by
    rw [decodeParts.eq_def]
    cases parts with
    | nil => simp [notTrailing, notLeading, bind]
    | cons next parts => cases next <;> simp [notTrailing, notLeading, bind]
  rw [step, decoded]
  rfl

theorem decodeParts_pair (leading trailing : Nat) {parts : List StringPart} {text : List Char}
    (isLeading : isLeading leading = true) (isTrailing : isTrailing trailing = true)
    (decoded : decodeParts .closed parts = .ok text) :
    decodeParts .closed (.unit leading :: .unit trailing :: parts) =
      .ok (pairValue leading trailing :: text) := by
  have notTrailing : StringLiteral.isTrailing leading = false := by
    simp only [StringLiteral.isTrailing, StringLiteral.isLeading, Bool.and_eq_true,
      decide_eq_true_eq, Bool.and_eq_false_iff, decide_eq_false_iff_not] at isLeading ⊢
    omega
  simp only [decodeParts, notTrailing, isLeading, isTrailing, decoded, if_true, Bool.false_eq_true,
    if_false, Result.ok_bind, Result.pure_eq_ok]

theorem decodeParts_of_denote {parts : List StringPart} {text : List Char}
    (denoted : PartsDenote parts text) : decodeParts .closed parts = .ok text := by
  induction denoted with
  | nil => rfl
  | character others ih => rw [decodeParts, ih]; rfl
  | @unit character parts text basic others ih =>
    have valid : character.toNat < 0xd800 ∨ 0xdfff < character.toNat ∧ character.toNat < 0x110000 :=
      character.valid
    have decoded := decodeParts_unit character.toNat (by simp [isTrailing]; omega)
      (by simp [isLeading]; omega) ih
    rwa [Char.ofNat_toNat] at decoded
  | @pair character parts text supplementary others ih =>
    have valid : character.toNat < 0xd800 ∨ 0xdfff < character.toNat ∧ character.toNat < 0x110000 :=
      character.valid
    have decoded := decodeParts_pair
      (0xd800 + (character.toNat - 0x10000) / 0x400)
      (0xdc00 + (character.toNat - 0x10000) % 0x400)
      (by simp [isLeading]; omega) (by simp [isTrailing]; omega) ih
    have whole : 0x10000 + (character.toNat - 0x10000) / 0x400 * 0x400 +
        (character.toNat - 0x10000) % 0x400 = character.toNat := by omega
    rw [decoded, pairValue, Nat.add_sub_cancel_left, Nat.add_sub_cancel_left, whole,
      Char.ofNat_toNat]

/-- A literal is decoded as the text that it stands for. -/
theorem Denotes.decode {literal : StringLiteral} {text : String} (denoted : literal.Denotes text) :
    literal.decode = .ok text := by
  cases denoted with
  | closed parts =>
    simp only [StringLiteral.decode, decodeParts_of_denote parts, Result.ok_bind,
      Result.pure_eq_ok, String.ofList_toList]

end Decode

section Writing

/-- Every character has a way to be written as one part. -/
theorem exists_spellsPart (character : Char) :
    ∃ part body, SpellsPart part body ∧ ∀ parts text, PartsDenote parts text →
      PartsDenote (part :: parts) (character :: text) := by
  by_cases control : character.toNat < 0x20
  · have high : HexDigit (character.toNat / 16) (lowerHexDigit (character.toNat / 16)) :=
      ⟨by omega, .inl rfl⟩
    have low : HexDigit (character.toNat % 16) (lowerHexDigit (character.toNat % 16)) :=
      ⟨by omega, .inl rfl⟩
    have zero : HexDigit 0 '0' := ⟨by decide, .inl rfl⟩
    refine ⟨_, _, .unit zero zero high low, fun parts text denoted => ?_⟩
    have whole : 4096 * 0 + 256 * 0 + 16 * (character.toNat / 16) + character.toNat % 16 =
        character.toNat := by omega
    rw [whole]
    exact .unit (by omega) denoted
  · by_cases quote : character = '"'
    · have escape : ('"', character) ∈ shortEscapes := by simp [shortEscapes, quote]
      exact ⟨_, _, .short escape, fun _ _ => .character⟩
    · by_cases backslash : character = '\\'
      · have escape : ('\\', character) ∈ shortEscapes := by simp [shortEscapes, backslash]
        exact ⟨_, _, .short escape, fun _ _ => .character⟩
      · exact ⟨_, _, .plain ⟨Nat.le_of_not_lt control, quote, backslash⟩, fun _ _ => .character⟩

theorem exists_spellsParts (text : List Char) :
    ∃ parts body, PartsDenote parts text ∧ SpellsParts parts body := by
  induction text with
  | nil => exact ⟨[], [], .nil, .nil⟩
  | cons character text ih =>
    obtain ⟨parts, body, denoted, spelled⟩ := ih
    obtain ⟨part, first, written, denotes⟩ := exists_spellsPart character
    exact ⟨part :: parts, first ++ body, denotes parts text denoted, .cons written spelled⟩

/-- Every text can be written. -/
theorem exists_spells (text : String) :
    ∃ literal : StringLiteral, literal.Denotes text ∧ ∃ body, literal.Spells body := by
  obtain ⟨parts, body, denoted, spelled⟩ := exists_spellsParts text.toList
  exact ⟨⟨parts, .closed⟩, .closed denoted, _, .closed spelled⟩

end Writing

end DiagnosticReplay.Json.StringLiteral
