import DiagnosticReplay.Proofs.Json.Lexeme

/-! # What was scanned

A scan that meets nothing wrong has read a text of the grammar: the text is a row of just the lexemes
that the scan gives. A number ends where its row says, because a character that could go on with the
number starts no lexeme.
-/

namespace DiagnosticReplay.Json

open Text

namespace NumberLiteral

variable {text rest : List Char}

theorem spelled_of_scanDigits {digits : List Char} (scanned : scanDigits text = .ok (digits, rest)) :
    Digits digits ∧ text = digits ++ rest ∧ EndsRun Char.isDigit rest := by
  unfold scanDigits at scanned
  split at scanned
  · simp at scanned
  · rename_i nonempty
    obtain ⟨rfl, rfl⟩ := Prod.mk.inj (Except.ok.inj scanned)
    exact ⟨⟨nonempty, fun _ member => List.mem_takeWhile_imp member⟩,
      List.takeWhile_append_dropWhile.symm, endsRun_dropWhile _ _⟩

theorem spelled_of_scanWhole {digits : List Char} (scanned : scanWhole text = .ok (digits, rest)) :
    Whole digits ∧ text = digits ++ rest ∧ EndsRun Char.isDigit rest := by
  unfold scanWhole at scanned
  split at scanned
  · simp at scanned
  · rename_i notZero
    obtain ⟨spelled, cut, ends⟩ := spelled_of_scanDigits scanned
    refine ⟨⟨spelled, fun zero => ?_⟩, cut, ends⟩
    obtain ⟨others, rfl⟩ := List.head?_eq_some_iff.mp zero
    cases others with
    | nil => rfl
    | cons second others => exact absurd scanned (notZero second others rest)

theorem spelled_of_scanFraction {fraction : Option (List Char)} (ends : EndsRun Char.isDigit text)
    (scanned : scanFraction text = .ok (fraction, rest)) :
    ∃ part, SpellsFraction fraction part ∧ text = part ++ rest ∧ EndsRun Char.isDigit rest := by
  unfold scanFraction at scanned
  split at scanned
  · obtain ⟨⟨digits, after⟩, found, same⟩ := Result.bind_eq_ok_iff.mp scanned
    obtain ⟨rfl, rfl⟩ := Prod.mk.inj (Except.ok.inj same)
    obtain ⟨spelled, rfl, endsAfter⟩ := spelled_of_scanDigits found
    exact ⟨_, .present spelled, rfl, endsAfter⟩
  · obtain ⟨rfl, rfl⟩ := Prod.mk.inj (Except.ok.inj scanned)
    exact ⟨[], .absent, rfl, ends⟩

theorem spelled_scanSign (text : List Char) :
    ∃ part, SpellsSign (scanSign text).1 part ∧ text = part ++ (scanSign text).2 := by
  unfold scanSign
  split
  · exact ⟨_, .minus, rfl⟩
  · exact ⟨_, .plus, rfl⟩
  · exact ⟨_, .absent, rfl⟩

theorem spelled_of_scanExponent {exponent : Option ExponentLiteral}
    (ends : EndsRun Char.isDigit text) (scanned : scanExponent text = .ok (exponent, rest)) :
    ∃ part, SpellsExponent exponent part ∧ text = part ++ rest ∧ EndsRun Char.isDigit rest := by
  unfold scanExponent at scanned
  split at scanned
  · obtain ⟨rfl, rfl⟩ := Prod.mk.inj (Except.ok.inj scanned)
    exact ⟨[], .absent, rfl, ends⟩
  · rename_i mark tail
    split at scanned
    · rename_i isMark
      obtain ⟨⟨digits, after⟩, found, same⟩ := Result.bind_eq_ok_iff.mp scanned
      obtain ⟨rfl, rfl⟩ := Prod.mk.inj (Except.ok.inj same)
      obtain ⟨spelled, cut, endsAfter⟩ := spelled_of_scanDigits found
      obtain ⟨sign, signed, whole⟩ := spelled_scanSign tail
      refine ⟨_, .present isMark signed spelled, ?_, endsAfter⟩
      rw [whole, cut, List.cons_append, List.append_assoc]
    · obtain ⟨rfl, rfl⟩ := Prod.mk.inj (Except.ok.inj scanned)
      exact ⟨[], .absent, rfl, ends⟩

/-- A scanned number was written, and no digit follows it. -/
theorem spelled_of_scanUnsigned {negative : Bool} {literal : NumberLiteral}
    (scanned : scanUnsigned negative text = .ok (literal, rest)) :
    literal.negative = negative ∧
      ∃ part, literal.SpellsUnsigned part ∧ text = part ++ rest ∧ EndsRun Char.isDigit rest := by
  unfold scanUnsigned at scanned
  simp only [Result.bind_eq_ok_iff] at scanned
  obtain ⟨⟨whole, afterWhole⟩, isWhole, ⟨fraction, afterFraction⟩, isFraction,
    ⟨exponent, after⟩, isExponent, same⟩ := scanned
  obtain ⟨rfl, rfl⟩ := Prod.mk.inj (Except.ok.inj same)
  obtain ⟨wholeSpelled, rfl, endsWhole⟩ := spelled_of_scanWhole isWhole
  obtain ⟨fractionText, fractionSpelled, rfl, endsFraction⟩ :=
    spelled_of_scanFraction endsWhole isFraction
  obtain ⟨exponentText, exponentSpelled, rfl, ends⟩ := spelled_of_scanExponent endsFraction isExponent
  refine ⟨rfl, _, .mk wholeSpelled fractionSpelled exponentSpelled, ?_, ends⟩
  simp only [List.append_assoc]

end NumberLiteral

namespace StringLiteral

theorem mem_of_shortEscape? {letter character : Char}
    (found : shortEscape? letter = some character) : (letter, character) ∈ shortEscapes := by
  unfold shortEscape? at found
  split at found <;> cases found
  all_goals decide

theorem hexDigit_of_hexValue? {digit : Char} {value : Nat} (found : hexValue? digit = some value) :
    HexDigit value digit := by
  rw [← Char.ofNat_toNat digit]
  simp only [hexValue?] at found
  split at found
  · obtain rfl := Option.some.inj found
    refine ⟨by omega, .inl ?_⟩
    rw [lowerHexDigit, if_pos (by omega), Nat.add_sub_cancel' (by omega)]
  · split at found
    · obtain rfl := Option.some.inj found
      refine ⟨by omega, .inr ?_⟩
      rw [upperHexDigit, if_neg (by omega), Nat.add_sub_cancel' (by omega)]
    · split at found
      · obtain rfl := Option.some.inj found
        refine ⟨by omega, .inl ?_⟩
        rw [lowerHexDigit, if_neg (by omega), Nat.add_sub_cancel' (by omega)]
      · simp at found

theorem spellsPart_of_unitValue? {first second third fourth : Char} {value : Nat}
    (found : unitValue? first second third fourth = some value) :
    SpellsPart (.unit value) ['\\', 'u', first, second, third, fourth] := by
  simp only [unitValue?, Option.bind_eq_bind, Option.bind_eq_some_iff, Option.some.injEq] at found
  obtain ⟨a, isFirst, b, isSecond, c, isThird, d, isFourth, rfl⟩ := found
  exact .unit (hexDigit_of_hexValue? isFirst) (hexDigit_of_hexValue? isSecond)
    (hexDigit_of_hexValue? isThird) (hexDigit_of_hexValue? isFourth)

/-- The text was written as the parts of a closed literal and its end, with something after it. -/
def IsRead (text : List Char) (scanned : StringLiteral × List Char) : Prop :=
  ∃ body, SpellsParts scanned.1.parts body ∧ text = body ++ '"' :: scanned.2

theorem IsRead.consPart {part : StringPart} {first rest : List Char}
    {scanned : StringLiteral × List Char} (spelled : SpellsPart part first)
    (isRead : IsRead rest scanned) : IsRead (first ++ rest) (scanned.1.consPart part, scanned.2) := by
  obtain ⟨body, others, rfl⟩ := isRead
  exact ⟨first ++ body, .cons spelled others, (List.append_assoc ..).symm⟩

/-- A scanned literal that is closed was written. -/
theorem isRead_scan {text : List Char} (closed : (scan text).1.ending = .closed) :
    IsRead text (scan text) := by
  fun_induction scan text with
  | case2 rest => exact ⟨[], .nil, rfl⟩
  | case3 first second third fourth rest value found scanned ih =>
    exact (ih closed).consPart (spellsPart_of_unitValue? found)
  | case6 letter rest _ _ value found scanned ih =>
    exact (ih closed).consPart (.short (mem_of_shortEscape? found))
  | case10 value rest notQuote _ _ notEscape notEnd notControl scanned ih =>
    have notBackslash : value ≠ '\\' := by
      intro isBackslash
      cases rest with
      | nil => exact notEnd isBackslash rfl
      | cons letter rest => exact notEscape letter rest isBackslash rfl
    exact (ih closed).consPart (.plain ⟨Nat.le_of_not_lt notControl, notQuote, notBackslash⟩)
  -- the other scans stop before the closing quote
  | _ => simp [stop] at closed

theorem spelled_scan {text : List Char} (closed : (scan text).1.ending = .closed) :
    ∃ part, (scan text).1.Spells part ∧ '"' :: text = part ++ (scan text).2 := by
  obtain ⟨body, parts, cut⟩ := isRead_scan closed
  have spelled : Spells ⟨(scan text).1.parts, .closed⟩ ('"' :: (body ++ ['"'])) := .closed parts
  rw [← closed] at spelled
  refine ⟨_, spelled, ?_⟩
  rw [List.cons_append, List.append_assoc]
  exact congrArg ('"' :: ·) cut

end StringLiteral

namespace Lexeme

/-- Nothing in the lexeme breaks off. -/
def IsWhole : Lexeme → Prop
  | string literal => literal.ending = .closed
  | damaged _ _ => False
  | stray => False
  | _ => True

theorem mem_blanks_of_isBlank {character : Char} (blank : isBlank character = true) :
    character ∈ [' ', '\t', '\n', '\r'] := by
  simpa [isBlank, or_assoc] using blank

theorem spells_of_ofMark? {character : Char} {mark : Lexeme} (found : ofMark? character = some mark) :
    mark.Spells [character] ∧ ∀ rest, mark.EndsBefore rest := by
  unfold ofMark? at found
  split at found <;> cases found
  all_goals exact ⟨by constructor, fun _ => trivial⟩

theorem spells_of_ofName? {character : Char} {letters : List Char} {name : Lexeme}
    {beginning : Beginning} (found : ofName? character = some (letters, name, beginning)) :
    name.Spells (character :: letters) ∧ ∀ rest, name.EndsBefore rest := by
  unfold ofName? at found
  split at found <;> cases found
  all_goals exact ⟨by constructor, fun _ => trivial⟩

theorem eq_append_of_afterLetters {letters text rest : List Char}
    (scanned : afterLetters letters text = .ok rest) : text = letters ++ rest := by
  induction letters generalizing text with
  | nil => exact Except.ok.inj scanned
  | cons expected letters ih =>
    cases text with
    | nil => simp [afterLetters] at scanned
    | cons character text =>
      rw [afterLetters] at scanned
      split at scanned
      · rename_i same
        rw [ih scanned, same, List.cons_append]
      · simp at scanned

theorem spelled_of_scanNumber {character : Char} {text rest : List Char} {literal : NumberLiteral}
    (scanned : scanNumber character text = .ok (literal, rest)) :
    ∃ part, literal.Spells part ∧ character :: text = part ++ rest ∧ EndsRun Char.isDigit rest := by
  unfold scanNumber at scanned
  split at scanned
  · rename_i isMinus
    obtain ⟨negative, part, spelled, rfl, ends⟩ := NumberLiteral.spelled_of_scanUnsigned scanned
    exact ⟨_, .negated negative spelled, by rw [isMinus, List.cons_append], ends⟩
  · obtain ⟨positive, part, spelled, cut, ends⟩ := NumberLiteral.spelled_of_scanUnsigned scanned
    exact ⟨part, .plain positive spelled, cut, ends⟩

/-- A character that could go on with a number, a digit aside, starts no lexeme. -/
theorem endsRun_continues {rest : List Char} (ends : EndsRun Char.isDigit rest)
    (whole : ∀ lexeme ∈ scan rest, lexeme.IsWhole) : EndsRun NumberLiteral.continues rest := by
  cases rest with
  | nil => simp [EndsRun]
  | cons next rest =>
    have notDigit := endsRun_cons.mp ends
    refine endsRun_cons.mpr ?_
    by_contra continues
    simp only [NumberLiteral.continues, notDigit, Bool.false_or, Bool.not_eq_false, Bool.or_eq_true,
      beq_iff_eq] at continues
    have isStray : scan (next :: rest) = [stray] := by
      rcases continues with (rfl | rfl) | rfl <;> simp [scan, isBlank, ofMark?, ofName?]
    exact whole stray (isStray ▸ List.mem_singleton_self _)

/-- A text that is scanned into whole lexemes is their row. -/
theorem spellsRow_scan {text : List Char} (whole : ∀ lexeme ∈ scan text, lexeme.IsWhole) :
    SpellsRow (scan text) text := by
  fun_induction scan text with
  | case1 => exact .nil
  | case2 character rest blank ih => exact .blank (mem_blanks_of_isBlank blank) (ih whole)
  | case3 rest scanned _ ih =>
    obtain ⟨closed, others⟩ := List.forall_mem_cons.mp whole
    obtain ⟨part, spelled, cut⟩ := StringLiteral.spelled_scan closed
    rw [cut]
    exact .cons (.string spelled) trivial (ih others)
  | case4 character rest _ _ _ literal after found ih =>
    obtain ⟨-, others⟩ := List.forall_mem_cons.mp whole
    obtain ⟨part, spelled, cut, ends⟩ := spelled_of_scanNumber found
    rw [cut]
    exact .cons (.number spelled) (endsRun_continues ends others) (ih others)
  | case6 character rest _ _ _ mark found ih =>
    obtain ⟨spelled, ends⟩ := spells_of_ofMark? found
    exact .cons spelled (ends _) (ih (List.forall_mem_cons.mp whole).2)
  | case7 character rest _ _ _ letters name beginning found _ after scanned ih =>
    obtain ⟨spelled, ends⟩ := spells_of_ofName? found
    rw [eq_append_of_afterLetters scanned]
    exact .cons spelled (ends _) (ih (List.forall_mem_cons.mp whole).2)
  -- the other scans stop at a lexeme that is not whole
  | _ => exact (whole _ (List.mem_singleton_self _)).elim

end Lexeme

end DiagnosticReplay.Json
