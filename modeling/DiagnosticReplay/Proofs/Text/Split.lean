import DiagnosticReplay.Text.Split

/-! # Parts between separators

A text has one part more than it has separators. The parts of two texts with a separator between
them are the parts of the one and then those of the other, so lines that are each ended by a
separator are found again exactly if no separator stands inside one of them.
-/

namespace DiagnosticReplay.Text

variable {isSeparator : Char → Bool}

theorem length_splitWhere (isSeparator : Char → Bool) (text : List Char) :
    (splitWhere isSeparator text).length = text.countP isSeparator + 1 := by
  induction text with
  | nil => rfl
  | cons character rest ih =>
    rw [splitWhere, List.countP_cons]
    cases isSeparator character <;> simp [ih]

/-- A text without a separator is its only part. -/
theorem splitWhere_of_plain {text : List Char}
    (plain : ∀ character ∈ text, isSeparator character = false) :
    splitWhere isSeparator text = [text] := by
  induction text with
  | nil => rfl
  | cons character rest ih =>
    obtain ⟨first, others⟩ := List.forall_mem_cons.mp plain
    rw [splitWhere, first, ih others]
    rfl

/-- A text is its only part if the separator does not stand in it. -/
theorem splitWhere_of_not_mem {separator : Char} {text : List Char} (absent : separator ∉ text) :
    splitWhere (· == separator) text = [text] :=
  splitWhere_of_plain fun _ member => beq_false_of_ne fun same => absent (same ▸ member)

theorem splitWhere_append_separator (isSeparator : Char → Bool) {separator : Char}
    (cuts : isSeparator separator = true) (first second : List Char) :
    splitWhere isSeparator (first ++ separator :: second) =
      splitWhere isSeparator first ++ splitWhere isSeparator second := by
  induction first with
  | nil => simp [splitWhere, cuts]
  | cons character rest ih =>
    obtain ⟨part, parts, split⟩ :=
      List.exists_cons_of_ne_nil (splitWhere_ne_nil isSeparator rest)
    rw [List.cons_append, splitWhere, splitWhere, ih, split]
    cases isSeparator character <;> rfl

theorem splitWhere_append_cons (separator : Char) (first second : List Char) :
    splitWhere (· == separator) (first ++ separator :: second) =
      splitWhere (· == separator) first ++ splitWhere (· == separator) second :=
  splitWhere_append_separator (· == separator) (beq_self_eq_true separator) first second

theorem splitWhere_congr {one other : Char → Bool} {text : List Char}
    (agree : ∀ character ∈ text, one character = other character) :
    splitWhere one text = splitWhere other text := by
  induction text with
  | nil => rfl
  | cons character rest ih =>
    obtain ⟨first, others⟩ := List.forall_mem_cons.mp agree
    rw [splitWhere, splitWhere, first, ih others]

/-- A part is made of characters of the text that are no separators. -/
theorem of_mem_splitWhere {text part : List Char} {character : Char}
    (member : part ∈ splitWhere isSeparator text) (inPart : character ∈ part) :
    character ∈ text ∧ isSeparator character = false := by
  induction text generalizing part with
  | nil =>
    obtain rfl := List.mem_singleton.mp member
    exact absurd inPart List.not_mem_nil
  | cons head rest ih =>
    obtain ⟨first, others, split⟩ :=
      List.exists_cons_of_ne_nil (splitWhere_ne_nil isSeparator rest)
    rw [splitWhere, split] at member
    cases cuts : isSeparator head with
    | true =>
      rw [cuts, if_pos rfl, ← split] at member
      rcases List.mem_cons.mp member with rfl | later
      · exact absurd inPart List.not_mem_nil
      · exact ⟨List.mem_cons_of_mem _ (ih later inPart).1, (ih later inPart).2⟩
    | false =>
      rw [cuts, if_neg Bool.false_ne_true, List.modifyHead_cons] at member
      rcases List.mem_cons.mp member with rfl | later
      · rcases List.mem_cons.mp inPart with rfl | inFirst
        · exact ⟨List.mem_cons_self, cuts⟩
        · have found := ih (split ▸ List.mem_cons_self) inFirst
          exact ⟨List.mem_cons_of_mem _ found.1, found.2⟩
      · have found := ih (split ▸ List.mem_cons_of_mem _ later) inPart
        exact ⟨List.mem_cons_of_mem _ found.1, found.2⟩

section Lines

variable {separator : Char} {lines : List String}

/-- The text of lines that are each ended by a separator. -/
def terminated (separator : Char) (lines : List String) : String :=
  String.join (lines.map fun line => line ++ String.singleton separator)

theorem terminated_cons (line : String) :
    terminated separator (line :: lines) =
      line ++ String.singleton separator ++ terminated separator lines := by
  rw [terminated, List.map_cons, String.join_cons, terminated]

theorem splitAt_terminated_cons (line : String) :
    splitAt separator (terminated separator (line :: lines)) =
      splitAt separator line ++ splitAt separator (terminated separator lines) := by
  have text : (terminated separator (line :: lines)).toList =
      line.toList ++ separator :: (terminated separator lines).toList := by
    simp [terminated_cons]
  rw [splitAt, text, splitWhere_append_cons, List.map_append, splitAt, splitAt]

theorem splitAt_of_not_mem {text : String} (absent : separator ∉ text.toList) :
    splitAt separator text = [text] := by
  rw [splitAt, splitWhere_of_not_mem absent, List.map_singleton, String.ofList_toList]

theorem length_splitAt (separator : Char) (text : String) :
    (splitAt separator text).length = text.toList.count separator + 1 := by
  rw [splitAt, List.length_map, length_splitWhere, List.count]

/-- There is one part for each line, one more for each separator in a line, and an empty one. -/
theorem length_splitAt_terminated (separator : Char) (lines : List String) :
    (splitAt separator (terminated separator lines)).length =
      lines.length + (lines.flatMap String.toList).count separator + 1 := by
  induction lines with
  | nil => rfl
  | cons line rest ih =>
    rw [splitAt_terminated_cons, List.length_append, ih, length_splitAt, List.length_cons,
      List.flatMap_cons, List.count_append]
    omega

/-- Lines are found again if no separator stands inside one of them. -/
theorem splitAt_terminated_of_plain (plain : ∀ line ∈ lines, separator ∉ line.toList) :
    splitAt separator (terminated separator lines) = lines ++ [""] := by
  induction lines with
  | nil => rfl
  | cons line rest ih =>
    obtain ⟨first, others⟩ := List.forall_mem_cons.mp plain
    rw [splitAt_terminated_cons, splitAt_of_not_mem first, ih others, List.cons_append,
      List.nil_append, List.cons_append]

/-- There are as many parts as lines, but for the empty one after the last, exactly if no separator
stands inside a line. -/
theorem length_splitAt_terminated_eq_iff :
    (splitAt separator (terminated separator lines)).length = lines.length + 1 ↔
      ∀ line ∈ lines, separator ∉ line.toList := by
  have none : (lines.flatMap String.toList).count separator = 0 ↔
      ∀ line ∈ lines, separator ∉ line.toList := by
    rw [List.count_eq_zero, List.mem_flatMap, not_exists]
    exact forall_congr' fun line => not_and
  rw [length_splitAt_terminated, ← none]
  omega

end Lines

end DiagnosticReplay.Text
