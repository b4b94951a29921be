import DiagnosticReplay.Proofs.Source.LineMap

/-! # Looking an offset up

A byte offset lies on exactly one line: the last one that starts at or before it. The starts up to the
offset are the entries of the table up to that line, so their count is the number of the line, and the
last of them is where the column counts from. None of the steps of the lookup can fail: the first
entry is zero, so no offset falls before it; the index is one of the table; the offset has reached the
start that is taken off; and a text that 32 bits can measure has fewer lines than they can count. An
offset past the end of the text lies on the last line.
-/

namespace DiagnosticReplay.Source.LineMap

section Lines

/-- The offset lies on the line with an index: the line starts at or before it, and the next line
starts after it. -/
structure OnLine (text : String) (offset index start : Nat) : Prop where
  found : (startsOf text)[index]? = some start
  reached : start ≤ offset
  next : ∀ later, (startsOf text)[index + 1]? = some later → offset < later

variable {text : String} {offset index start other otherIndex otherStart : Nat}

/-- A list that begins at or below a bound has a last entry before the bound is first passed. -/
theorem exists_last_reached {bound first : Nat} (rest : List Nat) (reached : first ≤ bound) :
    ∃ index start, (first :: rest)[index]? = some start ∧ start ≤ bound ∧
      ∀ later, (first :: rest)[index + 1]? = some later → bound < later := by
  induction rest generalizing first with
  | nil => exact ⟨0, first, rfl, reached, by simp⟩
  | cons second rest ih =>
    by_cases passed : bound < second
    · refine ⟨0, first, rfl, reached, ?_⟩
      rintro later same
      cases same
      exact passed
    · obtain ⟨index, start, found, below, next⟩ := ih (Nat.le_of_not_lt passed)
      exact ⟨index + 1, start, found, below, next⟩

/-- Every offset lies on a line, also past the end of the text. -/
theorem exists_onLine (text : String) (offset : Nat) :
    ∃ index start, OnLine text offset index start := by
  obtain ⟨index, start, found, reached, next⟩ :=
    exists_last_reached (startsAfter 0 text.toList) (Nat.zero_le offset)
  exact ⟨index, start, found, reached, next⟩

/-- Lines start in the order of their indices. -/
theorem start_le_of_index_le {lesser greater first second : Nat}
    (one : (startsOf text)[lesser]? = some first) (two : (startsOf text)[greater]? = some second)
    (order : lesser ≤ greater) : first ≤ second := by
  obtain ⟨lesserBound, rfl⟩ := List.getElem?_eq_some_iff.mp one
  obtain ⟨greaterBound, rfl⟩ := List.getElem?_eq_some_iff.mp two
  rcases Nat.eq_or_lt_of_le order with rfl | less
  · exact Nat.le_refl _
  · exact Nat.le_of_lt (List.pairwise_iff_getElem.mp (pairwise_startsOf text) lesser greater
      lesserBound greaterBound less)

/-- An offset has reached the lines up to its own and no others. -/
theorem OnLine.reached_iff (on : OnLine text offset index start)
    (present : (startsOf text)[otherIndex]? = some other) : other ≤ offset ↔ otherIndex ≤ index := by
  constructor
  · intro reached
    apply Nat.le_of_not_lt
    intro later
    have bound := (List.getElem?_eq_some_iff.mp present).1
    have successor := List.getElem?_eq_getElem (Nat.lt_of_le_of_lt later bound)
    have passed := on.next _ successor
    have order := start_le_of_index_le successor present later
    omega
  · intro order
    exact Nat.le_trans (start_le_of_index_le present on.found order) on.reached

/-- A later offset lies on a later line or on the same one. -/
theorem OnLine.index_le (one : OnLine text offset index start)
    (two : OnLine text other otherIndex otherStart) (order : offset ≤ other) :
    index ≤ otherIndex :=
  (two.reached_iff one.found).mp (Nat.le_trans one.reached order)

/-- As many lines start up to an offset as there are lines up to its own. -/
theorem OnLine.countP_startsOf (on : OnLine text offset index start) :
    (startsOf text).countP (· ≤ offset) = index + 1 := by
  have bound := (List.getElem?_eq_some_iff.mp on.found).1
  have upTo : ((startsOf text).take (index + 1)).countP (· ≤ offset) = index + 1 := by
    have all : ((startsOf text).take (index + 1)).countP (· ≤ offset) =
        ((startsOf text).take (index + 1)).length := by
      refine List.countP_eq_length.mpr fun earlier member => decide_eq_true ?_
      obtain ⟨place, below, rfl⟩ := List.mem_take_iff_getElem.mp member
      exact (on.reached_iff (List.getElem?_eq_getElem _)).mpr (by omega)
    rw [all, List.length_take_of_le bound]
  have after : ((startsOf text).drop (index + 1)).countP (· ≤ offset) = 0 := by
    refine List.countP_eq_zero.mpr fun later member => ?_
    obtain ⟨place, below, rfl⟩ := List.mem_drop_iff_getElem.mp member
    rw [decide_eq_true_eq, on.reached_iff (List.getElem?_eq_getElem _)]
    omega
  rw [← List.take_append_drop (index + 1) (startsOf text), List.countP_append, upTo, after]

/-- An offset past the end of the text lies on the last line. -/
theorem OnLine.index_of_past (on : OnLine text offset index start)
    (past : text.utf8ByteSize ≤ offset) : index + 1 = (startsOf text).length := by
  have bound := (List.getElem?_eq_some_iff.mp on.found).1
  have last := List.getElem?_eq_getElem
    (show (startsOf text).length - 1 < (startsOf text).length by omega)
  have within := le_of_mem_startsOf (List.mem_of_getElem? last)
  have upTo := (on.reached_iff last).mp (Nat.le_trans within past)
  omega

end Lines

section Positions

/-- No step of looking an offset up can fail: the offset would not be put in before the first start,
the index is one of the table, the start there is not past the offset, and 32 bits hold the number of
the line. -/
structure LooksUp (map : LineMap) (offset : UInt32) (index : Nat) (start : UInt32) : Prop where
  inserted : map.search offset ≠ .missing 0
  line : map.lineIndex? offset = some index
  listed : map.starts[index]? = some start
  reached : start ≤ offset
  counted : index + 1 < UInt32.size

/-- The position counts the starts up to the offset, and the bytes from the greatest of them. -/
structure Counts (map : LineMap) (offset : UInt32) (position : Position) : Prop where
  line : position.line.toNat = map.starts.countP (· ≤ offset)
  column : ∃ start ∈ map.starts, start ≤ offset ∧
    (∀ other ∈ map.starts, other ≤ offset → other ≤ start) ∧
    start.toNat + position.column.toNat = offset.toNat

theorem LooksUp.position? {map : LineMap} {offset : UInt32} {index : Nat} {start : UInt32}
    (looksUp : LooksUp map offset index start) :
    map.position? offset = some ⟨UInt32.ofNat (index + 1), offset - start⟩ := by
  simp only [LineMap.position?, looksUp.line, looksUp.listed, Option.bind_eq_bind,
    Option.bind_some, looksUp.reached, looksUp.counted, and_self, if_true]

variable {text : String} {offset : UInt32} {index start : Nat}

theorem toNat_start (short : Short text) (found : (startsOf text)[index]? = some start) :
    (UInt32.ofNat start).toNat = start := by
  have within := le_of_mem_startsOf (List.mem_of_getElem? found)
  have size : UInt32.size = 0x100000000 := rfl
  rw [Short] at short
  exact UInt32.toNat_ofNat_of_lt' (by omega)

/-- The lookup finds the line that the offset lies on. -/
theorem OnLine.looksUp (on : OnLine text offset.toNat index start) (short : Short text) :
    LooksUp (ofText text) offset index (UInt32.ofNat start) := by
  have listed : (ofText text).starts[index]? = some (UInt32.ofNat start) := by
    rw [getElem?_ofText, on.found]
    rfl
  have reached : UInt32.ofNat start ≤ offset := by
    rw [UInt32.le_iff_toNat_le, toNat_start short on.found]
    exact on.reached
  have line : (ofText text).lineIndex? offset = some index := by
    apply lineIndex?_eq_some (increasing_ofText short) listed reached
    intro later present
    exact UInt32.lt_iff_toNat_lt.mpr (on.next _ (toNat_of_getElem?_ofText short present))
  refine ⟨?_, line, listed, reached, ?_⟩
  · intro before
    rw [lineIndex?, before] at line
    exact absurd line (by simp)
  · have within := le_of_mem_startsOf (List.mem_of_getElem? on.found)
    have count := index_le_of_startsOf on.found
    have size : UInt32.size = 0x100000000 := rfl
    rw [Short] at short
    omega

/-- The position of an offset is on its line, as far into it as it is past the start. -/
theorem OnLine.position? (on : OnLine text offset.toNat index start) (short : Short text) :
    ∃ position, (ofText text).position? offset = some position ∧
      position.line.toNat = index + 1 ∧ position.column.toNat = offset.toNat - start := by
  have looksUp := on.looksUp short
  refine ⟨_, looksUp.position?, UInt32.toNat_ofNat_of_lt' looksUp.counted, ?_⟩
  rw [UInt32.toNat_sub_of_le _ _ looksUp.reached, toNat_start short on.found]

theorem countP_starts_ofText (short : Short text) (offset : UInt32) :
    (ofText text).starts.countP (· ≤ offset) = (startsOf text).countP (· ≤ offset.toNat) := by
  rw [← Array.countP_toList, ← map_toNat_starts short, List.countP_map]
  refine List.countP_congr fun start _ => ?_
  simp only [Function.comp_apply, decide_eq_true_eq, UInt32.le_iff_toNat_le]

/-- The line of an offset starts at the greatest start that the offset has reached. -/
theorem OnLine.le_start (on : OnLine text offset.toNat index start) (short : Short text)
    {other : UInt32} (member : other ∈ (ofText text).starts) (reached : other ≤ offset) :
    other ≤ UInt32.ofNat start := by
  obtain ⟨otherIndex, listed⟩ := Array.mem_iff_getElem?.mp member
  have present := toNat_of_getElem?_ofText short listed
  have upTo := (on.reached_iff present).mp (UInt32.le_iff_toNat_le.mp reached)
  rw [UInt32.le_iff_toNat_le, toNat_start short on.found]
  exact start_le_of_index_le present on.found upTo

/-- Looking an offset up never fails, also past the end of the text. The line is the number of starts
up to the offset and the column its distance from the greatest of them, so an offset past the end is
on the last line. -/
theorem position?_ofText_total {text : String} (short : Short text) (offset : UInt32) :
    ∃ index start position, LooksUp (ofText text) offset index start ∧
      (ofText text).position? offset = some position ∧
      (ofText text).position offset = position ∧ Counts (ofText text) offset position ∧
      (text.utf8ByteSize ≤ offset.toNat → position.line.toNat = (ofText text).lineCount) := by
  obtain ⟨index, start, on⟩ := exists_onLine text offset.toNat
  obtain ⟨position, looked, line, column⟩ := on.position? short
  have looksUp := on.looksUp short
  refine ⟨index, _, position, looksUp, looked, ?_, ⟨?_, _, ?_, looksUp.reached, ?_, ?_⟩, ?_⟩
  · rw [LineMap.position, looked, Option.getD_some]
  · rw [line, countP_starts_ofText short, on.countP_startsOf]
  · exact Array.mem_of_getElem? looksUp.listed
  · exact fun other member => on.le_start short member
  · rw [column, toNat_start short on.found]
    exact Nat.add_sub_cancel' on.reached
  · intro past
    rw [line, on.index_of_past past, ← map_toNat_starts short, List.length_map, Array.length_toList,
      lineCount]

/-- An offset inside the first line ending, and the farthest one past the end. -/
theorem position?_ofText_total_mixedEndings :
    Short "é\r\n\ry\n" ∧
      (∃ position, (ofText "é\r\n\ry\n").position? 3 = some position ∧
        Counts (ofText "é\r\n\ry\n") 3 position) ∧
      ∃ position, (ofText "é\r\n\ry\n").position? 0xffffffff = some position ∧
        position.line.toNat = (ofText "é\r\n\ry\n").lineCount := by
  have short : Short "é\r\n\ry\n" := by decide +kernel
  obtain ⟨_, _, inside, _, looked, _, counts, _⟩ := position?_ofText_total short 3
  obtain ⟨_, _, beyond, _, found, _, _, last⟩ := position?_ofText_total short 0xffffffff
  exact ⟨short, ⟨inside, looked, counts⟩, beyond, found, last (by decide +kernel)⟩

end Positions

end DiagnosticReplay.Source.LineMap
