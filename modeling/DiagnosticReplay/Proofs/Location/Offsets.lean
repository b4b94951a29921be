import DiagnosticReplay.Proofs.Formatter.Line
import DiagnosticReplay.Proofs.Source.Lookup

/-! # Offsets in printed locations

The location that is printed for an offset names the line that it lies on and how far into this line it
lies, so it gives the offset back, and a later offset is printed on a later line or further along the
same one. None of this depends on where the offset falls: inside a line ending, at a line start, or
past the end.
-/

namespace DiagnosticReplay

namespace Location

open Source LineMap

/-- A location is printed before another: on an earlier line, or earlier in the same line. -/
def Before (first second : Location) : Prop :=
  first.line < second.line ∨ first.line = second.line ∧ first.column < second.column

/-- The location that is printed for an offset in a script. -/
def ofOffset (script : Script) (offset : UInt32) : Location :=
  ofSpan (script.spanAt offset)

variable {script : Script} {index start : Nat}

theorem position?_spanAt (short : Short script.content) (offset : UInt32) :
    script.lineMap.position? offset = some (script.spanAt offset).position := by
  obtain ⟨index, start, on⟩ := exists_onLine script.content offset.toNat
  obtain ⟨position, found, -⟩ := on.position? short
  simp only [Script.spanAt, LineMap.position, script.lineMap_eq, found, Option.getD_some]

/-- The line and the column of a location count from one. -/
theorem ofOffset_of_onLine (short : Short script.content) {offset : UInt32}
    (on : OnLine script.content offset.toNat index start) :
    (ofOffset script offset).line.toNat = index + 1 ∧
      (ofOffset script offset).column = offset.toNat - start + 1 := by
  obtain ⟨position, found, line, column⟩ := on.position? short
  have looked := position?_spanAt short offset
  rw [script.lineMap_eq, found, Option.some.injEq] at looked
  simp only [ofOffset, ofSpan, ← looked]
  exact ⟨line, congrArg (· + 1) column⟩

/-- A later offset is printed at a later place. -/
theorem before_of_lt (short : Short script.content) {first second : UInt32}
    (order : first < second) : (ofOffset script first).Before (ofOffset script second) := by
  obtain ⟨index, start, one⟩ := exists_onLine script.content first.toNat
  obtain ⟨otherIndex, otherStart, two⟩ := exists_onLine script.content second.toNat
  obtain ⟨line, column⟩ := ofOffset_of_onLine short one
  obtain ⟨otherLine, otherColumn⟩ := ofOffset_of_onLine short two
  have less := UInt32.lt_iff_toNat_lt.mp order
  rcases Nat.eq_or_lt_of_le (one.index_le two (Nat.le_of_lt less)) with rfl | earlier
  · have sameStart : start = otherStart := Option.some.inj (one.found.symm.trans two.found)
    have reached := one.reached
    exact .inr ⟨UInt32.toNat_inj.mp (line.trans otherLine.symm), by omega⟩
  · exact .inl (UInt32.lt_iff_toNat_lt.mpr (by omega))

/-- The start of the printed line and the printed column give the offset back. -/
theorem start_add_column (short : Short script.content) (offset : UInt32) :
    ∃ start, script.lineMap.starts[(ofOffset script offset).line.toNat - 1]? = some start ∧
      start.toNat + ((ofOffset script offset).column - 1) = offset.toNat := by
  obtain ⟨index, start, on⟩ := exists_onLine script.content offset.toNat
  obtain ⟨line, column⟩ := ofOffset_of_onLine short on
  have reached := on.reached
  refine ⟨UInt32.ofNat start, ?_, by rw [toNat_start short on.found]; omega⟩
  rw [line, Nat.add_sub_cancel, script.lineMap_eq, (on.looksUp short).listed]

/-- Two offsets that are printed alike are one offset. -/
theorem eq_of_text_eq (short : Short script.content) {first second : UInt32}
    (same : (ofOffset script first).text = (ofOffset script second).text) : first = second := by
  obtain ⟨-, line, column⟩ := Formatter.location_inj (congrArg String.toList same)
  have sameColumn : (ofOffset script first).column = (ofOffset script second).column :=
    congrArg (fun column : UInt32 => column.toNat + 1) column
  have sameLine : (ofOffset script first).line = (ofOffset script second).line := line
  obtain ⟨start, found, sum⟩ := start_add_column short first
  obtain ⟨other, otherFound, otherSum⟩ := start_add_column short second
  rw [sameLine, otherFound, Option.some.injEq] at found
  exact UInt32.toNat_inj.mp (by rw [← sum, ← otherSum, sameColumn, found])

/-- Every offset of a script has a position. What is printed for it gives it back, and offsets are
printed in their order. -/
theorem ofOffset_determines (script : Script) (short : Short script.content) :
    (∀ first second, first < second →
        (ofOffset script first).Before (ofOffset script second) ∧
          (ofOffset script first).text ≠ (ofOffset script second).text) ∧
      ∀ offset, script.lineMap.position? offset = some (script.spanAt offset).position ∧
        (∃ start, script.lineMap.starts[(ofOffset script offset).line.toNat - 1]? = some start ∧
          start.toNat + ((ofOffset script offset).column - 1) = offset.toNat) ∧
        1 ≤ (ofOffset script offset).line ∧ 1 ≤ (ofOffset script offset).column ∧
        (ofOffset script offset).column ≤ offset.toNat + 1 := by
  constructor
  · intro first second order
    refine ⟨before_of_lt short order, fun same => ?_⟩
    exact UInt32.lt_irrefl second (eq_of_text_eq short same ▸ order)
  · intro offset
    obtain ⟨index, start, on⟩ := exists_onLine script.content offset.toNat
    obtain ⟨line, column⟩ := ofOffset_of_onLine short on
    refine ⟨position?_spanAt short offset, start_add_column short offset, ?_, by omega, by omega⟩
    exact UInt32.le_iff_toNat_le.mpr (line ▸ Nat.le_add_left 1 index)

/-- A script with all three line endings and a character of two bytes. -/
def threeEndings : Script :=
  .ofContent "/a.violet" "é\r\n\ry\n"

/-- The offset inside the first line ending is printed before the one that is farthest past the
end. -/
theorem ofOffset_determines_threeEndings :
    Short threeEndings.content ∧
      (ofOffset threeEndings 3).Before (ofOffset threeEndings 0xffffffff) ∧
      (ofOffset threeEndings 0xffffffff).column ≤ 0x100000000 := by
  have short : Short threeEndings.content := by decide +kernel
  obtain ⟨ordered, places⟩ := ofOffset_determines threeEndings short
  obtain ⟨-, -, -, -, width⟩ := places 0xffffffff
  exact ⟨short, (ordered 3 0xffffffff (by decide)).1, width⟩

end Location

end DiagnosticReplay
