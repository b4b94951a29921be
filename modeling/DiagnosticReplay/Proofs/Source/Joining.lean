import DiagnosticReplay.Proofs.Source.Lookup

/-! # Joining texts

The scan for line starts looks at most one character ahead, so a text can be cut anywhere but inside a
line ending of two characters: the starts of the whole are those of the first part and then, counted
on from its end, those of the second. An offset in the first part therefore keeps its position, and
one in the second part is found from its own position and that of the end of the first part. Where the
cut goes through an ending, the offsets before the cut still keep their positions.
-/

namespace DiagnosticReplay.Source

/-- A cut between the texts goes through a line ending of two characters. -/
def CutsEnding (first second : List Char) : Prop :=
  first.getLast? = some '\r' ∧ second.head? = some '\n'

instance (first second : List Char) : Decidable (CutsEnding first second) :=
  inferInstanceAs (Decidable (_ ∧ _))

/-- A cut that goes through no ending goes through none after the first character either. -/
theorem not_cutsEnding_tail {character : Char} {first second : List Char}
    (whole : ¬CutsEnding (character :: first) second) : ¬CutsEnding first second := by
  rintro ⟨returns, feeds⟩
  refine whole ⟨?_, feeds⟩
  rw [List.getLast?_cons, returns, Option.getD_some]

/-- The position is the one that is reached from the end of a text by going on in another: the lines
add up, and on the line on which the texts meet the columns do. -/
structure Position.Continues (last inner joined : Position) : Prop where
  counted : 1 ≤ inner.line
  first : inner.line = 1 →
    joined.line = last.line ∧ joined.column.toNat = last.column.toNat + inner.column.toNat
  later : 1 < inner.line →
    joined.line.toNat = last.line.toNat + inner.line.toNat - 1 ∧ joined.column = inner.column

namespace LineMap

section Scan

variable {first second : List Char}

/-- A pair that begins in the first of two texts lies in it as a whole. -/
theorem not_pair_append {character : Char} (whole : ¬CutsEnding (character :: first) second)
    (notPair : ∀ tail, character = '\r' → first = '\n' :: tail → False) :
    ∀ tail, character = '\r' → first ++ second = '\n' :: tail → False := by
  rintro tail rfl joined
  cases first with
  | nil => exact whole ⟨rfl, List.head?_eq_some_iff.mpr ⟨tail, joined⟩⟩
  | cons next rest =>
    rw [List.cons_append, List.cons.injEq] at joined
    exact notPair rest rfl (by rw [joined.1])

/-- The scan of a text goes on after its first part as if that were all there is. -/
theorem startsAfter_append (whole : ¬CutsEnding first second) (offset : Nat) :
    startsAfter offset (first ++ second) =
      startsAfter offset first ++ startsAfter (offset + byteCount first) second := by
  fun_induction startsAfter offset first with
  | case1 => rfl
  | case2 offset rest ih =>
    have size : byteCount ('\r' :: '\n' :: rest) = 2 + byteCount rest :=
      byteCount_append ['\r', '\n'] rest
    have later := ih (not_cutsEnding_tail (not_cutsEnding_tail whole))
    rw [List.cons_append, List.cons_append, startsAfter, later, size, Nat.add_assoc,
      List.cons_append]
  | case3 offset character rest notPair next ends ih =>
    rw [List.cons_append, startsAfter, if_pos ends, ih (not_cutsEnding_tail whole), byteCount,
      ← Nat.add_assoc, List.cons_append]
    exact not_pair_append whole notPair
  | case4 offset character rest notPair next plain ih =>
    rw [List.cons_append, startsAfter, if_neg plain, ih (not_cutsEnding_tail whole), byteCount,
      ← Nat.add_assoc]
    exact not_pair_append whole notPair

/-- A text that begins at a later byte has the same starts that much later. -/
theorem startsAfter_add (shift offset : Nat) (text : List Char) :
    startsAfter (shift + offset) text = (startsAfter offset text).map (shift + ·) := by
  fun_induction startsAfter offset text with
  | case1 => rfl
  | case2 offset rest ih =>
    rw [startsAfter, List.map_cons, Nat.add_assoc, ih]
  | case3 offset character rest notPair next ends ih =>
    rw [startsAfter, if_pos ends, List.map_cons, Nat.add_assoc, ih]
    exact notPair
  | case4 offset character rest notPair next plain ih =>
    rw [startsAfter, if_neg plain, Nat.add_assoc, ih]
    exact notPair

end Scan

section Lines

variable {first second : String} {offset index start lastIndex lastStart : Nat}

/-- The starts of two texts in a row, as long as the cut goes through no ending. -/
theorem startsOf_append (whole : ¬CutsEnding first.toList second.toList) :
    startsOf (first ++ second) =
      startsOf first ++ (startsAfter 0 second.toList).map (first.utf8ByteSize + ·) := by
  rw [startsOf, String.toList_append, startsAfter_append whole, byteCount_toList, Nat.zero_add,
    ← startsAfter_add, Nat.add_zero, startsOf, List.cons_append]

/-- The lines of the second text after its first come after the lines of the first text. -/
theorem getElem?_startsOf_append (whole : ¬CutsEnding first.toList second.toList) (index : Nat) :
    (startsOf (first ++ second))[(startsOf first).length + index]? =
      (startsOf second)[index + 1]?.map (first.utf8ByteSize + ·) := by
  rw [startsOf_append whole, List.getElem?_append_right (Nat.le_add_right _ _),
    Nat.add_sub_cancel_left, List.getElem?_map]
  rfl

/-- An offset up to the end of the first text lies on the line on which it lies there. -/
theorem OnLine.append (on : OnLine first offset index start)
    (whole : ¬CutsEnding first.toList second.toList) (inside : offset ≤ first.utf8ByteSize) :
    OnLine (first ++ second) offset index start where
  found := by
    have bound := (List.getElem?_eq_some_iff.mp on.found).1
    rw [startsOf_append whole, List.getElem?_append_left bound, on.found]
  reached := on.reached
  next := by
    intro later present
    by_cases more : index + 1 < (startsOf first).length
    · rw [startsOf_append whole, List.getElem?_append_left more] at present
      exact on.next later present
    · rw [startsOf_append whole, List.getElem?_append_right (Nat.le_of_not_lt more)] at present
      obtain ⟨inner, member, rfl⟩ := List.mem_map.mp (List.mem_of_getElem? present)
      have positive := lt_of_mem_startsAfter member
      omega

/-- An offset on the first line of the second text lies on the last line of the first. -/
theorem OnLine.append_first (last : OnLine first first.utf8ByteSize lastIndex lastStart)
    (on : OnLine second offset 0 start) (whole : ¬CutsEnding first.toList second.toList) :
    OnLine (first ++ second) (first.utf8ByteSize + offset) lastIndex lastStart where
  found := (last.append whole (Nat.le_refl _)).found
  reached := Nat.le_add_right_of_le last.reached
  next := by
    intro later present
    have count : lastIndex + 1 = (startsOf first).length + 0 := last.index_of_past (Nat.le_refl _)
    rw [count, getElem?_startsOf_append whole] at present
    obtain ⟨inner, found, rfl⟩ := Option.map_eq_some_iff.mp present
    exact Nat.add_lt_add_left (on.next inner found) _

/-- An offset on a later line of the second text lies that many lines further down. -/
theorem OnLine.append_later (last : OnLine first first.utf8ByteSize lastIndex lastStart)
    (on : OnLine second offset (index + 1) start)
    (whole : ¬CutsEnding first.toList second.toList) :
    OnLine (first ++ second) (first.utf8ByteSize + offset) (lastIndex + 1 + index)
      (first.utf8ByteSize + start) where
  found := by
    rw [last.index_of_past (Nat.le_refl _), getElem?_startsOf_append whole, on.found,
      Option.map_some]
  reached := Nat.add_le_add_left on.reached _
  next := by
    intro later present
    rw [last.index_of_past (Nat.le_refl _), Nat.add_assoc, getElem?_startsOf_append whole] at present
    obtain ⟨inner, found, rfl⟩ := Option.map_eq_some_iff.mp present
    exact Nat.add_lt_add_left (on.next inner found) _

/-- An offset before the end of the first text lies on one line there and in both texts together, also
where the cut goes through an ending. -/
theorem exists_onLine_both (second : String) (inside : offset < first.utf8ByteSize) :
    ∃ index start, OnLine first offset index start ∧
      OnLine (first ++ second) offset index start := by
  by_cases cut : CutsEnding first.toList second.toList
  · -- the part before the carriage return ends in neither text with a cut ending
    obtain ⟨before, same⟩ := List.getLast?_eq_some_iff.mp cut.1
    have split : first = String.ofList before ++ "\r" :=
      String.toList_inj.mp (by rw [same, String.toList_append, String.toList_ofList]; rfl)
    have size : first.utf8ByteSize = (String.ofList before).utf8ByteSize + 1 := by
      rw [split, String.utf8ByteSize_append]
      rfl
    obtain ⟨index, start, on⟩ := exists_onLine (String.ofList before) offset
    refine ⟨index, start, ?_, ?_⟩
    · rw [split]
      refine on.append ?_ (by omega)
      exact fun cuts => absurd cuts.2 (by decide)
    · rw [split, String.append_assoc]
      refine on.append ?_ (by omega)
      rintro ⟨-, feeds⟩
      rw [String.toList_append] at feeds
      exact absurd (Option.some.inj feeds) (by decide)
  · obtain ⟨index, start, on⟩ := exists_onLine first offset
    exact ⟨index, start, on, on.append cut (Nat.le_of_lt inside)⟩

end Lines

section Positions

variable {first second : String}

theorem short_left (short : Short (first ++ second)) : Short first := by
  rw [Short, String.utf8ByteSize_append] at short
  rw [Short]
  omega

theorem short_right (short : Short (first ++ second)) : Short second := by
  rw [Short, String.utf8ByteSize_append] at short
  rw [Short]
  omega

/-- An offset before the end of the first text has one position there and in both texts together. -/
theorem position?_append_left (short : Short (first ++ second)) {offset : UInt32}
    (inside : offset.toNat < first.utf8ByteSize) :
    ∃ position, (ofText first).position? offset = some position ∧
      (ofText (first ++ second)).position? offset = some position := by
  obtain ⟨index, start, on, onBoth⟩ := exists_onLine_both second inside
  exact ⟨_, (on.looksUp (short_left short)).position?, (onBoth.looksUp short).position?⟩

/-- The position of an offset in the second text continues that of the end of the first. -/
theorem position?_append_right (short : Short (first ++ second))
    (whole : ¬CutsEnding first.toList second.toList) {last offset joined : UInt32}
    (isLast : last.toNat = first.utf8ByteSize)
    (isJoined : joined.toNat = first.utf8ByteSize + offset.toNat) :
    ∃ atEnd inner outer, (ofText first).position? last = some atEnd ∧
      (ofText second).position? offset = some inner ∧
      (ofText (first ++ second)).position? joined = some outer ∧
      Position.Continues atEnd inner outer := by
  obtain ⟨lastIndex, lastStart, onLast⟩ := exists_onLine first last.toNat
  obtain ⟨index, start, on⟩ := exists_onLine second offset.toNat
  obtain ⟨atEnd, isAtEnd, lastLine, lastColumn⟩ := onLast.position? (short_left short)
  obtain ⟨inner, isInner, line, column⟩ := on.position? (short_right short)
  have one : (1 : UInt32).toNat = 1 := rfl
  have counted : 1 ≤ inner.line := UInt32.le_iff_toNat_le.mpr (by omega)
  have lastReached := onLast.reached
  rw [isLast] at onLast
  cases index with
  | zero =>
    have onBoth := onLast.append_first on whole
    rw [← isJoined] at onBoth
    obtain ⟨outer, isOuter, outerLine, outerColumn⟩ := onBoth.position? short
    have atStart : 0 = start := Option.some.inj on.found
    refine ⟨atEnd, inner, outer, isAtEnd, isInner, isOuter, counted, fun _ => ⟨?_, ?_⟩, ?_⟩
    · exact UInt32.toNat_inj.mp (outerLine.trans lastLine.symm)
    · omega
    · intro further
      have beyond := UInt32.lt_iff_toNat_lt.mp further
      omega
  | succ index =>
    have onBoth := onLast.append_later on whole
    rw [← isJoined] at onBoth
    obtain ⟨outer, isOuter, outerLine, outerColumn⟩ := onBoth.position? short
    refine ⟨atEnd, inner, outer, isAtEnd, isInner, isOuter, counted, ?_, fun _ => ⟨?_, ?_⟩⟩
    · intro onFirst
      have isFirst := congrArg UInt32.toNat onFirst
      omega
    · omega
    · exact UInt32.toNat_inj.mp (by omega)

/-- The table of two texts in a row, in the words of their own tables. -/
theorem toNat_starts_append (short : Short (first ++ second))
    (whole : ¬CutsEnding first.toList second.toList) :
    (ofText (first ++ second)).starts.toList.map UInt32.toNat =
      (ofText first).starts.toList.map UInt32.toNat ++
        (((ofText second).starts.toList.map UInt32.toNat).filter (· ≠ 0)).map
          (first.utf8ByteSize + ·) := by
  have nonzero : (startsOf second).filter (· ≠ 0) = startsAfter 0 second.toList := by
    rw [startsOf, List.filter_cons_of_neg (by decide), List.filter_eq_self]
    exact fun start member => decide_eq_true (Nat.ne_of_gt (lt_of_mem_startsAfter member))
  rw [map_toNat_starts short, map_toNat_starts (short_left short),
    map_toNat_starts (short_right short), nonzero, startsOf_append whole]

/-- Line maps compose. The offsets before the end of the first of two texts keep their positions when
the second is put after it. Unless a line ending is cut, the starts are those of the first text and
the others of the second moved on, and every offset of the second text, past its end too, is found
from its position there and that of the end of the first. -/
theorem position?_append {first second : String} (short : Short (first ++ second)) :
    (∀ offset : UInt32, offset.toNat < first.utf8ByteSize →
      ∃ position, (ofText first).position? offset = some position ∧
        (ofText (first ++ second)).position? offset = some position) ∧
    (¬CutsEnding first.toList second.toList →
      (ofText (first ++ second)).starts.toList.map UInt32.toNat =
        (ofText first).starts.toList.map UInt32.toNat ++
          (((ofText second).starts.toList.map UInt32.toNat).filter (· ≠ 0)).map
            (first.utf8ByteSize + ·) ∧
      ∀ last offset joined : UInt32, last.toNat = first.utf8ByteSize →
        joined.toNat = first.utf8ByteSize + offset.toNat →
        ∃ atEnd inner outer, (ofText first).position? last = some atEnd ∧
          (ofText second).position? offset = some inner ∧
          (ofText (first ++ second)).position? joined = some outer ∧
          Position.Continues atEnd inner outer) := by
  refine ⟨fun offset inside => position?_append_left short inside, fun whole => ⟨?_, ?_⟩⟩
  · exact toNat_starts_append short whole
  · intro last offset joined isLast isJoined
    exact position?_append_right short whole isLast isJoined

/-- An offset inside the last line of the first text, one on the line where the texts meet, and one
past the end of both. -/
theorem position?_append_meeting :
    Short ("é\r\nx" ++ "y\n\rz") ∧ ¬CutsEnding "é\r\nx".toList "y\n\rz".toList ∧
      (∃ position, (ofText "é\r\nx").position? 3 = some position ∧
        (ofText "é\r\nxy\n\rz").position? 3 = some position) ∧
      (∃ atEnd inner outer, (ofText "é\r\nx").position? 5 = some atEnd ∧
        (ofText "y\n\rz").position? 1 = some inner ∧
        (ofText "é\r\nxy\n\rz").position? 6 = some outer ∧ atEnd.Continues inner outer) ∧
      ∃ atEnd inner outer, (ofText "é\r\nx").position? 5 = some atEnd ∧
        (ofText "y\n\rz").position? 0xfffffffa = some inner ∧
        (ofText "é\r\nxy\n\rz").position? 0xffffffff = some outer ∧
        atEnd.Continues inner outer := by
  have short : Short ("é\r\nx" ++ "y\n\rz") := by decide +kernel
  have whole : ¬CutsEnding "é\r\nx".toList "y\n\rz".toList := by decide +kernel
  obtain ⟨before, after⟩ := position?_append short
  obtain ⟨-, places⟩ := after whole
  refine ⟨short, whole, before 3 (by decide +kernel), ?_, ?_⟩
  · exact places 5 1 6 (by decide +kernel) (by decide +kernel)
  · exact places 5 0xfffffffa 0xffffffff (by decide +kernel) (by decide +kernel)

end Positions

end LineMap

end DiagnosticReplay.Source
