import DiagnosticReplay.Proofs.Source.Lookup
import Mathlib.Data.List.Chain

/-! # Line endings

A text is put together from lines and from what ends each of them but the last. Every line starts
right after the ending before it, so the position of a character depends on the line it stands in
and on its place there, and not on how lines end. A carriage return and a line feed side by side are
one ending, which is why an empty line that a line feed ends must not follow a carriage return.
-/

namespace DiagnosticReplay.Source

/-- The three ways to end a line. -/
inductive LineEnding where
  | lineFeed
  | carriageReturn
  /-- A carriage return with a line feed after it. -/
  | both
deriving DecidableEq, Repr

/-- The characters of a line ending. -/
def LineEnding.text : LineEnding → String
  | lineFeed => "\n"
  | carriageReturn => "\r"
  | both => "\r\n"

/-- Lines and their endings one after the other. -/
def writeLines (ended : List (String × LineEnding)) : String :=
  String.join (ended.map fun line => line.1 ++ line.2.text)

/-- A line holds none of the characters that end lines. -/
def Plain (line : String) : Prop :=
  ∀ character ∈ line.toList, character ≠ '\n' ∧ character ≠ '\r'

/-- A line feed that ends the empty line `next` would belong to the ending of `line`. -/
def Merges (line next : String × LineEnding) : Prop :=
  line.2 = .carriageReturn ∧ next.1 = "" ∧ next.2 = .lineFeed

/-- Lines, all but the last with an ending. -/
structure Lines where
  ended : List (String × LineEnding)
  last : String
  plain : ∀ line ∈ ended.map Prod.fst ++ [last], Plain line
  /-- No two endings are read as one. -/
  apart : ended.IsChain fun line next => ¬ Merges line next

namespace Lines

/-- The lines without their endings. -/
def contents (lines : Lines) : List String :=
  lines.ended.map Prod.fst ++ [lines.last]

/-- The text that the lines make up. -/
def text (lines : Lines) : String :=
  writeLines lines.ended ++ lines.last

/-- The number of bytes before the line with an index. -/
def startOf (lines : Lines) (index : Nat) : Nat :=
  (writeLines (lines.ended.take index)).utf8ByteSize

end Lines

theorem writeLines_cons (line : String × LineEnding) (rest : List (String × LineEnding)) :
    writeLines (line :: rest) = line.1 ++ line.2.text ++ writeLines rest := by
  rw [writeLines, List.map_cons, String.join_cons]
  rfl

theorem utf8ByteSize_writeLines_cons (line : String × LineEnding)
    (rest : List (String × LineEnding)) :
    (writeLines (line :: rest)).utf8ByteSize =
      line.1.utf8ByteSize + line.2.text.utf8ByteSize + (writeLines rest).utf8ByteSize := by
  rw [writeLines_cons, String.utf8ByteSize_append, String.utf8ByteSize_append]

theorem writeLines_append (first second : List (String × LineEnding)) :
    writeLines (first ++ second) = writeLines first ++ writeLines second := by
  rw [writeLines, List.map_append, String.join_append]
  rfl

namespace LineMap

/-- Characters that end no line start none. -/
theorem startsAfter_append_of_plain {line rest : List Char}
    (plain : ∀ character ∈ line, character ≠ '\n' ∧ character ≠ '\r') (offset : Nat) :
    startsAfter offset (line ++ rest) = startsAfter (offset + byteCount line) rest := by
  induction line generalizing offset with
  | nil => rfl
  | cons character line ih =>
    obtain ⟨notFeed, notReturn⟩ := plain character (List.mem_cons_self ..)
    have others : ∀ other ∈ line, other ≠ '\n' ∧ other ≠ '\r' :=
      fun other member => plain other (List.mem_cons_of_mem _ member)
    rw [List.cons_append, startsAfter]
    · simp only [notFeed, notReturn, or_self, if_false]
      rw [ih others, byteCount, Nat.add_assoc]
    · intro tail same
      exact absurd same notReturn

/-- After an ending a line starts, unless the ending goes on in the rest. -/
theorem startsAfter_ending (ending : LineEnding) {rest : List Char}
    (whole : ending = .carriageReturn → rest.head? ≠ some '\n') (offset : Nat) :
    startsAfter offset (ending.text.toList ++ rest) =
      (offset + ending.text.utf8ByteSize) ::
        startsAfter (offset + ending.text.utf8ByteSize) rest := by
  cases ending with
  | lineFeed => rfl
  | both => rfl
  | carriageReturn =>
    have alone : ∀ tail, rest = '\n' :: tail → False := by
      rintro tail rfl
      exact whole rfl rfl
    have start : startsAfter offset ('\r' :: rest) =
        (offset + '\r'.utf8Size) :: startsAfter (offset + '\r'.utf8Size) rest := by
      rw [startsAfter]
      · simp
      · intro tail _ same
        exact alone tail same
    exact start

end LineMap

/-- What follows a carriage return that ends a line does not start with a line feed. -/
theorem head?_writeLines {line : String × LineEnding} {rest : List (String × LineEnding)}
    {last : String} (plain : ∀ other ∈ rest.map Prod.fst ++ [last], Plain other)
    (apart : (line :: rest).IsChain fun line next => ¬ Merges line next)
    (returns : line.2 = .carriageReturn) :
    (writeLines rest ++ last).toList.head? ≠ some '\n' := by
  intro feed
  cases rest with
  | nil =>
    have first : last.toList.head? = some '\n' := by simpa [writeLines] using feed
    have isPlain := plain last (by simp)
    exact (isPlain '\n' (List.mem_of_head? first)).1 rfl
  | cons next rest =>
    have notMerged := (List.isChain_cons_cons.mp apart).1
    rw [writeLines_cons, String.toList_append, String.toList_append, String.toList_append] at feed
    cases characters : next.1.toList with
    | nil =>
      have empty : next.1 = "" := String.toList_inj.mp characters
      rw [characters] at feed
      cases ending : next.2 with
      | lineFeed => exact notMerged ⟨returns, empty, ending⟩
      | carriageReturn => simp [ending, LineEnding.text] at feed
      | both => simp [ending, LineEnding.text] at feed
    | cons character others =>
      rw [characters] at feed
      have first : character = '\n' := by simpa using feed
      have isPlain := plain next.1 (by simp)
      exact (isPlain character (characters ▸ List.mem_cons_self ..)).1 first

/-- The starts that some lines and a last one give, from an offset on. -/
theorem startsAfter_writeLines {ended : List (String × LineEnding)} {last : String}
    (plain : ∀ line ∈ ended.map Prod.fst ++ [last], Plain line)
    (apart : ended.IsChain fun line next => ¬ Merges line next) (offset : Nat) :
    LineMap.startsAfter offset (writeLines ended ++ last).toList =
      (List.range ended.length).map fun index =>
        offset + (writeLines (ended.take (index + 1))).utf8ByteSize := by
  induction ended generalizing offset with
  | nil =>
    have isPlain := plain last (by simp)
    have none : LineMap.startsAfter offset (last.toList ++ []) = _ :=
      LineMap.startsAfter_append_of_plain isPlain offset
    simpa [writeLines, LineMap.startsAfter] using none
  | cons line rest ih =>
    have linePlain : Plain line.1 := plain line.1 (by simp)
    have restPlain : ∀ other ∈ rest.map Prod.fst ++ [last], Plain other :=
      fun other member => plain other (List.mem_cons_of_mem _ member)
    have split : (writeLines (line :: rest) ++ last).toList =
        line.1.toList ++ (line.2.text.toList ++ (writeLines rest ++ last).toList) := by
      simp [writeLines_cons]
    rw [split, LineMap.startsAfter_append_of_plain linePlain,
      LineMap.startsAfter_ending line.2 (head?_writeLines restPlain apart),
      ih restPlain apart.tail, byteCount_toList, List.length_cons, List.range_succ_eq_map,
      List.map_cons, List.map_map]
    refine congrArg₂ List.cons ?_ (List.map_congr_left fun index _ => ?_)
    · rw [List.take_succ_cons, List.take_zero, utf8ByteSize_writeLines_cons, ← Nat.add_assoc,
        ← Nat.add_assoc]
      rfl
    · simp only [Function.comp_apply, List.take_succ_cons, utf8ByteSize_writeLines_cons,
        Nat.add_assoc]

namespace Lines

variable {lines : Lines} {index : Nat} {line : String}

/-- The table of the text holds the start of each line and nothing else. -/
theorem startsOf_text (lines : Lines) :
    LineMap.startsOf lines.text = (List.range lines.contents.length).map lines.startOf := by
  have count : lines.contents.length = lines.ended.length + 1 := by simp [contents]
  rw [LineMap.startsOf, text, startsAfter_writeLines lines.plain lines.apart, count,
    List.range_succ_eq_map, List.map_cons, List.map_map]
  refine congrArg₂ List.cons rfl (List.map_congr_left fun index _ => ?_)
  exact Nat.zero_add _

theorem startsOf_text_getElem? (lines : Lines) (index : Nat) :
    (LineMap.startsOf lines.text)[index]? =
      if index < lines.contents.length then some (lines.startOf index) else none := by
  rw [startsOf_text, List.getElem?_map]
  split
  · rename_i bound
    rw [List.getElem?_range bound]
    rfl
  · rename_i beyond
    rw [List.getElem?_eq_none (by simpa using beyond)]
    rfl

theorem ending_pos (ending : LineEnding) : 0 < ending.text.utf8ByteSize := by
  cases ending <;> decide

/-- A line but the last is followed by its ending, and then by the start of the next one. -/
theorem startOf_succ (found : lines.contents[index]? = some line)
    (more : index < lines.ended.length) :
    lines.startOf index + line.utf8ByteSize < lines.startOf (index + 1) := by
  have known : lines.ended[index]? = some lines.ended[index] := List.getElem?_eq_getElem more
  have same : lines.ended[index].1 = line := by
    rw [contents, List.getElem?_append_left (by simpa using more), List.getElem?_map,
      known] at found
    exact Option.some.inj found
  have positive := ending_pos lines.ended[index].2
  rw [startOf, startOf, List.take_add_one, known, Option.toList_some, writeLines_append,
    String.utf8ByteSize_append, utf8ByteSize_writeLines_cons, same]
  omega

/-- The last line comes up to the end of the text. -/
theorem startOf_last (found : lines.contents[index]? = some line)
    (last : ¬ index < lines.ended.length) :
    lines.startOf index + line.utf8ByteSize = lines.text.utf8ByteSize := by
  have bound : index < lines.contents.length := (List.getElem?_eq_some_iff.mp found).1
  have place : index = lines.ended.length := by
    simp only [contents, List.length_append, List.length_map, List.length_singleton] at bound
    omega
  have same : lines.last = line := by
    rw [contents, place, List.getElem?_append_right (by simp)] at found
    simpa using found
  rw [startOf, text, place, List.take_length, String.utf8ByteSize_append, same]

/-- No place in a line lies past the end of the text. -/
theorem startOf_add_le (found : lines.contents[index]? = some line) :
    lines.startOf index + line.utf8ByteSize ≤ lines.text.utf8ByteSize := by
  by_cases more : index < lines.ended.length
  · have next : (LineMap.startsOf lines.text)[index + 1]? = some (lines.startOf (index + 1)) := by
      rw [startsOf_text_getElem?, if_pos (by simpa [contents] using more)]
    have within := LineMap.le_of_mem_startsOf (List.mem_of_getElem? next)
    have before := startOf_succ found more
    omega
  · exact Nat.le_of_eq (startOf_last found more)

/-- A place in a line is not reached by the next one. -/
theorem onLine_place (found : lines.contents[index]? = some line) {place : Nat}
    (inside : place ≤ line.utf8ByteSize) :
    LineMap.OnLine lines.text (lines.startOf index + place) index (lines.startOf index) where
  found := by rw [startsOf_text_getElem?, if_pos (List.getElem?_eq_some_iff.mp found).1]
  reached := Nat.le_add_right _ _
  next := by
    intro later next
    rw [startsOf_text_getElem?] at next
    split at next
    · rename_i more
      have after := startOf_succ found (by simpa [contents] using more)
      rw [← Option.some.inj next]
      omega
    · exact absurd next (by simp)

/-- The place of a character in a line decides its line and column, whatever ends the lines. -/
theorem position?_place (short : LineMap.Short lines.text)
    (found : lines.contents[index]? = some line) {place : Nat}
    (inside : place ≤ line.utf8ByteSize) :
    ∃ position,
      (LineMap.ofText lines.text).position? (UInt32.ofNat (lines.startOf index + place)) =
        some position ∧
      position.line.toNat = index + 1 ∧ position.column.toNat = place := by
  have size : UInt32.size = 0x100000000 := rfl
  have within := startOf_add_le found
  have bound : lines.text.utf8ByteSize < 0xffffffff := short
  have value : (UInt32.ofNat (lines.startOf index + place)).toNat = lines.startOf index + place :=
    UInt32.toNat_ofNat_of_lt' (by omega)
  have on := onLine_place found inside
  rw [← value] at on
  obtain ⟨position, looked, row, column⟩ := on.position? short
  exact ⟨position, looked, row, by omega⟩

/-- A text of lines has those lines, and each place in a line is found there. Lines that are ended
in other ways are found at the same positions. -/
theorem position?_independent_of_endings (lines : Lines) (short : LineMap.Short lines.text) :
    (LineMap.ofText lines.text).lineCount = lines.contents.length ∧
      ∀ index line, lines.contents[index]? = some line → ∀ place ≤ line.utf8ByteSize,
        (∃ position,
          (LineMap.ofText lines.text).position? (UInt32.ofNat (lines.startOf index + place)) =
            some position ∧
          position.line.toNat = index + 1 ∧ position.column.toNat = place) ∧
        ∀ other : Lines, other.contents = lines.contents → LineMap.Short other.text →
          (LineMap.ofText other.text).position? (UInt32.ofNat (other.startOf index + place)) =
            (LineMap.ofText lines.text).position? (UInt32.ofNat (lines.startOf index + place)) := by
  constructor
  · have count := congrArg List.length (startsOf_text lines)
    rw [List.length_map, List.length_range] at count
    rw [← count]
    simp [LineMap.lineCount, LineMap.ofText, LineMap.startsOf]
  · intro index line found place inside
    obtain ⟨position, looked, row, column⟩ := position?_place short found inside
    refine ⟨⟨position, looked, row, column⟩, ?_⟩
    intro other same otherShort
    obtain ⟨second, otherLooked, otherRow, otherColumn⟩ :=
      position?_place otherShort (same ▸ found) inside
    rw [looked, otherLooked]
    have rows : second.line = position.line := UInt32.toNat_inj.mp (otherRow.trans row.symm)
    have columns : second.column = position.column :=
      UInt32.toNat_inj.mp (otherColumn.trans column.symm)
    exact congrArg₂ (fun line column => some (Position.mk line column)) rows columns

/-- Lines with each of the three endings, an empty one and one outside ASCII among them. -/
def mixed : Lines where
  ended := [("é", .carriageReturn), ("", .both), ("b", .lineFeed)]
  last := ""
  plain := by simp [Plain]
  apart := by simp [Merges]

theorem position?_independent_of_endings_mixed :
    LineMap.Short mixed.text ∧ (LineMap.ofText mixed.text).lineCount = 4 ∧
      ∃ position, (LineMap.ofText mixed.text).position? (UInt32.ofNat (mixed.startOf 2 + 1)) =
        some position ∧ position.line.toNat = 3 ∧ position.column.toNat = 1 := by
  have short : LineMap.Short mixed.text := by decide +kernel
  obtain ⟨count, places⟩ := position?_independent_of_endings mixed short
  exact ⟨short, count, (places 2 "b" rfl 1 (by decide)).1⟩

end Lines

end DiagnosticReplay.Source
