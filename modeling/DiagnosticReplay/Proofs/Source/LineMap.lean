import DiagnosticReplay.Source.LineMap

/-! # Line tables and their search

The table of a text starts with zero and increases strictly, and none of its entries lies past the
end of the text, so 32 bits hold them all. Halving a strictly increasing table ends at the offset
itself or at the one place where the offset could be put in, so the search finds the line whose start
the offset has reached and whose successor it has not.
-/

namespace DiagnosticReplay.Source

/-- The number of bytes in which UTF-8 writes a text. -/
def byteCount : List Char → Nat
  | [] => 0
  | character :: rest => character.utf8Size + byteCount rest

@[simp] theorem byteCount_append (first second : List Char) :
    byteCount (first ++ second) = byteCount first + byteCount second := by
  induction first with
  | nil => simp [byteCount]
  | cons character rest ih => simp only [List.cons_append, byteCount, ih, Nat.add_assoc]

theorem byteCount_toList (text : String) : byteCount text.toList = text.utf8ByteSize := by
  have ofList (characters : List Char) :
      byteCount characters = (String.ofList characters).utf8ByteSize := by
    induction characters with
    | nil => rfl
    | cons character rest ih =>
      rw [byteCount, ih, ← String.utf8ByteSize_singleton, ← String.utf8ByteSize_append]
      congr 1
      exact String.toList_inj.mp (by simp)
  rw [ofList, String.ofList_toList]

namespace LineMap

section Table

theorem lt_of_mem_startsAfter {offset start : Nat} {text : List Char}
    (member : start ∈ startsAfter offset text) : offset < start := by
  fun_induction startsAfter offset text with
  | case1 => exact absurd member List.not_mem_nil
  | case2 offset rest ih =>
    rcases List.mem_cons.mp member with rfl | later
    · omega
    · have := ih later
      omega
  | case3 offset character rest _ next _ ih =>
    have size := character.utf8Size_pos
    rcases List.mem_cons.mp member with rfl | later
    · omega
    · have := ih later
      omega
  | case4 offset character rest _ next _ ih =>
    have size := character.utf8Size_pos
    have := ih member
    omega

/-- A line starts where some characters of the text end. -/
theorem exists_before_of_mem_startsAfter {offset start : Nat} {text : List Char}
    (member : start ∈ startsAfter offset text) :
    ∃ before after, text = before ++ after ∧ start = offset + byteCount before := by
  fun_induction startsAfter offset text with
  | case1 => exact absurd member List.not_mem_nil
  | case2 offset rest ih =>
    have size : byteCount ['\r', '\n'] = 2 := by decide
    rcases List.mem_cons.mp member with rfl | later
    · exact ⟨['\r', '\n'], rest, rfl, by rw [size]⟩
    · obtain ⟨before, after, rfl, rfl⟩ := ih later
      exact ⟨['\r', '\n'] ++ before, after, rfl, by rw [byteCount_append, size, Nat.add_assoc]⟩
  | case3 offset character rest _ next _ ih =>
    rcases List.mem_cons.mp member with rfl | later
    · exact ⟨[character], rest, rfl, rfl⟩
    · obtain ⟨before, after, rfl, rfl⟩ := ih later
      exact ⟨character :: before, after, rfl, Nat.add_assoc ..⟩
  | case4 offset character rest _ next _ ih =>
    obtain ⟨before, after, rfl, rfl⟩ := ih member
    exact ⟨character :: before, after, rfl, Nat.add_assoc ..⟩

theorem le_of_mem_startsAfter {offset start : Nat} {text : List Char}
    (member : start ∈ startsAfter offset text) : start ≤ offset + byteCount text := by
  obtain ⟨before, after, rfl, rfl⟩ := exists_before_of_mem_startsAfter member
  rw [byteCount_append]
  omega

/-- The line starts increase strictly. -/
theorem pairwise_startsAfter (offset : Nat) (text : List Char) :
    (startsAfter offset text).Pairwise (· < ·) := by
  fun_induction startsAfter offset text with
  | case1 => exact .nil
  | case2 offset rest ih =>
    exact List.pairwise_cons.mpr ⟨fun _ member => lt_of_mem_startsAfter member, ih⟩
  | case3 offset character rest _ next _ ih =>
    exact List.pairwise_cons.mpr ⟨fun _ member => lt_of_mem_startsAfter member, ih⟩
  | case4 offset character rest _ next _ ih => exact ih

/-- Every line start of a text, the first one included. -/
def startsOf (text : String) : List Nat :=
  0 :: startsAfter 0 text.toList

theorem pairwise_startsOf (text : String) : (startsOf text).Pairwise (· < ·) :=
  List.pairwise_cons.mpr
    ⟨fun _ member => lt_of_mem_startsAfter member, pairwise_startsAfter 0 text.toList⟩

theorem le_of_mem_startsOf {text : String} {start : Nat} (member : start ∈ startsOf text) :
    start ≤ text.utf8ByteSize := by
  rcases List.mem_cons.mp member with rfl | later
  · exact Nat.zero_le _
  · have bound := le_of_mem_startsAfter later
    rwa [byteCount_toList, Nat.zero_add] at bound

/-- Each line takes up at least one byte before the next one starts. -/
theorem index_le_of_startsOf {text : String} {index start : Nat}
    (found : (startsOf text)[index]? = some start) : index ≤ start := by
  induction index generalizing start with
  | zero => exact Nat.zero_le start
  | succ index ih =>
    obtain ⟨bound, rfl⟩ := List.getElem?_eq_some_iff.mp found
    have earlier := ih (List.getElem?_eq_getElem (Nat.lt_of_succ_lt bound))
    have step := List.pairwise_iff_getElem.mp (pairwise_startsOf text) index (index + 1)
      (Nat.lt_of_succ_lt bound) bound (Nat.lt_succ_self index)
    omega

/-- A text is short if 32 bits hold every offset in it and the one after its end. -/
def Short (text : String) : Prop :=
  text.utf8ByteSize < 0xffffffff

instance (text : String) : Decidable (Short text) :=
  inferInstanceAs (Decidable (_ < _))

theorem getElem?_ofText (text : String) (index : Nat) :
    (ofText text).starts[index]? = (startsOf text)[index]?.map UInt32.ofNat := by
  rw [← Array.getElem?_toList, ← List.getElem?_map]
  rfl

/-- Words of 32 bits hold every start of a short text. -/
theorem map_toNat_starts {text : String} (short : Short text) :
    (ofText text).starts.toList.map UInt32.toNat = startsOf text := by
  have entries : (ofText text).starts.toList = (startsOf text).map UInt32.ofNat := rfl
  have size : UInt32.size = 0x100000000 := rfl
  rw [Short] at short
  rw [entries, List.map_map]
  refine (List.map_congr_left fun start member => ?_).trans (List.map_id _)
  have bound := le_of_mem_startsOf member
  exact UInt32.toNat_ofNat_of_lt' (by omega)

theorem pairwise_starts_ofText {text : String} (short : Short text) :
    (ofText text).starts.toList.Pairwise (· < ·) := by
  have pairwise := pairwise_startsOf text
  rw [← map_toNat_starts short, List.pairwise_map] at pairwise
  exact pairwise.imp UInt32.lt_iff_toNat_lt.mpr

theorem toNat_of_getElem?_ofText {text : String} (short : Short text) {index : Nat}
    {start : UInt32} (found : (ofText text).starts[index]? = some start) :
    (startsOf text)[index]? = some start.toNat := by
  rw [← map_toNat_starts short, List.getElem?_map, Array.getElem?_toList, found]
  rfl

end Table

section Search

variable {starts : Array UInt32} {offset : UInt32}

/-- The entries increase strictly. -/
def Increasing (starts : Array UInt32) : Prop :=
  ∀ (low high : Nat) (lesser greater : UInt32), starts[low]? = some lesser →
    starts[high]? = some greater → low < high → lesser < greater

theorem increasing_ofText {text : String} (short : Short text) :
    Increasing (ofText text).starts := by
  intro low high lesser greater first second order
  rw [← Array.getElem?_toList, List.getElem?_eq_some_iff] at first second
  obtain ⟨lowBound, rfl⟩ := first
  obtain ⟨highBound, rfl⟩ := second
  exact List.pairwise_iff_getElem.mp (pairwise_starts_ofText short) low high lowBound highBound order

/-- The place is the one where an offset falls in a table. -/
def Slot.Fits (starts : Array UInt32) (offset : UInt32) : Slot → Prop
  | found index => starts[index]? = some offset
  | missing insertion =>
    insertion ≤ starts.size ∧ ∀ (index : Nat) (start : UInt32), starts[index]? = some start →
      (index < insertion → start < offset) ∧ (insertion ≤ index → offset < start)

/-- Halving ends where the offset falls, as long as it lies between the two bounds. -/
theorem searchBetween_fits (increasing : Increasing starts) {low high : Nat} (bounds : low ≤ high)
    (inside : high ≤ starts.size)
    (before : ∀ (index : Nat) (start : UInt32), starts[index]? = some start →
      index < low → start < offset)
    (after : ∀ (index : Nat) (start : UInt32), starts[index]? = some start →
      high ≤ index → offset < start) :
    (searchBetween starts offset low high).Fits starts offset := by
  fun_induction searchBetween starts offset low high with
  | case1 low high order middle absent =>
    have := Array.getElem?_eq_none_iff.mp absent
    omega
  | case2 low high order middle start found less ih =>
    refine ih (by omega) inside ?_ after
    intro index other present early
    rcases Nat.lt_or_eq_of_le (Nat.le_of_lt_succ early) with earlier | rfl
    · exact UInt32.lt_trans (increasing index middle other start present found earlier) less
    · rw [found, Option.some.injEq] at present
      exact present ▸ less
  | case3 low high order middle start found notLess greater ih =>
    apply ih (by omega) (by omega) before
    intro index other present late
    rcases Nat.lt_or_eq_of_le late with later | rfl
    · exact UInt32.lt_trans greater (increasing middle index start other found present later)
    · rw [found, Option.some.injEq] at present
      exact present ▸ greater
  | case4 low high order middle start found notLess notGreater =>
    have same : start = offset :=
      UInt32.le_antisymm (UInt32.not_lt.mp notGreater) (UInt32.not_lt.mp notLess)
    exact same ▸ found
  | case5 low high done =>
    refine ⟨by omega, ?_⟩
    intro index start present
    exact ⟨before index start present, fun late => after index start present (by omega)⟩

theorem search_fits {map : LineMap} (increasing : Increasing map.starts) (offset : UInt32) :
    (map.search offset).Fits map.starts offset := by
  refine searchBetween_fits increasing (Nat.zero_le _) (Nat.le_refl _) ?_ ?_
  · intro index start present early
    exact absurd early (Nat.not_lt_zero index)
  · intro index start present late
    rw [Array.getElem?_eq_none late] at present
    exact absurd present (by simp)

section Line

variable {index : Nat} {start : UInt32}

/-- An entry that is the offset is the line that the offset has reached, and not a later one. -/
theorem eq_of_found (increasing : Increasing starts) (found : starts[index]? = some start)
    (reached : start ≤ offset) (next : ∀ later, starts[index + 1]? = some later → offset < later)
    {other : Nat} (fits : (Slot.found other).Fits starts offset) : other = index := by
  rcases Nat.lt_trichotomy other index with earlier | same | later
  · have less := increasing other index offset start fits found earlier
    exact absurd less (UInt32.not_lt.mpr reached)
  · exact same
  · have bound := (Array.getElem?_eq_some_iff.mp fits).1
    have present := Array.getElem?_eq_getElem (by omega : index + 1 < starts.size)
    have beyond := next _ present
    rcases Nat.lt_or_eq_of_le (Nat.succ_le_of_lt later) with further | rfl
    · have order := increasing (index + 1) other _ offset present fits further
      exact absurd (UInt32.lt_trans beyond order) (UInt32.lt_irrefl offset)
    · rw [fits, Option.some.injEq] at present
      exact absurd (present ▸ beyond) (UInt32.lt_irrefl offset)

/-- An offset that is no entry has its place right after the line that it has reached. -/
theorem eq_of_missing (found : starts[index]? = some start) (reached : start ≤ offset)
    (next : ∀ later, starts[index + 1]? = some later → offset < later) {insertion : Nat}
    (fits : (Slot.missing insertion).Fits starts offset) : insertion = index + 1 := by
  obtain ⟨bound, order⟩ := fits
  apply Nat.le_antisymm
  · apply Nat.le_of_not_lt
    intro late
    have present := Array.getElem?_eq_getElem (by omega : index + 1 < starts.size)
    have less := (order (index + 1) _ present).1 late
    exact UInt32.lt_irrefl _ (UInt32.lt_trans less (next _ present))
  · apply Nat.lt_of_not_le
    intro early
    exact absurd ((order index start found).2 early) (UInt32.not_lt.mpr reached)

/-- The search finds the line whose start the offset has reached and whose successor it has not. -/
theorem lineIndex?_eq_some {map : LineMap} (increasing : Increasing map.starts)
    (found : map.starts[index]? = some start) (reached : start ≤ offset)
    (next : ∀ later, map.starts[index + 1]? = some later → offset < later) :
    map.lineIndex? offset = some index := by
  have fits := search_fits increasing offset
  rw [lineIndex?]
  cases place : map.search offset with
  | found other =>
    rw [place] at fits
    rw [eq_of_found increasing found reached next fits]
  | missing insertion =>
    rw [place] at fits
    rw [eq_of_missing found reached next fits]

end Line

end Search

end LineMap

end DiagnosticReplay.Source
