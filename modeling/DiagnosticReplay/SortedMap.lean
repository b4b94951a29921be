/-! # Sorted maps

A finite map is held as its entries in strictly increasing key order, one entry a key. Equal maps
therefore have equal entries, so neither the order nor the number of insertions that built a map
can be seen in it. A later insertion of a key replaces the earlier value.
-/

namespace DiagnosticReplay

/-- A finite map whose entries stand in strictly increasing key order. -/
@[ext] structure SortedMap (κ υ : Type) [LT κ] where
  /-- The entries, smallest key first. -/
  entries : List (κ × υ)
  /-- Keys increase strictly, so no key stands twice. -/
  sorted : entries.Pairwise fun earlier later => earlier.1 < later.1

namespace SortedMap

variable {κ υ : Type} [LT κ]

/-- The map without entries. -/
def empty : SortedMap κ υ := ⟨[], .nil⟩

instance : Inhabited (SortedMap κ υ) := ⟨empty⟩

/-- The value at `key`, if there is one. -/
def get? [BEq κ] (map : SortedMap κ υ) (key : κ) : Option υ :=
  map.entries.lookup key

/-- The number of keys. -/
def size (map : SortedMap κ υ) : Nat :=
  map.entries.length

section Insertion

variable [LE κ] [DecidableLT κ] [Std.IsLinearOrder κ] [Std.LawfulOrderLT κ]

/-- Place an entry among sorted entries, in the stead of one that has its key. -/
def place (key : κ) (value : υ) : List (κ × υ) → List (κ × υ)
  | [] => [(key, value)]
  | (head, held) :: rest =>
    if key < head then (key, value) :: (head, held) :: rest
    else if head < key then (head, held) :: place key value rest
    else (key, value) :: rest

omit [LE κ] [Std.IsLinearOrder κ] [Std.LawfulOrderLT κ] in
theorem mem_place {key : κ} {value : υ} {entry : κ × υ} {entries : List (κ × υ)}
    (member : entry ∈ place key value entries) : entry = (key, value) ∨ entry ∈ entries := by
  induction entries with
  | nil => simpa [place] using member
  | cons head rest ih =>
    obtain ⟨headKey, held⟩ := head
    rw [place] at member
    split at member
    · simpa using member
    · split at member
      · rcases List.mem_cons.mp member with same | tail
        · exact .inr (same ▸ List.mem_cons_self ..)
        · exact (ih tail).imp id (List.mem_cons_of_mem _)
      · rcases List.mem_cons.mp member with same | tail
        · exact .inl same
        · exact .inr (List.mem_cons_of_mem _ tail)

/-- Placing an entry keeps the entries sorted. -/
theorem pairwise_place (key : κ) (value : υ) {entries : List (κ × υ)}
    (sorted : entries.Pairwise fun earlier later => earlier.1 < later.1) :
    (place key value entries).Pairwise fun earlier later => earlier.1 < later.1 := by
  induction entries with
  | nil => simp [place]
  | cons head rest ih =>
    obtain ⟨headKey, held⟩ := head
    obtain ⟨first, tail⟩ := List.pairwise_cons.mp sorted
    rw [place]
    split
    · rename_i less
      refine List.pairwise_cons.mpr ⟨?_, sorted⟩
      intro entry member
      rcases List.mem_cons.mp member with rfl | later
      · exact less
      · exact Std.lt_trans less (first entry later)
    · rename_i notLess
      split
      · rename_i greater
        refine List.pairwise_cons.mpr ⟨?_, ih tail⟩
        intro entry member
        rcases mem_place member with rfl | later
        · exact greater
        · exact first entry later
      · rename_i notGreater
        have same : key = headKey :=
          Std.le_antisymm (Std.not_lt.mp notGreater) (Std.not_lt.mp notLess)
        exact List.pairwise_cons.mpr ⟨same ▸ first, tail⟩

/-- The map with `value` at `key`, and elsewhere as before. -/
def insert (map : SortedMap κ υ) (key : κ) (value : υ) : SortedMap κ υ :=
  ⟨place key value map.entries, pairwise_place key value map.sorted⟩

/-- Insert pairs from left to right, so that the last pair of a key decides. -/
def insertAll (map : SortedMap κ υ) (pairs : List (κ × υ)) : SortedMap κ υ :=
  pairs.foldl (fun built pair => built.insert pair.1 pair.2) map

/-- The map of the pairs, where the last pair of a key decides. -/
def ofList (pairs : List (κ × υ)) : SortedMap κ υ :=
  empty.insertAll pairs

end Insertion

end SortedMap

end DiagnosticReplay
