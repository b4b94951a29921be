import DiagnosticReplay.SortedMap
import Mathlib.Data.List.Nodup

/-! # Lookup in sorted maps

What a map says about a key is what the last insertion of that key said. Because no key stands
twice, the entries of a map are the pairs that a lookup confirms.
-/

namespace DiagnosticReplay.SortedMap

variable {κ υ : Type} [LT κ]

@[simp] theorem get?_empty [BEq κ] (key : κ) : (empty : SortedMap κ υ).get? key = none := rfl

section Entries

variable [BEq κ] [LawfulBEq κ] [LE κ] [Std.LawfulOrderLT κ]

omit [BEq κ] [LawfulBEq κ] in
theorem nodup_keys (map : SortedMap κ υ) : (map.entries.map Prod.fst).Nodup := by
  apply List.pairwise_map.mpr
  apply map.sorted.imp
  intro earlier later less same
  exact Std.lt_irrefl (same ▸ less)

omit [BEq κ] [LawfulBEq κ] in
theorem nodup_entries (map : SortedMap κ υ) : map.entries.Nodup :=
  map.nodup_keys.of_map Prod.fst

/-- The entries of a map are the pairs that a lookup confirms. -/
theorem mem_entries_iff (map : SortedMap κ υ) {key : κ} {value : υ} :
    (key, value) ∈ map.entries ↔ map.get? key = some value := by
  obtain ⟨entries, sorted⟩ := map
  simp only [get?]
  induction entries with
  | nil => simp
  | cons head rest ih =>
    obtain ⟨headKey, held⟩ := head
    obtain ⟨first, tail⟩ := List.pairwise_cons.mp sorted
    rw [List.mem_cons, List.lookup_cons]
    by_cases same : key = headKey
    · subst same
      have notLater : (key, value) ∉ rest := fun later => Std.lt_irrefl (first (key, value) later)
      simp [notLater, eq_comm]
    · have differs : (key == headKey) = false := beq_eq_false_iff_ne.mpr same
      simp [same, differs, ih tail]

/-- The keys of a map are those for which a lookup finds a value. -/
theorem mem_keys_iff (map : SortedMap κ υ) {key : κ} :
    key ∈ map.entries.map Prod.fst ↔ (map.get? key).isSome := by
  rw [Option.isSome_iff_exists, List.mem_map]
  constructor
  · rintro ⟨⟨listed, value⟩, member, rfl⟩
    exact ⟨value, (mem_entries_iff map).mp member⟩
  · rintro ⟨value, found⟩
    exact ⟨(key, value), (mem_entries_iff map).mpr found, rfl⟩

/-- Maps that say the same about every key are the same. -/
theorem eq_of_get? {first second : SortedMap κ υ} (same : ∀ key, first.get? key = second.get? key) :
    first = second := by
  have perm : first.entries.Perm second.entries := by
    apply (List.perm_ext_iff_of_nodup (nodup_entries first) (nodup_entries second)).mpr
    rintro ⟨key, value⟩
    rw [mem_entries_iff, mem_entries_iff, same]
  ext1
  refine perm.eq_of_pairwise ?_ first.sorted second.sorted
  intro one other _ _ less greater
  exact absurd (Std.lt_iff_le_and_not_ge.mp greater).1 (Std.lt_iff_le_and_not_ge.mp less).2

end Entries

section Insertion

variable [BEq κ] [LawfulBEq κ] [LE κ] [DecidableLT κ] [Std.IsLinearOrder κ] [Std.LawfulOrderLT κ]

theorem lookup_place (key other : κ) (value : υ) (entries : List (κ × υ)) :
    (place key value entries).lookup other =
      if other == key then some value else entries.lookup other := by
  induction entries with
  | nil =>
    rw [place, List.lookup_cons]
    cases other == key <;> rfl
  | cons head rest ih =>
    obtain ⟨headKey, held⟩ := head
    rw [place]
    split
    · rw [List.lookup_cons]
      cases other == key <;> rfl
    · rename_i notLess
      split
      · rename_i greater
        rw [List.lookup_cons, List.lookup_cons, ih]
        cases isHead : other == headKey with
        | false => rfl
        | true =>
          have same : other = headKey := eq_of_beq isHead
          have differs : (other == key) = false := by
            rw [same]
            apply beq_eq_false_iff_ne.mpr
            rintro rfl
            exact Std.lt_irrefl greater
          rw [differs]
          rfl
      · rename_i notGreater
        have same : key = headKey :=
          Std.le_antisymm (Std.not_lt.mp notGreater) (Std.not_lt.mp notLess)
        subst same
        rw [List.lookup_cons, List.lookup_cons]
        cases other == key <;> rfl

/-- An insertion decides what the map says about its key, and about no other. -/
theorem get?_insert (map : SortedMap κ υ) (key other : κ) (value : υ) :
    (map.insert key value).get? other = if other == key then some value else map.get? other :=
  lookup_place key other value map.entries

/-- An insertion adds its key to those of the map. -/
theorem mem_keys_insert_iff (map : SortedMap κ υ) (key other : κ) (value : υ) :
    other ∈ (map.insert key value).entries.map Prod.fst ↔
      other = key ∨ other ∈ map.entries.map Prod.fst := by
  rw [mem_keys_iff, mem_keys_iff, get?_insert]
  by_cases same : other = key
  · simp [same]
  · rw [if_neg (by simpa using same), or_iff_right same]

/-- Insertions at different keys can change places. -/
theorem insert_comm (map : SortedMap κ υ) {key other : κ} (differ : key ≠ other) (value held : υ) :
    (map.insert key value).insert other held = (map.insert other held).insert key value := by
  apply eq_of_get?
  intro place
  simp only [get?_insert]
  cases isKey : place == key with
  | false => rfl
  | true =>
    have notOther : (place == other) = false := by
      rw [eq_of_beq isKey]
      exact beq_eq_false_iff_ne.mpr differ
    rw [notOther]
    rfl

/-- Of pairs with different keys a map keeps every one. -/
theorem get?_insertAll_of_distinct {pairs : List (κ × υ)} (distinct : (pairs.map Prod.fst).Nodup)
    (map : SortedMap κ υ) {key : κ} {value : υ} :
    (map.insertAll pairs).get? key = some value ↔
      (key, value) ∈ pairs ∨ key ∉ pairs.map Prod.fst ∧ map.get? key = some value := by
  induction pairs generalizing map with
  | nil => simp [insertAll]
  | cons pair rest ih =>
    obtain ⟨first, held⟩ := pair
    obtain ⟨absent, distinctRest⟩ := List.nodup_cons.mp distinct
    rw [insertAll, List.foldl_cons, ← insertAll, ih distinctRest, get?_insert]
    by_cases same : key = first
    · subst same
      have notLater : (key, value) ∉ rest :=
        fun later => absent (List.mem_map.mpr ⟨(key, value), later, rfl⟩)
      simp only [beq_self_eq_true, if_true, List.mem_cons, Prod.mk.injEq, true_and, List.map_cons,
        true_or, not_true_eq_false, false_and, or_false, notLater, false_or, Option.some.injEq]
      exact ⟨fun found => found.2.symm, fun found => ⟨absent, found.symm⟩⟩
    · have differs : (key == first) = false := beq_eq_false_iff_ne.mpr same
      simp only [differs, Bool.false_eq_true, if_false, List.mem_cons, Prod.mk.injEq, same,
        false_and, false_or, List.map_cons]

/-- Of the pairs of one key a map keeps the last. -/
theorem get?_insertAll (map : SortedMap κ υ) (pairs : List (κ × υ)) (key : κ) :
    (map.insertAll pairs).get? key = (pairs.reverse.lookup key).or (map.get? key) := by
  induction pairs generalizing map with
  | nil => simp [insertAll]
  | cons pair rest ih =>
    obtain ⟨first, held⟩ := pair
    rw [insertAll, List.foldl_cons, ← insertAll, ih, get?_insert, List.reverse_cons,
      List.lookup_append, Option.or_assoc, List.lookup_cons, List.lookup_nil]
    cases key == first <;> rfl

theorem get?_ofList (pairs : List (κ × υ)) (key : κ) :
    (ofList pairs).get? key = pairs.reverse.lookup key := by
  rw [ofList, get?_insertAll, get?_empty, Option.or_none]

/-- A map is made of some pairs if it holds the last pair of each key, and nothing else. -/
theorem ofList_eq_iff {pairs : List (κ × υ)} {map : SortedMap κ υ} :
    ofList pairs = map ↔ ∀ key, map.get? key = pairs.reverse.lookup key := by
  constructor
  · rintro rfl key
    exact get?_ofList pairs key
  · intro same
    exact eq_of_get? fun key => (get?_ofList pairs key).trans (same key).symm

theorem get?_ofList_of_distinct {pairs : List (κ × υ)} (distinct : (pairs.map Prod.fst).Nodup)
    {key : κ} {value : υ} : (ofList pairs).get? key = some value ↔ (key, value) ∈ pairs := by
  rw [ofList, get?_insertAll_of_distinct distinct]
  simp

/-- A map is the same in whatever order its pairs are given, if no key is repeated. -/
theorem ofList_eq_of_perm {pairs others : List (κ × υ)} (distinct : (pairs.map Prod.fst).Nodup)
    (perm : others.Perm pairs) : ofList others = ofList pairs := by
  have distinctToo : (others.map Prod.fst).Nodup := (perm.map Prod.fst).nodup_iff.mpr distinct
  apply eq_of_get?
  intro key
  apply Option.ext
  intro value
  rw [get?_ofList_of_distinct distinctToo, get?_ofList_of_distinct distinct, perm.mem_iff]

/-- A pair is found if it is the last of its key. -/
theorem get?_ofList_eq_some_iff {pairs : List (κ × υ)} {key : κ} {value : υ} :
    (ofList pairs).get? key = some value ↔
      ∃ before after, pairs = before ++ (key, value) :: after ∧ key ∉ after.map Prod.fst := by
  rw [get?_ofList, List.lookup_eq_some_iff]
  constructor
  · rintro ⟨later, earlier, reversed, differ⟩
    refine ⟨earlier.reverse, later.reverse, ?_, ?_⟩
    · rw [← pairs.reverse_reverse, reversed, List.reverse_append, List.reverse_cons,
        List.append_assoc, List.singleton_append]
    · rw [List.map_reverse, List.mem_reverse]
      intro listed
      obtain ⟨pair, member, rfl⟩ := List.mem_map.mp listed
      exact absurd rfl (bne_iff_ne.mp (differ pair member))
  · rintro ⟨before, after, rfl, absent⟩
    refine ⟨after.reverse, before.reverse, by simp, ?_⟩
    intro pair member
    rw [bne_iff_ne]
    rintro rfl
    exact absent (List.mem_map_of_mem (List.mem_reverse.mp member))

/-- Nothing is found for a key that no pair has. -/
theorem get?_ofList_eq_none_iff {pairs : List (κ × υ)} {key : κ} :
    (ofList pairs).get? key = none ↔ key ∉ pairs.map Prod.fst := by
  rw [get?_ofList, List.lookup_eq_none_iff]
  simp only [List.mem_reverse, bne_iff_ne, ne_comm (a := key), List.mem_map, not_exists, not_and]

/-- A map is made of its entries, in whatever order they come. -/
theorem ofList_of_perm_entries {map : SortedMap κ υ} {others : List (κ × υ)}
    (perm : others.Perm map.entries) : ofList others = map := by
  apply eq_of_get?
  intro key
  apply Option.ext
  intro value
  have distinct : (others.map Prod.fst).Nodup := (perm.map Prod.fst).nodup_iff.mpr map.nodup_keys
  rw [get?_ofList_of_distinct distinct, perm.mem_iff, mem_entries_iff]

omit [DecidableLT κ] in
/-- However the entries of a map are put in the order of their keys, they come out the same. -/
theorem eq_entries_of_perm {map : SortedMap κ υ} {others : List (κ × υ)}
    (perm : others.Perm map.entries)
    (ordered : others.Pairwise fun earlier later => earlier.1 ≤ later.1) :
    others = map.entries := by
  refine perm.eq_of_pairwise ?_ ordered (map.sorted.imp Std.le_of_lt)
  rintro ⟨key, value⟩ ⟨other, held⟩ member memberOther below above
  obtain rfl : key = other := Std.le_antisymm below above
  have found := (mem_entries_iff map).mp (perm.mem_iff.mp member)
  rw [(mem_entries_iff map).mp memberOther, Option.some.injEq] at found
  rw [found]

/-- The entries of a map are the pairs that it was made of, in the order of their keys. -/
theorem perm_entries_ofList {pairs : List (κ × υ)} (distinct : (pairs.map Prod.fst).Nodup) :
    (ofList pairs).entries.Perm pairs := by
  apply (List.perm_ext_iff_of_nodup (nodup_entries _) (List.Nodup.of_map Prod.fst distinct)).mpr
  rintro ⟨key, value⟩
  exact (mem_entries_iff _).trans (get?_ofList_of_distinct distinct)

end Insertion

section Values

variable {ω : Type} [LE κ] [DecidableLT κ] [Std.IsLinearOrder κ] [Std.LawfulOrderLT κ]

omit [LE κ] [Std.IsLinearOrder κ] [Std.LawfulOrderLT κ] in
theorem place_map (change : υ → ω) (key : κ) (value : υ) (entries : List (κ × υ)) :
    place key (change value) (entries.map fun entry => (entry.1, change entry.2)) =
      (place key value entries).map fun entry => (entry.1, change entry.2) := by
  induction entries with
  | nil => rfl
  | cons head rest ih =>
    obtain ⟨headKey, held⟩ := head
    rw [List.map_cons, place, place, ih]
    split
    · rfl
    · split <;> rfl

/-- The order of the entries does not depend on the values. -/
theorem entries_ofList_map (change : υ → ω) (pairs : List (κ × υ)) :
    (ofList (pairs.map fun pair => (pair.1, change pair.2))).entries =
      (ofList pairs).entries.map fun entry => (entry.1, change entry.2) := by
  suffices fromAny : ∀ (changed : SortedMap κ ω) (map : SortedMap κ υ),
      (changed.entries = map.entries.map fun entry => (entry.1, change entry.2)) →
        (changed.insertAll (pairs.map fun pair => (pair.1, change pair.2))).entries =
          (map.insertAll pairs).entries.map fun entry => (entry.1, change entry.2) from
    fromAny empty empty rfl
  induction pairs with
  | nil => exact fun _ _ same => same
  | cons pair rest ih =>
    intro changed map same
    apply ih (changed.insert pair.1 (change pair.2)) (map.insert pair.1 pair.2)
    calc place pair.1 (change pair.2) changed.entries
      _ = place pair.1 (change pair.2)
            (map.entries.map fun entry => (entry.1, change entry.2)) := by rw [same]
      _ = (place pair.1 pair.2 map.entries).map fun entry => (entry.1, change entry.2) :=
        place_map change pair.1 pair.2 map.entries

end Values

end DiagnosticReplay.SortedMap
