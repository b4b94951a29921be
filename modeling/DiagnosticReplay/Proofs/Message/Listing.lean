import DiagnosticReplay.Message.Catalog
import DiagnosticReplay.Proofs.SortedMap
import Mathlib.Data.List.Dedup

/-! # The listing of a catalog

A catalog may be made of a list that repeats numbers. A lookup then finds the last template of a
number, and the listing gives the same template, once, at the place of the number. Nothing else of the
list can be seen in the catalog, so it can be made again of its listing.
-/

namespace DiagnosticReplay.Catalog

/-- The catalog holds of some given entries the last one of each number, and lists these by their
numbers. -/
structure Holds (catalog : Catalog) (given : List (UInt32 × String)) : Prop where
  finds : ∀ id template, catalog.template? id = some template ↔
    ∃ before after, given = before ++ (id, template) :: after ∧ id ∉ after.map Prod.fst
  misses : ∀ id, catalog.template? id = none ↔ id ∉ given.map Prod.fst
  /-- Every number stands in the listing once, however often it is given. -/
  once : (catalog.entries.map Prod.fst).Perm (given.map Prod.fst).dedup
  increasing : catalog.entries.Pairwise fun earlier later => earlier.1 < later.1
  agrees : ∀ entry ∈ catalog.entries, catalog.template? entry.1 = some entry.2
  /-- However its entries are put in the order of their numbers, this is the listing. -/
  sorts : ∀ others, others.Perm catalog.entries →
    (others.Pairwise fun earlier later => earlier.1 ≤ later.1) → others = catalog.entries
  size : catalog.size = catalog.entries.length
  isEmpty : catalog.isEmpty ↔ given = []
  again : ∀ others, others.Perm catalog.entries →
    ∀ id, (ofEntries others).template? id = catalog.template? id

variable {given : List (UInt32 × String)}

/-- The listing has the numbers that were given. -/
theorem mem_ids_ofEntries_iff {id : UInt32} :
    id ∈ (ofEntries given).entries.map Prod.fst ↔ id ∈ given.map Prod.fst := by
  rw [entries, SortedMap.mem_keys_iff, Option.isSome_iff_ne_none, ofEntries, ne_eq,
    SortedMap.get?_ofList_eq_none_iff, not_not]

/-- The catalog of a list holds what the list says last of each number. -/
theorem holds_ofEntries (given : List (UInt32 × String)) : (ofEntries given).Holds given where
  finds _ _ := SortedMap.get?_ofList_eq_some_iff
  misses _ := SortedMap.get?_ofList_eq_none_iff
  once := by
    apply (List.perm_ext_iff_of_nodup (SortedMap.nodup_keys _) (List.nodup_dedup _)).mpr
    intro id
    rw [List.mem_dedup]
    exact mem_ids_ofEntries_iff
  increasing := (ofEntries given).templates.sorted
  agrees _ member := (SortedMap.mem_entries_iff _).mp member
  sorts _ := SortedMap.eq_entries_of_perm
  size := rfl
  isEmpty := by
    have ids : (ofEntries given).entries.map Prod.fst = [] ↔ given.map Prod.fst = [] := by
      simp only [List.eq_nil_iff_forall_not_mem, mem_ids_ofEntries_iff]
    rw [isEmpty, List.isEmpty_iff]
    exact List.map_eq_nil_iff.symm.trans (ids.trans List.map_eq_nil_iff)
  again others perm id := by
    rw [ofEntries, SortedMap.ofList_of_perm_entries perm]

example :
    (ofEntries [(7, "one"), (3, "two"), (7, "three")]).entries = [(3, "two"), (7, "three")] := by
  decide

end DiagnosticReplay.Catalog
