import DiagnosticReplay.Formatter

/-! # Histories of a collection

A collection is added to and taken, in any order and as often as one likes. The takes divide its
history into rounds, and each of them returns what was added in its round, in the order of addition.
What was added in the last round is what the collection holds. Its counts and its lines follow that
list.
-/

namespace DiagnosticReplay.Collection

/-- What is added to a collection. -/
inductive Addition where
  | one (diagnostic : Diagnostic)
  | all (other : Collection)
  /-- A copy of what the collection holds. -/
  | again

/-- A step in the history of a collection. -/
inductive Step where
  | add (addition : Addition)
  | take

/-- A collection and what was taken from it, first take first. -/
structure Gathering where
  collection : Collection := {}
  taken : List (List Diagnostic) := []

namespace Gathering

/-- The collection after an addition. -/
def add (gathering : Gathering) : Addition → Collection
  | .one diagnostic => gathering.collection.add diagnostic
  | .all other => gathering.collection.extend other
  | .again => gathering.collection.extend gathering.collection

/-- The collection and what was taken from it after a step. -/
def step (gathering : Gathering) : Step → Gathering
  | .add addition => { gathering with collection := gathering.add addition }
  | .take =>
    let (taken, left) := gathering.collection.take
    ⟨left, gathering.taken ++ [taken]⟩

/-- The collection and what was taken from it after a history. -/
def after (gathering : Gathering) (history : List Step) : Gathering :=
  history.foldl step gathering

/-- What was taken, and then what is held. -/
def held (gathering : Gathering) : List (List Diagnostic) :=
  gathering.taken ++ [gathering.collection.diagnostics]

end Gathering

/-- The list with an addition at its end. -/
def Addition.onto (listed : List Diagnostic) : Addition → List Diagnostic
  | .one diagnostic => listed ++ [diagnostic]
  | .all other => listed ++ other.diagnostics
  | .again => listed ++ listed

/-- The list with additions at its end, one after the other. -/
def listed (start : List Diagnostic) (additions : List Addition) : List Diagnostic :=
  additions.foldl Addition.onto start

/-- The additions of a history between its takes. The last round is the one that is not taken yet. -/
def rounds : List Step → List (List Addition)
  | [] => [[]]
  | .take :: rest => [] :: rounds rest
  | .add addition :: rest => (rounds rest).modifyHead (addition :: ·)

section Rounds

variable {gathering : Gathering}

theorem diagnostics_add (gathering : Gathering) (addition : Addition) :
    (gathering.add addition).diagnostics = addition.onto gathering.collection.diagnostics := by
  cases addition <;> rfl

/-- The first round goes on from what is held, and each of the later ones starts from nothing. -/
theorem exists_rounds_after (gathering : Gathering) (history : List Step) :
    ∃ first later, rounds history = first :: later ∧
      (gathering.after history).held =
        gathering.taken ++ listed gathering.collection.diagnostics first :: later.map (listed []) := by
  induction history generalizing gathering with
  | nil => exact ⟨[], [], rfl, rfl⟩
  | cons step rest ih =>
    obtain ⟨first, later, areRounds, holds⟩ := ih (gathering.step step)
    cases step with
    | add addition =>
      refine ⟨addition :: first, later, by rw [rounds, areRounds, List.modifyHead_cons], ?_⟩
      rw [listed, List.foldl_cons, ← diagnostics_add, ← listed]
      exact holds
    | take =>
      refine ⟨[], first :: later, by rw [rounds, areRounds], ?_⟩
      calc (gathering.after (.take :: rest)).held
        _ = gathering.taken ++ [gathering.collection.diagnostics] ++
              listed [] first :: later.map (listed []) := holds
        _ = gathering.taken ++ gathering.collection.diagnostics ::
              (first :: later).map (listed []) := List.append_assoc ..

end Rounds

section Counts

variable (collection : Collection)

theorem errorCount_add_warningCount :
    collection.errorCount + collection.warningCount = collection.size := by
  rw [size, List.length_eq_countP_add_countP Diagnostic.isError, errorCount, warningCount]
  congr 2
  funext diagnostic
  rw [Diagnostic.isError, Diagnostic.isWarning]
  cases diagnostic.severity <;> rfl

theorem hasErrors_iff : collection.hasErrors ↔ 0 < collection.errorCount := by
  rw [hasErrors, errorCount, List.any_eq_true, List.countP_pos_iff]

/-- What a collection says about itself, and the lines of its diagnostics, follow its list. -/
structure Follows (listed : List Diagnostic) : Prop where
  diagnostics : collection.diagnostics = listed
  size : collection.size = listed.length
  counts : collection.errorCount + collection.warningCount = collection.size
  hasErrors : collection.hasErrors ↔ 0 < collection.errorCount
  isEmpty : collection.isEmpty ↔ collection.size = 0
  lines : ∀ (formatter : Formatter) (place : Nat),
    (formatter.formatAll collection.diagnostics)[place]? = listed[place]?.map formatter.format
  takes : collection.take = (listed, empty)

theorem follows : collection.Follows collection.diagnostics where
  diagnostics := rfl
  size := rfl
  counts := collection.errorCount_add_warningCount
  hasErrors := collection.hasErrors_iff
  isEmpty := List.isEmpty_iff_length_eq_zero
  lines _ _ := List.getElem?_map
  takes := rfl

end Counts

/-- After any history from the empty collection, each take has returned what was added in its round,
and the collection follows what was added since. -/
theorem follows_rounds (history : List Step) :
    ∃ ended current, rounds history = ended ++ [current] ∧
      (Gathering.after {} history).taken = ended.map (listed []) ∧
      (Gathering.after {} history).collection.Follows (listed [] current) := by
  obtain ⟨first, later, areRounds, holds⟩ := exists_rounds_after {} history
  have perRound : (rounds history).map (listed []) = (Gathering.after {} history).held := by
    rw [areRounds]
    exact holds.symm
  obtain ⟨ended, last, split, taken, isHeld⟩ := List.map_eq_append_iff.mp perRound
  obtain ⟨current, rfl, isListed⟩ := List.map_eq_singleton_iff.mp isHeld
  exact ⟨ended, current, split, taken.symm, isListed ▸ follows _⟩

example (first second : Diagnostic) :
    Gathering.after {} [.add (.one first), .add .again, .take, .add (.one second)] =
      ⟨⟨[second]⟩, [[first, first]]⟩ := rfl

end DiagnosticReplay.Collection
