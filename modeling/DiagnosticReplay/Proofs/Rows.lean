import Mathlib.Data.List.Forall2

/-! # Rows side by side

What follows for two rows that are as long as each other and related one by one.
-/

namespace DiagnosticReplay

variable {α β γ δ : Type} {related : α → β → Prop} {row : List α} {other : List β}

/-- Where each of some values has a fitting result, all of them have. -/
theorem exists_forall₂ {kept : β → Prop}
    (each : ∀ value ∈ row, ∃ result, related value result ∧ kept result) :
    ∃ results, List.Forall₂ related row results ∧ ∀ result ∈ results, kept result := by
  induction row with
  | nil => exact ⟨[], .nil, by simp⟩
  | cons value values ih =>
    obtain ⟨⟨result, fitting, isKept⟩, others⟩ := List.forall_mem_cons.mp each
    obtain ⟨results, all, rest⟩ := ih others
    exact ⟨result :: results, .cons fitting all, List.forall_mem_cons.mpr ⟨isKept, rest⟩⟩

/-- Two rows that are related one by one are related by all that follows for the second of them. -/
theorem forall₂_flip {follows : β → α → Prop} (pairwise : List.Forall₂ related row other)
    (each : ∀ second ∈ other, ∀ first, related first second → follows second first) :
    List.Forall₂ follows other row := by
  induction pairwise with
  | nil => exact .nil
  | cons isRelated _ ih =>
    obtain ⟨head, tail⟩ := List.forall_mem_cons.mp each
    exact .cons (head _ isRelated) (ih tail)

/-- Rows that are related one by one to a row between them are related one by one. -/
theorem forall₂_through {follows : β → γ → Prop} {whole : α → γ → Prop} {last : List γ}
    (left : List.Forall₂ related row other) (right : List.Forall₂ follows other last)
    (through : ∀ x y z, related x y → follows y z → whole x z) : List.Forall₂ whole row last := by
  induction left generalizing last with
  | nil =>
    cases right
    exact .nil
  | cons isFirst _ ih =>
    cases right with
    | cons isSecond rest => exact .cons (through _ _ _ isFirst isSecond) (ih rest)

theorem exists_right_of_forall₂ (pairwise : List.Forall₂ related row other) {first : α}
    (member : first ∈ row) : ∃ second ∈ other, related first second := by
  induction pairwise with
  | nil => exact absurd member List.not_mem_nil
  | cons isRelated _ ih =>
    rcases List.mem_cons.mp member with rfl | later
    · exact ⟨_, List.mem_cons_self, isRelated⟩
    · obtain ⟨second, isLater, follows⟩ := ih later
      exact ⟨second, List.mem_cons_of_mem _ isLater, follows⟩

theorem exists_left_of_forall₂ (pairwise : List.Forall₂ related row other) {second : β}
    (member : second ∈ other) : ∃ first ∈ row, related first second :=
  exists_right_of_forall₂ pairwise.flip member

/-- What stands in the same place of both rows is related. -/
theorem related_of_forall₂ (pairwise : List.Forall₂ related row other) {place : Nat} {first : α}
    {second : β} (isFirst : row[place]? = some first) (isSecond : other[place]? = some second) :
    related first second := by
  obtain ⟨within, rfl⟩ := List.getElem?_eq_some_iff.mp isFirst
  obtain ⟨alsoWithin, rfl⟩ := List.getElem?_eq_some_iff.mp isSecond
  exact pairwise.get within alsoWithin

theorem map_eq_map_of_forall₂ {f : α → γ} {g : β → γ} (pairwise : List.Forall₂ related row other)
    (same : ∀ first second, related first second → g second = f first) :
    other.map g = row.map f := by
  induction pairwise with
  | nil => rfl
  | cons isRelated _ ih => rw [List.map_cons, List.map_cons, same _ _ isRelated, ih]

theorem findIdx_eq_of_forall₂ {f : α → Bool} {g : β → Bool}
    (pairwise : List.Forall₂ related row other)
    (same : ∀ first second, related first second → g second = f first) :
    other.findIdx g = row.findIdx f := by
  induction pairwise with
  | nil => rfl
  | cons isRelated _ ih => rw [List.findIdx_cons, List.findIdx_cons, same _ _ isRelated, ih]

end DiagnosticReplay
