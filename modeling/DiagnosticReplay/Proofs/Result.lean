import Mathlib.Data.List.Forall2

/-! # Results

How a computation that can fail goes on from a step that did not, and what can be said of the steps
of one that came to its end. A row of computations comes to its end if each of them does, and
otherwise fails as the first one that fails.
-/

namespace DiagnosticReplay.Result

variable {ε α β : Type}

@[simp] theorem ok_bind (value : α) (next : α → Except ε β) :
    (Except.ok value >>= next) = next value := rfl

@[simp] theorem error_bind (error : ε) (next : α → Except ε β) :
    ((Except.error error : Except ε α) >>= next) = .error error := rfl

@[simp] theorem pure_eq_ok (value : α) : (pure value : Except ε α) = .ok value := rfl

/-- Two steps come to an end together if each of them does. -/
theorem bind_eq_ok_iff {step : Except ε α} {next : α → Except ε β} {result : β} :
    (step >>= next) = .ok result ↔ ∃ value, step = .ok value ∧ next value = .ok result := by
  cases step with
  | error error => simp
  | ok value => simp

theorem map_eq_ok_iff {step : Except ε α} {f : α → β} {result : β} :
    step.map f = .ok result ↔ ∃ value, step = .ok value ∧ f value = result := by
  cases step with
  | error error => simp [Except.map]
  | ok value => simp [Except.map]

/-- A step that gives nothing only has to come to its end. -/
theorem bind_unit_eq_ok_iff {step : Except ε Unit} {next : Unit → Except ε β} {result : β} :
    (step >>= next) = .ok result ↔ step = .ok () ∧ next () = .ok result := by
  cases step with
  | error error => simp
  | ok value => simp

/-- The error of a computation that failed. -/
def failure? : Except ε α → Option ε
  | .ok _ => none
  | .error error => some error

theorem failure?_eq_none_iff {step : Except ε α} :
    failure? step = none ↔ ∃ value, step = .ok value := by
  cases step <;> simp [failure?]

theorem failure?_eq_some_iff {step : Except ε α} {error : ε} :
    failure? step = some error ↔ step = .error error := by
  cases step <;> simp [failure?]

@[simp] theorem failure?_map (step : Except ε α) (f : α → β) :
    failure? (step.map f) = failure? step := by
  cases step <;> rfl

theorem mapM_eq_ok_iff {f : α → Except ε β} {inputs : List α} {results : List β} :
    inputs.mapM f = .ok results ↔
      List.Forall₂ (fun input result => f input = .ok result) inputs results := by
  induction inputs generalizing results with
  | nil => simp [eq_comm]
  | cons input inputs ih =>
    simp only [List.mapM_cons, bind_eq_ok_iff, pure_eq_ok, Except.ok.injEq, List.forall₂_cons_left_iff,
      ih]
    constructor
    · rintro ⟨result, first, others, rest, rfl⟩
      exact ⟨result, others, first, rest, rfl⟩
    · rintro ⟨result, others, first, rest, rfl⟩
      exact ⟨result, first, others, rest, rfl⟩

/-- A row of computations fails as the first one that fails. -/
theorem mapM_eq_error_iff {f : α → Except ε β} {inputs : List α} {error : ε} :
    inputs.mapM f = .error error ↔
      inputs.findSome? (fun input => failure? (f input)) = some error := by
  induction inputs with
  | nil => simp
  | cons input inputs ih =>
    rw [List.mapM_cons, List.findSome?_cons]
    cases first : f input with
    | error other => simp [failure?]
    | ok value =>
      rw [ok_bind, failure?, ← ih]
      cases rest : inputs.mapM f <;> simp

end DiagnosticReplay.Result
