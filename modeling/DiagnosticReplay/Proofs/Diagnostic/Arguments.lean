import DiagnosticReplay.Diagnostic
import DiagnosticReplay.Proofs.SortedMap
import DiagnosticReplay.Proofs.Text.LetterCase
import Mathlib.Data.List.Induction

/-! # Arguments given one after the other

A diagnostic takes its arguments one by one, each under its folded name, and a later one replaces an
earlier one of that name. So it makes no difference in which case the letters of a name were given,
and a name finds the last argument that was given under it in some case.
-/

namespace DiagnosticReplay.Diagnostic

open Text

/-- An argument and the name that it is given under. -/
abbrev Given := String × Argument

/-- The same diagnostic with arguments given one after the other. -/
def withArguments (diagnostic : Diagnostic) (calls : List Given) : Diagnostic :=
  calls.foldl (fun built call => built.withArgument call.1 call.2) diagnostic

/-- The argument is given under the name, with some ASCII letters in another case. -/
def Given.Meets (call : Given) (name : String) : Prop :=
  Recased call.1.toList name.toList

/-- The same argument, under the name with some ASCII letters in another case. -/
def Given.IsRecased (call other : Given) : Prop :=
  call.Meets other.1 ∧ call.2 = other.2

instance (call : Given) (name : String) : Decidable (call.Meets name) :=
  inferInstanceAs (Decidable (Recased call.1.toList name.toList))

variable {diagnostic : Diagnostic} {calls others : List Given}

theorem withArguments_concat (diagnostic : Diagnostic) (calls : List Given) (call : Given) :
    diagnostic.withArguments (calls ++ [call]) =
      (diagnostic.withArguments calls).withArgument call.1 call.2 := by
  rw [withArguments, List.foldl_append]
  rfl

@[simp] theorem id_withArguments (diagnostic : Diagnostic) (calls : List Given) :
    (diagnostic.withArguments calls).id = diagnostic.id := by
  induction calls generalizing diagnostic with
  | nil => rfl
  | cons call rest ih => exact ih (diagnostic.withArgument call.1 call.2)

/-- What is attached is found under its folded name, and nothing else changes. -/
theorem argument?_withArgument (diagnostic : Diagnostic) (name other : String) (value : Argument) :
    (diagnostic.withArgument name value).argument? other =
      if foldCase other = foldCase name then some value else diagnostic.argument? other := by
  simp only [argument?, withArgument, SortedMap.get?_insert, beq_iff_eq]

/-- Arguments of different folded names can be given in either order. -/
theorem withArgument_comm {name other : String} (differ : foldCase name ≠ foldCase other)
    (value held : Argument) :
    (diagnostic.withArgument name value).withArgument other held =
      (diagnostic.withArgument other held).withArgument name value := by
  simp only [withArgument, SortedMap.insert_comm _ differ]

/-- A name finds the last argument that was given under it, and if there was none, what it found
before. -/
theorem argument?_withArguments_or (diagnostic : Diagnostic) (calls : List Given) (name : String) :
    ((∀ call ∈ calls, ¬ call.Meets name) ∧
        (diagnostic.withArguments calls).argument? name = diagnostic.argument? name) ∨
      ∃ before call after, calls = before ++ call :: after ∧
        call.Meets name ∧ (∀ later ∈ after, ¬ later.Meets name) ∧
        (diagnostic.withArguments calls).argument? name = some call.2 := by
  induction calls using List.reverseRecOn with
  | nil => exact .inl ⟨fun call member => absurd member List.not_mem_nil, rfl⟩
  | append_singleton earlier last ih =>
    rw [withArguments_concat, argument?_withArgument]
    by_cases meets : last.Meets name
    · refine .inr ⟨earlier, last, [], rfl, meets, ?_, if_pos (foldCase_eq_iff.mpr meets).symm⟩
      exact fun later member => absurd member List.not_mem_nil
    · rw [if_neg fun same => meets (foldCase_eq_iff.mp same.symm)]
      have lastMisses : ∀ call ∈ [last], ¬ call.Meets name := List.forall_mem_singleton.mpr meets
      rcases ih with ⟨none, missed⟩ | ⟨before, call, after, rfl, given, latest, shown⟩
      · exact .inl ⟨List.forall_mem_append.mpr ⟨none, lastMisses⟩, missed⟩
      · exact .inr ⟨before, call, after ++ [last], by simp, given,
          List.forall_mem_append.mpr ⟨latest, lastMisses⟩, shown⟩

/-- A name finds the last argument that was given under it, and nothing if there was none. -/
theorem argument?_withArguments (fresh : diagnostic.arguments = .empty) (calls : List Given)
    (name : String) :
    ((∀ call ∈ calls, ¬ call.Meets name) ∧
        (diagnostic.withArguments calls).argument? name = none) ∨
      ∃ before call after, calls = before ++ call :: after ∧
        call.Meets name ∧ (∀ later ∈ after, ¬ later.Meets name) ∧
        (diagnostic.withArguments calls).argument? name = some call.2 := by
  have nothing : diagnostic.argument? name = none := by
    rw [argument?, fresh, SortedMap.get?_empty]
  have found := argument?_withArguments_or diagnostic calls name
  rwa [nothing] at found

/-- Names in another case give the same diagnostic. -/
theorem withArguments_eq_of_isRecased (same : List.Forall₂ Given.IsRecased calls others) :
    diagnostic.withArguments calls = diagnostic.withArguments others := by
  induction same generalizing diagnostic with
  | nil => rfl
  | @cons call other _ _ recased _ ih =>
    have step : diagnostic.withArgument call.1 call.2 = diagnostic.withArgument other.1 other.2 := by
      rw [withArgument, withArgument, foldCase_eq_iff.mpr recased.1, recased.2]
    rw [withArguments, List.foldl_cons, step]
    exact ih

end DiagnosticReplay.Diagnostic
