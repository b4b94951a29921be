import Mathlib.Data.List.TakeWhile

/-! # Runs of characters

A run is a stretch of characters of one kind that goes on for as long as it can: what stands after
it is the end of the text or a character of another kind. A text is cut into a run and the rest in
one way only, and `takeWhile` and `dropWhile` find both. For the same reason a text is cut in one
way only at its first separator, and at its last.
-/

namespace DiagnosticReplay.Text

variable {kind : Char → Bool} {run rest : List Char}

/-- A run of the kind cannot go on into the text. -/
def EndsRun (kind : Char → Bool) (rest : List Char) : Prop :=
  ∀ next ∈ rest.head?, kind next = false

theorem endsRun_cons {next : Char} : EndsRun kind (next :: rest) ↔ kind next = false := by
  simp [EndsRun]

theorem endsRun_dropWhile (kind : Char → Bool) (text : List Char) :
    EndsRun kind (text.dropWhile kind) := by
  intro next first
  have outside := List.head?_dropWhile_not kind text
  rw [Option.mem_def.mp first] at outside
  exact outside

theorem EndsRun.takeWhile_eq_nil (ends : EndsRun kind rest) : rest.takeWhile kind = [] := by
  cases rest with
  | nil => rfl
  | cons next rest => simp [endsRun_cons.mp ends]

theorem EndsRun.dropWhile_eq_self (ends : EndsRun kind rest) : rest.dropWhile kind = rest := by
  cases rest with
  | nil => rfl
  | cons next rest => simp [endsRun_cons.mp ends]

theorem takeWhile_run (all : ∀ character ∈ run, kind character = true)
    (ends : EndsRun kind rest) : (run ++ rest).takeWhile kind = run := by
  rw [List.takeWhile_append_of_pos all, ends.takeWhile_eq_nil, List.append_nil]

theorem dropWhile_run (all : ∀ character ∈ run, kind character = true)
    (ends : EndsRun kind rest) : (run ++ rest).dropWhile kind = rest := by
  rw [List.dropWhile_append_of_pos all, ends.dropWhile_eq_self]

section Separators

variable {separator : Char} {first second firstRest secondRest : List Char}

/-- Two texts that are cut at the first separator are cut alike. -/
theorem append_separator_inj (inFirst : separator ∉ first) (inSecond : separator ∉ second)
    (same : first ++ separator :: firstRest = second ++ separator :: secondRest) :
    first = second ∧ firstRest = secondRest := by
  have head {part rest : List Char} (absent : separator ∉ part) :
      (part ++ separator :: rest).takeWhile (· != separator) = part :=
    takeWhile_run (fun c member => bne_iff_ne.mpr fun equal => absent (equal ▸ member))
      (endsRun_cons.mpr (bne_self_eq_false separator))
  have parts : first = second := by rw [← head inFirst, same, head inSecond]
  exact ⟨parts, (List.cons.inj (List.append_cancel_left (parts ▸ same))).2⟩

/-- Two texts that are cut at the last separator are cut alike. -/
theorem append_separator_inj_last (inFirst : separator ∉ firstRest)
    (inSecond : separator ∉ secondRest)
    (same : first ++ separator :: firstRest = second ++ separator :: secondRest) :
    first = second ∧ firstRest = secondRest := by
  have reversed : firstRest.reverse ++ separator :: first.reverse =
      secondRest.reverse ++ separator :: second.reverse := by
    simpa using congrArg List.reverse same
  have parts := append_separator_inj (mt List.mem_reverse.mp inFirst)
    (mt List.mem_reverse.mp inSecond) reversed
  exact ⟨List.reverse_inj.mp parts.2, List.reverse_inj.mp parts.1⟩

end Separators

end DiagnosticReplay.Text
