import DiagnosticReplay.Source.Register
import Mathlib.Data.List.Basic

/-! # What a register hands out

A register never takes a script back and never changes one, so whatever it handed out on the way can
be found in it at the end. There the place of a script is its number and its path is the one that
was asked for: two requests got one and the same script exactly if they asked for the same path.
-/

namespace DiagnosticReplay.Source.ScriptRegister

variable {register : ScriptRegister} {path other : String} {script also : Script}

section Lookup

theorem path_of_find? (held : register.find? path = some script) : script.path = path := by
  rw [find?] at held
  exact eq_of_beq (List.find?_some (p := fun script : Script => script.path == path) held)

theorem mem_of_find? (held : register.find? path = some script) : script ∈ register.scripts :=
  List.mem_of_find?_eq_some held

/-- A script that is handed out is held from then on. -/
theorem find?_handOut (register : ScriptRegister) (path : String) :
    (register.handOut path).2.find? path = some (register.handOut path).1 := by
  rw [handOut]
  cases held : register.find? path with
  | some script => exact held
  | none =>
    rw [find?] at held
    simp [find?, held, Script.shared, Script.ofContent]

/-- What a register holds stays held, whatever else is handed out. -/
theorem find?_handOut_of_held (held : register.find? other = some script) (path : String) :
    (register.handOut path).2.find? other = some script := by
  rw [handOut]
  cases register.find? path with
  | some earlier => exact held
  | none =>
    rw [find?] at held
    simp [find?, held]

end Lookup

section Numbers

/-- Every script that was handed out has its place as its number, and no content. -/
def IsNumbered (register : ScriptRegister) : Prop :=
  ∀ (place : Nat) (script : Script), register.scripts[place]? = some script →
    script = .shared place script.path

theorem isNumbered_empty : empty.IsNumbered := by
  intro place script found
  simp [empty] at found

theorem IsNumbered.handOut (numbered : register.IsNumbered) (path : String) :
    (register.handOut path).2.IsNumbered := by
  rw [ScriptRegister.handOut]
  cases register.find? path with
  | some earlier => exact numbered
  | none =>
    intro place script found
    rcases Nat.lt_or_ge place register.scripts.length with within | beyond
    · rw [List.getElem?_append_left within] at found
      exact numbered place script found
    · -- the new script is the last one, so its place is the number of those before it
      rw [List.getElem?_append_right beyond, List.getElem?_singleton] at found
      split at found
      · obtain rfl : place = register.scripts.length := by omega
        rw [← Option.some.inj found]
        rfl
      · simp at found

/-- A script that is held is the shared script of the path that it is held for. -/
theorem IsNumbered.exists_shared (numbered : register.IsNumbered)
    (held : register.find? path = some script) : ∃ number, script = .shared number path := by
  obtain ⟨place, found⟩ := List.getElem?_of_mem (mem_of_find? held)
  exact ⟨place, path_of_find? held ▸ numbered place script found⟩

/-- Scripts of one number are one script, which has one path. -/
theorem IsNumbered.number_eq_iff (numbered : register.IsNumbered)
    (first : register.find? path = some script) (second : register.find? other = some also) :
    script.number = also.number ↔ path = other := by
  constructor
  · intro same
    obtain ⟨place, found⟩ := List.getElem?_of_mem (mem_of_find? first)
    obtain ⟨alsoPlace, alsoFound⟩ := List.getElem?_of_mem (mem_of_find? second)
    rw [numbered _ _ found, numbered _ _ alsoFound] at same
    obtain rfl : place = alsoPlace := Option.some.inj same
    rw [alsoFound] at found
    rw [← path_of_find? first, ← path_of_find? second, Option.some.inj found]
  · rintro rfl
    rw [Option.some.inj (first.symm.trans second)]

end Numbers

section Runs

/-- The register that is left when the scripts of some paths have been handed out. -/
def after (register : ScriptRegister) (paths : List String) : ScriptRegister :=
  paths.foldl (fun left path => (left.handOut path).2) register

theorem IsNumbered.after (numbered : register.IsNumbered) (paths : List String) :
    (register.after paths).IsNumbered := by
  induction paths generalizing register with
  | nil => exact numbered
  | cons path paths ih => exact ih (numbered.handOut path)

theorem find?_after_of_held (held : register.find? other = some script) (paths : List String) :
    (register.after paths).find? other = some script := by
  induction paths generalizing register with
  | nil => exact held
  | cons path paths ih => exact ih (find?_handOut_of_held held path)

end Runs

end DiagnosticReplay.Source.ScriptRegister
