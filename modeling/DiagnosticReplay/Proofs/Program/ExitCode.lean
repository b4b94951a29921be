import DiagnosticReplay.Proofs.Location.Decoding
import DiagnosticReplay.Proofs.Program.Summary

/-! # The exit code for errors

A run ends with the code for errors in two ways: an error was printed, or its arguments have a
mistake, and then nothing is printed. The code does not tell the two apart. A run that lists the
messages, shows the help or cannot load its input ends with another code, and nothing that it prints
is the line of a diagnostic.
-/

namespace DiagnosticReplay.Program

/-- A printed line is that of a diagnostic which is an error. -/
def Outcome.PrintsError (outcome : Outcome) : Prop :=
  ∃ diagnostic : Diagnostic, diagnostic.isError = true ∧ diagnostic.line ∈ outcome.output

section Lines

/-- The line of a diagnostic starts with its URI. -/
theorem head?_line (diagnostic : Diagnostic) : diagnostic.line.toList.head? = some 'f' := by
  have uri : (Location.ofSpan diagnostic.span).uri.toList.head? = some 'f' := by
    have scheme : "file:///".toList = 'f' :: "ile:///".toList := by simp
    change (Location.uriOf _).toList.head? = _
    rw [Location.uriOf, String.toList_ofList]
    unfold FileUri.ofPath
    rw [scheme, List.cons_append]
    exact congrArg List.head? (Location.withoutFinalSlash_append ['f'] (by simp))
  rw [Diagnostic.line, Formatter.toList_format, Formatter.toList_location]
  simp [List.head?_append, uri]

/-- Lines that start otherwise than with a URI show no error. -/
theorem not_printsError {outcome : Outcome}
    (others : ∀ line ∈ outcome.output, line.toList.head? ≠ some 'f') : ¬outcome.PrintsError := by
  rintro ⟨diagnostic, -, member⟩
  exact others _ member (head?_line diagnostic)

theorem head?_of_mem_helpLines :
    ∀ line ∈ CommandLine.helpLines, line.toList.head? ≠ some 'f' := by
  decide

theorem head?_of_mem_messageLines : ∀ line ∈ messageLines, line.toList.head? ≠ some 'f' := by
  intro line member
  obtain ⟨entry, -, rfl⟩ := List.mem_map.mp member
  simp

/-- A printed line shows the severity of its diagnostic, so an error is printed exactly if one is to
be printed. -/
theorem printsError_printing_iff (quiet : Bool) (diagnostics : List Diagnostic) :
    (Outcome.printing quiet diagnostics).PrintsError ↔
      ∃ diagnostic ∈ diagnostics, diagnostic.isError = true := by
  constructor
  · rintro ⟨shown, isError, member⟩
    obtain ⟨diagnostic, inDiagnostics, same⟩ := List.mem_map.mp member
    have labels : diagnostic.severity.label = shown.severity.label := by
      have read := labelOf?_line diagnostic
      rw [same, labelOf?_line] at read
      exact (Option.some.inj read).symm
    have severities := Formatter.severity_label_inj (congrArg String.toList labels)
    refine ⟨diagnostic, inDiagnostics, ?_⟩
    rw [Diagnostic.isError, severities]
    exact isError
  · rintro ⟨diagnostic, member, isError⟩
    exact ⟨diagnostic, isError, List.mem_map_of_mem member⟩

end Lines

section Runs

theorem exitCode_printing_eq_iff (quiet : Bool) (diagnostics : List Diagnostic) :
    (Outcome.printing quiet diagnostics).exitCode = errorsCode ↔
      ∃ diagnostic ∈ diagnostics, diagnostic.isError = true := by
  rw [Outcome.exitCode_printing, ← List.any_eq_true]
  cases diagnostics.any Diagnostic.isError <;> decide

/-- A run that has loaded its input, or failed to, ends with the code for errors exactly if it printed
an error. -/
theorem exitCode_report_eq_iff (world : World) (quiet : Bool) (loading : Loading) :
    (report world quiet loading).exitCode = errorsCode ↔
      (report world quiet loading).PrintsError := by
  cases loaded : loading.result with
  | error error =>
    simp only [report, loaded]
    have silent : ¬Outcome.PrintsError
        ⟨inputFailureCode, [], logNotices world loading.events ++ [.failure error]⟩ :=
      not_printsError fun _ member => absurd member List.not_mem_nil
    exact iff_of_false (by decide) silent
  | ok collection =>
    -- The log is the only thing in which this run differs from printing the collection.
    have output : (report world quiet loading).output =
        (Outcome.printing quiet collection.diagnostics).output := by
      simp only [report, loaded, Formatter.formatAll, List.map_map]
      rfl
    have code : (report world quiet loading).exitCode =
        (Outcome.printing quiet collection.diagnostics).exitCode := by
      simp only [report, loaded]
      rfl
    rw [Outcome.PrintsError, output, code, exitCode_printing_eq_iff]
    exact (printsError_printing_iff quiet collection.diagnostics).symm

theorem exitCode_follow_eq_iff (world : World)
    (asked : Except CommandLine.Interruption CommandLine.Options) :
    (world.follow asked).exitCode = errorsCode ↔
      (∃ error, asked = .error (.mistake error)) ∨ (world.follow asked).PrintsError := by
  rcases asked with (_ | error) | options
  · have silent : ¬(world.follow (.error .helpWanted)).PrintsError :=
      not_printsError head?_of_mem_helpLines
    have code : successCode ≠ errorsCode := by decide
    exact iff_of_false code (not_or.mpr ⟨by simp, silent⟩)
  · exact iff_of_true rfl (.inl ⟨error, rfl⟩)
  · rw [or_iff_right (by simp), World.follow]
    split
    · exact iff_of_false (by decide) (not_printsError head?_of_mem_messageLines)
    · exact exitCode_report_eq_iff world options.quiet (load world options.files)

/-- A run ends with the code for errors exactly if its arguments have a mistake or it printed an
error. With a mistake it prints nothing. -/
theorem exitCode_run_eq_iff (world : World) :
    ((run world).exitCode = 2 ↔
      (∃ error, CommandLine.parse world.arguments = .error (.mistake error)) ∨
        (run world).PrintsError) ∧
    ((∃ error, CommandLine.parse world.arguments = .error (.mistake error)) →
      (run world).output = []) := by
  rw [run_eq_follow]
  constructor
  · exact exitCode_follow_eq_iff world (CommandLine.parse world.arguments)
  · rintro ⟨error, mistaken⟩
    rw [mistaken]
    rfl

end Runs

/-- A world in which an argument is a flag that there is not. -/
def unknownFlag : World where
  arguments := ["--nope"]
  contents _ := .error .notFound

theorem exitCode_run_eq_iff_unknownFlag :
    (run unknownFlag).exitCode = 2 ∧ (run unknownFlag).output = [] := by
  have mistaken : ∃ error, CommandLine.parse unknownFlag.arguments = .error (.mistake error) :=
    ⟨.unexpectedArgument "--nope", by decide +kernel⟩
  obtain ⟨code, silent⟩ := exitCode_run_eq_iff unknownFlag
  exact ⟨code.mpr (.inl mistaken), silent mistaken⟩

/-- The code for errors, and no error printed. -/
theorem exitCode_unknownFlag :
    (run unknownFlag).exitCode = 2 ∧ ¬(run unknownFlag).PrintsError ∧
      (run unknownFlag).errorText = "error: unexpected argument '--nope' found\n" := by
  have silent : ∀ line ∈ (run unknownFlag).output, line.toList.head? ≠ some 'f' := by
    decide +kernel
  exact ⟨by decide +kernel, not_printsError silent, by decide +kernel⟩

end DiagnosticReplay.Program
