import DiagnosticReplay.Program
import DiagnosticReplay.Proofs.Formatter.LineFeeds
import DiagnosticReplay.Proofs.Result
import DiagnosticReplay.Proofs.Text.Split

/-! # The lines of an output

A run ends each line that it prints by a line feed and does nothing about the line feeds inside one.
So what it prints can be read back line by line exactly if no diagnostic shows an argument with a
line feed; otherwise there are more lines than diagnostics, and one of them can read like a
diagnostic that was never recorded.
-/

namespace DiagnosticReplay.Program

open Formatter

variable {world : World} {options : CommandLine.Options} {collection : Collection}

/-- A run prints the line of each diagnostic that it loaded, from files or from the standard
input. -/
theorem output_run_of_collection (parsed : CommandLine.parse world.arguments = .ok options)
    (printing : options.listMessages = false)
    (loaded : (load world options.files).result = .ok collection) :
    (run world).output = collection.diagnostics.map Diagnostic.line := by
  simp only [run, act, parsed, printing, Bool.false_eq_true, if_false, report, loaded,
    Formatter.formatAll, List.map_map]
  rfl

/-- The output of a run has one line for each diagnostic, and these are the lines of the diagnostics,
exactly if no diagnostic shows an argument with a line feed. -/
theorem outputText_lines (parsed : CommandLine.parse world.arguments = .ok options)
    (printing : options.listMessages = false)
    (loaded : (load world options.files).result = .ok collection) :
    let parts := Text.splitAt '\n' (run world).outputText
    ((∀ diagnostic ∈ collection.diagnostics, ¬standard.ShowsLineFeed diagnostic) ↔
      parts.length = collection.size + 1) ∧
    ((∀ diagnostic ∈ collection.diagnostics, ¬standard.ShowsLineFeed diagnostic) ↔
      parts = collection.diagnostics.map Diagnostic.line ++ [""]) ∧
    ∀ diagnostic : Diagnostic,
      '\n' ∉ diagnostic.line.toList ↔ ¬standard.ShowsLineFeed diagnostic := by
  intro parts
  have shown (diagnostic : Diagnostic) :
      '\n' ∉ diagnostic.line.toList ↔ ¬standard.ShowsLineFeed diagnostic :=
    not_congr (lineFeed_mem_format_iff isPlain_standard diagnostic)
  have text : (run world).outputText =
      Text.terminated '\n' (collection.diagnostics.map Diagnostic.line) := by
    rw [Outcome.outputText, output_run_of_collection parsed printing loaded]
    rfl
  have counted : (∀ diagnostic ∈ collection.diagnostics, ¬standard.ShowsLineFeed diagnostic) ↔
      parts.length = collection.size + 1 := by
    have lengths := @Text.length_splitAt_terminated_eq_iff '\n'
      (collection.diagnostics.map Diagnostic.line)
    rw [List.length_map, List.forall_mem_map, ← text] at lengths
    simp only [shown] at lengths
    exact lengths.symm
  refine ⟨counted, ⟨fun plain => ?_, fun same => counted.mpr ?_⟩, shown⟩
  · have each : ∀ line ∈ collection.diagnostics.map Diagnostic.line, '\n' ∉ line.toList :=
      List.forall_mem_map.mpr fun diagnostic member => (shown diagnostic).mpr (plain diagnostic member)
    have found := Text.splitAt_terminated_of_plain each
    rwa [← text] at found
  · rw [same, List.length_append, List.length_map, Collection.size]
    rfl

/-- A world in which a path holds a line feed, and so does an argument that no template asks for. -/
def hiddenLineFeeds : World where
  arguments := ["d.json"]
  contents _ := .ok (String.toUTF8
    "\x7b\"diagnostics\":[\x7b\"id\":20,\"filePath\":\"/a\\nb\",\"line\":1,\"column\":0,\"arguments\":\x7b\"t\":\x7b\"text\":\"\\n\"\x7d\x7d\x7d]\x7d")

theorem outputText_lines_hiddenLineFeeds :
    ∃ collection, (load hiddenLineFeeds ["d.json"]).result = .ok collection ∧
      (Text.splitAt '\n' (run hiddenLineFeeds).outputText).length = collection.size + 1 ∧
      ∀ diagnostic ∈ collection.diagnostics, ¬standard.ShowsLineFeed diagnostic := by
  have parsed : CommandLine.parse hiddenLineFeeds.arguments = .ok { files := ["d.json"] } := by
    decide +kernel
  have one : (load hiddenLineFeeds ["d.json"]).result.map Collection.size = .ok 1 := by
    decide +kernel
  obtain ⟨collection, loaded, size⟩ := Result.map_eq_ok_iff.mp one
  have lines : (Text.splitAt '\n' (run hiddenLineFeeds).outputText).length =
      collection.size + 1 := by
    rw [size]
    decide +kernel
  exact ⟨collection, loaded, lines, (outputText_lines parsed rfl loaded).1.mpr lines⟩

/-- A world in which an argument spells the line of a second diagnostic. -/
def forgedLine : World where
  arguments := ["d.json"]
  contents _ := .ok (String.toUTF8
    "\x7b\"diagnostics\":[\x7b\"id\":0,\"filePath\":\"/a\",\"line\":1,\"column\":0,\"arguments\":\x7b\"t\":\x7b\"text\":\"x\\nfile:///b:2:1: SyntaxError: Error #0: Unexpected y\"\x7d\x7d\x7d]\x7d")

/-- One diagnostic is loaded, and the output has two lines that read like diagnostics. -/
theorem outputText_forgedLine :
    (load forgedLine ["d.json"]).result.map Collection.size = .ok 1 ∧
      Text.splitAt '\n' (run forgedLine).outputText =
        ["file:///a:1:1: SyntaxError: Error #0: Unexpected x",
          "file:///b:2:1: SyntaxError: Error #0: Unexpected y", ""] := by
  decide +kernel

end DiagnosticReplay.Program
