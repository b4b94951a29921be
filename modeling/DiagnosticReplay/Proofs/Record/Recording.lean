import DiagnosticReplay.Proofs.Record.Grammar
import DiagnosticReplay.Proofs.Record.Report

/-! # What recordings describe

A recording of some reports is a document of the entries that say what the reports say, so it is
read as those entries. A member that a report leaves out, because it holds its default, is a field
that the entry may lack.
-/

namespace DiagnosticReplay.Record

open Json

/-- A token as an entry holds it. -/
def TokenEntry.ofData (data : TokenData) : TokenEntry where
  kind := data.kind
  operator := data.operator.map Operator.text
  stringValue := data.stringValue

/-- An argument as an entry holds it. -/
def ArgumentEntry.ofArgument : Argument → ArgumentEntry
  | .tokenData data => .tokenData (.ofData data)
  | .token kind => .token kind
  | .modifier named => .modifier named
  | .access named => .access named
  | .text value => .text value

/-- The arguments of a report as an entry holds them. -/
def Report.argumentEntries (report : Report) : List (String × ArgumentEntry) :=
  report.arguments.map fun argument => (argument.1, .ofArgument argument.2)

/-- A report as an entry holds it. -/
def Report.entry (report : Report) : Entry where
  id := report.id
  filePath := report.path
  line := report.line
  column := report.column
  warning := report.warning
  stage := report.stage
  arguments := .ofList report.argumentEntries

variable {node : Node}

theorem fits_tokenRules (data : TokenData) :
    List.Forall₂ (MemberRule.Fits tokenGrammar) (tokenRules data)
      (TokenEntry.ofData data).fieldRules := by
  refine .cons ⟨rfl, ?kind, by simp⟩ (.cons ⟨rfl, ?operator, ?noOperator⟩
    (.cons ⟨rfl, fun _ => id, by simp [TokenEntry.ofData]⟩ .nil))
  case kind => exact fun _ => .text
  case operator =>
    intro value is
    exact Node.IsTextOrNull.isOptional id (fun _ _ => id) (by rwa [Option.map_id])
  case noOperator => simp [TokenEntry.ofData]

theorem isTokenEntry_of_isRecord {data : TokenData} (is : node.IsRecord (tokenRules data)) :
    IsTokenEntry (.ofData data) node :=
  is.isShaped (fits_tokenRules data) (by simp [tokenRules])

theorem writes_ofArgument {argument : Argument} (written : WritesContent argument node) :
    (ArgumentEntry.ofArgument argument).Writes node := by
  cases argument with
  | tokenData data => exact isTokenEntry_of_isRecord written
  | text value => exact written
  | token kind => exact .text written
  | modifier named => exact .text written
  | access named => exact .text written

theorem isArgument_of_writes {argument : Argument} (written : WritesArgument argument node) :
    IsArgument (.ofArgument argument) node := by
  have tagged : (ArgumentEntry.ofArgument argument).tag.label = argumentTag argument := by
    cases argument <;> rfl
  obtain ⟨denoted, content⟩ := written
  exact .map (tagged ▸ denoted) (writes_ofArgument content)

theorem isArguments_of_writes {report : Report} (written : WritesArguments report.arguments node) :
    IsArguments (.ofList report.argumentEntries) node := by
  obtain ⟨are, each⟩ := written
  refine .map (.map are ?_) (SortedMap.get?_ofList report.argumentEntries)
  rw [Report.argumentEntries, List.forall₂_map_left_iff]
  exact each.imp fun argument pair named => ⟨named.name, isArgument_of_writes named.content⟩

theorem fits_reportRules (report : Report) :
    List.Forall₂ (MemberRule.Fits entryGrammar) (reportRules report) report.entry.fieldRules := by
  refine .cons ⟨rfl, fun _ => id, by simp⟩ (.cons ⟨rfl, fun _ => id, by simp⟩
    (.cons ⟨rfl, fun _ => id, by simp⟩ (.cons ⟨rfl, fun _ => id, by simp⟩
      (.cons ⟨rfl, fun _ => id, ?noWarning⟩ (.cons ⟨rfl, ?stage, ?noStage⟩
        (.cons ⟨rfl, fun _ => isArguments_of_writes, ?noArguments⟩ .nil))))))
  case noWarning => simp [Report.entry]
  case stage => exact fun _ => Node.IsTextOrNull.isOptional Stage.recordName fun _ _ => .text
  case noStage => simp [Report.entry]
  case noArguments =>
    intro none
    have isEmpty : report.arguments = [] := not_not.mp none
    simp only [Report.entry, Report.argumentEntries, isEmpty]
    rfl

theorem isEntry_of_isRecord {report : Report} (is : node.IsRecord (reportRules report)) :
    IsEntry report.entry node :=
  is.isShaped (fits_reportRules report) (by simp [reportRules])

theorem fits_documentRules (reports : List Report) :
    List.Forall₂ (MemberRule.Fits documentGrammar) (documentRules reports)
      [{ content := reports.map Report.entry, mayLack := reports.map Report.entry = [],
         mayEnd := reports.map Report.entry = [] }] := by
  refine .cons ⟨rfl, ?_, by simp⟩ .nil
  rintro value ⟨are, each⟩
  refine .list are ?_
  rw [List.forall₂_map_left_iff]
  exact each.imp fun _ _ => isEntry_of_isRecord

/-- A recording is a document of the entries of its reports, in their order. -/
theorem Recording.describes {reports : List Report} {text : String}
    (recorded : Recording reports text) : Describes text (reports.map Report.entry) := by
  obtain ⟨isDocument, spelled⟩ := recorded
  exact .document (isDocument.isShaped (fits_documentRules reports) (by simp [documentRules]))
    spelled

/-- A recording is read as the entries of its reports. -/
theorem ofText_of_recording {reports : List Report} {text : String}
    (recorded : Recording reports text) : ofText text = .ok (reports.map Report.entry) :=
  ofText_eq_ok_iff.mpr recorded.describes

end DiagnosticReplay.Record
