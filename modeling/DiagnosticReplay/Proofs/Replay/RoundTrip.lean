import DiagnosticReplay.Proofs.Record.Recording
import DiagnosticReplay.Proofs.Replay.Faults

/-! # Loading what was recorded

A recording of some reports is loaded as one diagnostic for each of them, in their order, and each
diagnostic says what its report said. Attaching the arguments of a record cannot fail, because their
names differ in more than case; and an operator is found again by its text, because no two operators
share one.
-/

namespace DiagnosticReplay

open Record

namespace Replay

section Arguments

theorem ofText?_text (operator : Operator) : Operator.ofText? operator.text = some operator := by
  cases operator <;> rfl

theorem loadToken_ofData (origin : String) (data : TokenData) :
    loadToken origin (.ofData data) = .ok data := by
  obtain ⟨kind, operator, stringValue⟩ := data
  cases operator with
  | none => rfl
  | some operator => simp only [loadToken, TokenEntry.ofData, Option.map_some, ofText?_text]

theorem loadArgument_ofArgument (origin : String) (argument : Argument) :
    loadArgument origin (.ofArgument argument) = .ok argument := by
  cases argument with
  | tokenData data =>
    simp only [ArgumentEntry.ofArgument, loadArgument, loadToken_ofData, Result.ok_bind]
    rfl
  | _ => rfl

/-- Arguments whose folded names are new and differ are attached one after the other. -/
theorem attachAll_of_distinct (origin : String) {arguments : List (String × Argument)}
    (distinct : (arguments.map fun argument => Text.foldCase argument.1).Nodup)
    (diagnostic : Diagnostic)
    (fresh : ∀ argument ∈ arguments, diagnostic.argument? argument.1 = none) :
    attachAll origin diagnostic
        (arguments.map fun argument => (argument.1, .ofArgument argument.2)) =
      .ok { diagnostic with
        arguments := diagnostic.arguments.insertAll
          (arguments.map fun argument => (Text.foldCase argument.1, argument.2)) } := by
  induction arguments generalizing diagnostic with
  | nil => rfl
  | cons argument rest ih =>
    obtain ⟨name, value⟩ := argument
    obtain ⟨absent, distinctRest⟩ := List.nodup_cons.mp distinct
    obtain ⟨isNew, freshRest⟩ := List.forall_mem_cons.mp fresh
    have freshAfter : ∀ other ∈ rest,
        (diagnostic.withArgument name value).argument? other.1 = none := by
      intro other member
      have differs : Text.foldCase other.1 ≠ Text.foldCase name := fun same =>
        absent (List.mem_map.mpr ⟨other, member, same⟩)
      rw [Diagnostic.argument?_withArgument, if_neg differs, freshRest other member]
    have attached := ih distinctRest (diagnostic.withArgument name value) freshAfter
    simp only [List.map_cons, attachAll, isNew, loadArgument_ofArgument, Result.ok_bind, attached]
    rfl

end Arguments

section Reports

/-- What is loaded of a report that stands in a script. -/
def diagnosticOf (report : Report) (script : Source.Script) : Diagnostic :=
  { bareDiagnostic script report.entry with
    arguments := .ofList ((SortedMap.ofList report.arguments).entries.map fun argument =>
      (Text.foldCase argument.1, argument.2)) }

/-- The names of a report differ exactly, since they differ in more than case. -/
theorem nodup_names (report : Report) : (report.arguments.map Prod.fst).Nodup := by
  apply List.Nodup.of_map Text.foldCase
  rw [List.map_map]
  exact report.distinct

theorem nodup_folded (report : Report) :
    ((SortedMap.ofList report.arguments).entries.map fun argument =>
      Text.foldCase argument.1).Nodup := by
  have same := (SortedMap.perm_entries_ofList (nodup_names report)).map fun argument =>
    Text.foldCase argument.1
  exact same.symm.nodup report.distinct

/-- The loaded arguments are those of the report under their folded names. -/
theorem get?_diagnosticOf (report : Report) (script : Source.Script) {key : String}
    {argument : Argument} :
    (diagnosticOf report script).arguments.get? key = some argument ↔
      ∃ name, (name, argument) ∈ report.arguments ∧ Text.foldCase name = key := by
  have distinct := nodup_folded report
  have folded : (((SortedMap.ofList report.arguments).entries.map fun argument =>
      (Text.foldCase argument.1, argument.2)).map Prod.fst).Nodup := by
    rwa [List.map_map]
  have kept := SortedMap.perm_entries_ofList (nodup_names report)
  rw [diagnosticOf, SortedMap.get?_ofList_of_distinct folded, List.mem_map]
  constructor
  · rintro ⟨⟨name, value⟩, member, same⟩
    obtain ⟨rfl, rfl⟩ := Prod.mk.inj same
    exact ⟨name, kept.mem_iff.mp member, rfl⟩
  · rintro ⟨name, member, rfl⟩
    exact ⟨(name, argument), kept.mem_iff.mpr member, rfl⟩

theorem loadEntry_entry (origin : String) (script : Source.Script) (report : Report) :
    loadEntry origin script report.entry = .ok (diagnosticOf report script) := by
  rw [loadEntry]
  have entries : report.entry.arguments.entries =
      (SortedMap.ofList report.arguments).entries.map fun argument =>
        (argument.1, .ofArgument argument.2) :=
    SortedMap.entries_ofList_map ArgumentEntry.ofArgument report.arguments
  rw [entries]
  exact attachAll_of_distinct origin (nodup_folded report) _ fun _ _ => rfl

end Reports

/-- The diagnostic says what the report said. -/
structure Recalls (report : Report) (diagnostic : Diagnostic) : Prop where
  id : diagnostic.id = report.id
  path : diagnostic.span.script.path = report.path
  line : diagnostic.span.position.line = report.line
  column : diagnostic.span.position.column = report.column
  warning : diagnostic.isWarning = report.warning
  stage : diagnostic.stage = report.stage.getD (.ofId report.id)
  arguments : ∀ key argument, diagnostic.arguments.get? key = some argument ↔
    ∃ name, (name, argument) ∈ report.arguments ∧ Text.foldCase name = key

theorem recalls_diagnosticOf (report : Report) {script : Source.Script}
    (path : script.path = report.path) : Recalls report (diagnosticOf report script) where
  id := rfl
  path := path
  line := rfl
  column := rfl
  warning := by
    cases isWarning : report.warning <;>
      simp [Diagnostic.isWarning, diagnosticOf, bareDiagnostic, Report.entry, isWarning]
  stage := rfl
  arguments := fun _ _ => get?_diagnosticOf report script

/-- The record of a report is loaded as a diagnostic that says what the report said. -/
theorem LoadsAs.recalls {origin : String} {report : Report} {diagnostic : Diagnostic}
    (loadsAs : LoadsAs origin report.entry diagnostic) : Recalls report diagnostic := by
  obtain ⟨number, isLoaded⟩ := loadsAs
  rw [loadEntry_entry] at isLoaded
  exact Except.ok.inj isLoaded ▸ recalls_diagnosticOf report rfl

/-- Loading undoes recording. -/
theorem loadText_of_recording (origin : String) (reports : List Report) :
    (∃ text, Recording reports text) ∧ ∀ text, Recording reports text →
      ∃ loaded, loadText origin text = .ok loaded ∧
        List.Forall₂ Recalls reports loaded.collection.diagnostics ∧
        loadEvents origin (loadText origin text) = [.loaded origin reports.length] := by
  refine ⟨exists_recording reports, fun text recorded => ?_⟩
  have read := ofText_of_recording recorded
  have each : ∀ entry ∈ reports.map Report.entry,
      ∃ diagnostic, loadRecord origin entry = .ok diagnostic := by
    intro entry member
    obtain ⟨report, -, rfl⟩ := List.mem_map.mp member
    exact ⟨_, loadEntry_entry origin _ report⟩
  obtain ⟨loaded, isLoaded⟩ := (exists_loadText_eq_ok_iff read).mpr each
  obtain ⟨entries, same, loadsAs⟩ := loadText_eq_ok isLoaded
  obtain rfl := Except.ok.inj (read.symm.trans same)
  have recalls := (List.forall₂_map_left_iff.mp loadsAs).imp fun _ _ => LoadsAs.recalls
  refine ⟨loaded, isLoaded, recalls, ?_⟩
  rw [isLoaded, loadEvents, Collection.size, recalls.length_eq]

end Replay

end DiagnosticReplay
