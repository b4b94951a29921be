import DiagnosticReplay.Proofs.Program.Files
import DiagnosticReplay.Proofs.Replay.Faults
import DiagnosticReplay.Proofs.Rows

/-! # Runs compose over their files

What a run does whose files are all loaded follows from their records alone, one after the other:
the line of a record is the same in whatever file it stands, whatever records stand around it, and
whichever of them share its script. So a run over some files and then others prints what the two runs
print, counts what both of them count, and fails if one of them does.
-/

namespace DiagnosticReplay

namespace Diagnostic

/-- The diagnostic in a script of its own. -/
def unshared (diagnostic : Diagnostic) : Diagnostic :=
  { diagnostic with span.script.number := none }

variable (diagnostic : Diagnostic)

@[simp] theorem line_unshared : diagnostic.unshared.line = diagnostic.line := rfl

@[simp] theorem isError_unshared : diagnostic.unshared.isError = diagnostic.isError := rfl

@[simp] theorem isWarning_unshared : diagnostic.unshared.isWarning = diagnostic.isWarning := rfl

end Diagnostic

namespace Replay

variable {origin : String}

/-- A record by itself is loaded as the same diagnostic, in a script of its own. -/
theorem LoadsAs.loadRecord {entry : Record.Entry} {diagnostic : Diagnostic}
    (loadsAs : LoadsAs origin entry diagnostic) :
    Replay.loadRecord origin entry = .ok diagnostic.unshared := by
  obtain ⟨number, isLoaded⟩ := loadsAs
  rw [loadEntry_eq, Result.map_eq_ok_iff] at isLoaded
  obtain ⟨alone, isAlone, rfl⟩ := isLoaded
  rw [isAlone]
  exact congrArg (fun script => Except.ok (alone.inScript script)) (script_of_loadEntry isAlone)

/-- An argument is the same in whatever file it stands. -/
theorem loadArgument_eq_ok_of_origin {value : Record.ArgumentEntry} {argument : Argument}
    (loaded : loadArgument origin value = .ok argument) (other : String) :
    loadArgument other value = .ok argument := by
  cases value with
  | tokenData entry =>
    obtain ⟨kind, operator, stringValue⟩ := entry
    cases operator with
    | none => exact loaded
    | some text =>
      cases found : Operator.ofText? text with
      | none => simp [loadArgument, loadToken, found] at loaded
      | some operator => simpa [loadArgument, loadToken, found] using loaded
  | _ => exact loaded

theorem attachAll_eq_ok_of_origin {arguments : List (String × Record.ArgumentEntry)}
    {diagnostic result : Diagnostic} (attached : attachAll origin diagnostic arguments = .ok result)
    (other : String) : attachAll other diagnostic arguments = .ok result := by
  induction arguments generalizing diagnostic with
  | nil => exact attached
  | cons argument rest ih =>
    obtain ⟨isFree, value, isLoaded, following⟩ := attachAll_cons_eq_ok_iff.mp attached
    exact attachAll_cons_eq_ok_iff.mpr
      ⟨isFree, value, loadArgument_eq_ok_of_origin isLoaded other, ih following⟩

end Replay

namespace Record.Entry

/-- The diagnostic of a record, if it has no fault. -/
def diagnostic? (entry : Entry) : Option Diagnostic :=
  (Replay.loadRecord "" entry).toOption

/-- A record is loaded as its diagnostic, in whatever file it stands. -/
theorem loadRecord_eq_ok_iff {origin : String} {entry : Entry} {diagnostic : Diagnostic} :
    Replay.loadRecord origin entry = .ok diagnostic ↔ entry.diagnostic? = some diagnostic := by
  have nameless : Replay.loadRecord "" entry = .ok diagnostic ↔
      entry.diagnostic? = some diagnostic := by
    rw [diagnostic?]
    cases Replay.loadRecord "" entry <;> simp [Except.toOption]
  rw [← nameless]
  exact ⟨fun loaded => Replay.attachAll_eq_ok_of_origin loaded "",
    fun loaded => Replay.attachAll_eq_ok_of_origin loaded origin⟩

/-- A text is loaded as the diagnostics of its records, but for the sharing of scripts. -/
theorem diagnostics_of_loadText {origin content : String} {entries : List Entry}
    {loaded : Replay.Loaded} (read : Record.ofText content = .ok entries)
    (isLoaded : Replay.loadText origin content = .ok loaded) :
    entries.map diagnostic? = (loaded.collection.diagnostics.map Diagnostic.unshared).map some := by
  obtain ⟨others, same, loadsAs⟩ := Replay.loadText_eq_ok isLoaded
  obtain rfl := Except.ok.inj (read.symm.trans same)
  rw [List.map_map]
  refine (map_eq_map_of_forall₂ loadsAs fun entry diagnostic loads => ?_).symm
  exact (loadRecord_eq_ok_iff.mp loads.loadRecord).symm

theorem severity_of_diagnostic? {entry : Entry} {diagnostic : Diagnostic}
    (isDiagnostic : entry.diagnostic? = some diagnostic) :
    diagnostic.severity = if entry.warning then .warning else .error := by
  have isLoaded := (@loadRecord_eq_ok_iff "" entry diagnostic).mpr isDiagnostic
  rw [Replay.loadEntry_keeps isLoaded, Replay.bareDiagnostic]

/-- What can be counted of diagnostics can be counted of their records. -/
theorem countP_of_diagnostics {entries : List Entry} {diagnostics : List Diagnostic}
    (each : entries.map diagnostic? = diagnostics.map some) {counts : Diagnostic → Bool}
    {countsEntry : Entry → Bool}
    (agree : ∀ entry diagnostic, entry.diagnostic? = some diagnostic →
      counts diagnostic = countsEntry entry) :
    diagnostics.countP counts = entries.countP countsEntry := by
  induction entries generalizing diagnostics with
  | nil =>
    obtain rfl : diagnostics = [] := by simpa using each.symm
    rfl
  | cons entry rest ih =>
    obtain ⟨diagnostic, others, rfl, first, following⟩ := List.map_eq_cons_iff.mp each.symm
    rw [List.countP_cons, List.countP_cons, ih following.symm, agree entry diagnostic first.symm]

/-- The line of a record, if it has no fault. -/
def line? (entry : Entry) : Option String :=
  entry.diagnostic?.map Diagnostic.line

end Record.Entry

namespace Program

/-- The errors and the warnings that a notice counts. -/
def Notice.counts? : Notice → Option (Nat × Nat)
  | .summary errors warnings => some (errors, warnings)
  | _ => none

namespace Outcome

/-- The errors and the warnings that a run reports to have found: none, if it gives no summary. -/
def counts (outcome : Outcome) : Nat × Nat :=
  (outcome.notices.findSome? Notice.counts?).getD (0, 0)

/-- A run does what two other runs do, one after the other, and says nothing but what it counts. -/
structure IsJoined (first second both : Outcome) : Prop where
  outputText : both.outputText = first.outputText ++ second.outputText
  errorText : both.errorText =
    if both.counts = (0, 0) then "" else (Notice.summary both.counts.1 both.counts.2).text
  errors : both.counts.1 = first.counts.1 + second.counts.1
  warnings : both.counts.2 = first.counts.2 + second.counts.2
  exitCode : both.exitCode = max first.exitCode second.exitCode

theorem counts_printing (quiet : Bool) (diagnostics : List Diagnostic) :
    (printing quiet diagnostics).counts =
      if quiet then (0, 0)
      else (diagnostics.countP Diagnostic.isError, diagnostics.countP Diagnostic.isWarning) := by
  rw [counts, printing, summaryNotices, Collection.errorCount, Collection.warningCount]
  cases quiet with
  | true => simp
  | false =>
    simp only [Bool.false_eq_true, false_or, if_false]
    split
    · rename_i none
      simp [none]
    · simp [Notice.counts?]

theorem errorText_printing (quiet : Bool) (diagnostics : List Diagnostic) :
    (printing quiet diagnostics).errorText =
      let counts := (printing quiet diagnostics).counts
      if counts = (0, 0) then "" else (Notice.summary counts.1 counts.2).text := by
  rw [counts_printing, errorText, printing, summaryNotices, Collection.errorCount,
    Collection.warningCount]
  cases quiet with
  | true => simp
  | false =>
    simp only [Bool.false_eq_true, false_or, if_false, Prod.mk.injEq]
    split <;> simp

theorem exitCode_printing (quiet : Bool) (diagnostics : List Diagnostic) :
    (printing quiet diagnostics).exitCode =
      if diagnostics.any Diagnostic.isError then errorsCode else successCode := rfl

/-- What is printed does not tell whether scripts are shared. -/
theorem printing_unshared (quiet : Bool) (diagnostics : List Diagnostic) :
    printing quiet (diagnostics.map Diagnostic.unshared) = printing quiet diagnostics := by
  simp [printing, Program.exitCode, summaryNotices, Collection.hasErrors, Collection.errorCount,
    Collection.warningCount, Function.comp_def]

/-- Printing some diagnostics and then others is printing all of them. -/
theorem isJoined_printing (quiet : Bool) (first second : List Diagnostic) :
    IsJoined (printing quiet first) (printing quiet second) (printing quiet (first ++ second)) where
  outputText := by simp [outputText, printing]
  errorText := errorText_printing quiet (first ++ second)
  errors := by
    simp only [counts_printing, List.countP_append]
    cases quiet <;> rfl
  warnings := by
    simp only [counts_printing, List.countP_append]
    cases quiet <;> rfl
  exitCode := by
    simp only [exitCode_printing, List.any_append]
    cases first.any Diagnostic.isError <;> cases second.any Diagnostic.isError <;> rfl

end Outcome

/-- The world with other arguments. -/
def World.given (world : World) (arguments : List String) : World :=
  { world with arguments }

/-- The arguments ask to print some files, and no log is written. -/
structure World.RunsOver (world : World) (files : List String) (quiet : Bool) : Prop where
  parsed : CommandLine.parse world.arguments = .ok { files, quiet }
  named : files ≠ []
  unlogged : world.Unlogged

/-- The file at a path holds a document of some records. -/
def World.Records (world : World) (file : String) (entries : List Record.Entry) : Prop :=
  ∃ bytes content, world.contents file = .ok bytes ∧ String.fromUTF8? bytes = some content ∧
    Record.ofText content = .ok entries

variable {world : World} {files : List String} {held : List (List Record.Entry)}
  {diagnostics : List Diagnostic} {quiet : Bool}

/-- A file is loaded as the diagnostics of its records, but for the sharing of scripts. -/
theorem loadFile_eq_ok_iff {file : String} {entries : List Record.Entry}
    (records : world.Records file entries) :
    (∃ loaded, world.loadFile file = .ok loaded ∧
        loaded.collection.diagnostics.map Diagnostic.unshared = diagnostics) ↔
      entries.map Record.Entry.diagnostic? = diagnostics.map some := by
  obtain ⟨bytes, content, found, decoded, read⟩ := records
  have text : world.loadFile file = Replay.loadText file content := by
    simp only [World.loadFile, Replay.loadBytes, found, Except.bind, Replay.decodeText, decoded]
  rw [text]
  constructor
  · rintro ⟨loaded, isLoaded, rfl⟩
    exact Record.Entry.diagnostics_of_loadText read isLoaded
  · intro same
    have loads : ∀ entry ∈ entries, ∃ diagnostic, Replay.loadRecord file entry = .ok diagnostic := by
      intro entry member
      have listed : entry.diagnostic? ∈ diagnostics.map some := same ▸ List.mem_map_of_mem member
      obtain ⟨diagnostic, -, isDiagnostic⟩ := List.mem_map.mp listed
      exact ⟨diagnostic, Record.Entry.loadRecord_eq_ok_iff.mpr isDiagnostic.symm⟩
    obtain ⟨loaded, isLoaded⟩ := (Replay.exists_loadText_eq_ok_iff read).mpr loads
    have each := Record.Entry.diagnostics_of_loadText read isLoaded
    exact ⟨loaded, isLoaded, (List.map_inj_right fun _ _ => Option.some.inj).mp
      (each.symm.trans same)⟩

theorem exists_records_of_loadFile {file : String} {loaded : Replay.Loaded}
    (isLoaded : world.loadFile file = .ok loaded) : ∃ entries, world.Records file entries := by
  obtain ⟨bytes, content, entries, found, decoded, read, -⟩ := holds_of_loadFile isLoaded
  exact ⟨entries, bytes, content, found, decoded, read⟩

/-- Files that are loaded hold records. -/
theorem exists_records_of_loaded (loaded : ∀ file ∈ files, world.fileError? file = none) :
    ∃ held, List.Forall₂ world.Records files held := by
  induction files with
  | nil => exact ⟨[], .nil⟩
  | cons file rest ih =>
    obtain ⟨first, others⟩ := List.forall_mem_cons.mp loaded
    obtain ⟨_, isLoaded⟩ := Result.failure?_eq_none_iff.mp first
    obtain ⟨entries, records⟩ := exists_records_of_loadFile isLoaded
    obtain ⟨held, each⟩ := ih others
    exact ⟨entries :: held, .cons records each⟩

/-- The records of files that are loaded have no faults. -/
theorem exists_diagnostics_of_loaded (loaded : ∀ file ∈ files, world.fileError? file = none)
    (records : List.Forall₂ world.Records files held) :
    ∃ diagnostics : List Diagnostic,
      held.flatten.map Record.Entry.diagnostic? = diagnostics.map some := by
  induction records with
  | nil => exact ⟨[], rfl⟩
  | cons first _ ih =>
    obtain ⟨isLoaded, others⟩ := List.forall_mem_cons.mp loaded
    obtain ⟨ofFile, loadsFile⟩ := Result.failure?_eq_none_iff.mp isLoaded
    have ownEach := (loadFile_eq_ok_iff first).mp ⟨ofFile, loadsFile, rfl⟩
    obtain ⟨diagnostics, each⟩ := ih others
    exact ⟨ofFile.collection.diagnostics.map Diagnostic.unshared ++ diagnostics, by
      rw [List.flatten_cons, List.map_append, ownEach, each, List.map_append]⟩

/-- Files of records without faults are all loaded, as the diagnostics of these records. -/
theorem mapM_loadFile_of_records (records : List.Forall₂ world.Records files held)
    (each : held.flatten.map Record.Entry.diagnostic? = diagnostics.map some) :
    ∃ loadeds, files.mapM world.loadFile = .ok loadeds ∧
      (gathered loadeds).map Diagnostic.unshared = diagnostics := by
  induction records generalizing diagnostics with
  | nil =>
    obtain rfl : diagnostics = [] := by simpa using each.symm
    exact ⟨[], rfl, rfl⟩
  | cons first _ ih =>
    rw [List.flatten_cons, List.map_append, List.append_eq_map_iff] at each
    obtain ⟨own, others, rfl, ownEach, othersEach⟩ := each
    obtain ⟨loaded, isLoaded, rfl⟩ := (loadFile_eq_ok_iff first).mpr ownEach.symm
    obtain ⟨loadeds, areLoaded, rfl⟩ := ih othersEach.symm
    refine ⟨loaded :: loadeds, ?_, List.map_append⟩
    rw [List.mapM_cons, isLoaded, Result.ok_bind, areLoaded, Result.ok_bind, Result.pure_eq_ok]

/-- A run over files is decided by their records, one after the other. -/
theorem run_of_records (runs : world.RunsOver files quiet)
    (records : List.Forall₂ world.Records files held)
    (each : held.flatten.map Record.Entry.diagnostic? = diagnostics.map some) :
    run world = .printing quiet diagnostics := by
  obtain ⟨loadeds, areLoaded, rfl⟩ := mapM_loadFile_of_records records each
  rw [Outcome.printing_unshared]
  exact run_of_loaded runs.parsed rfl runs.named runs.unlogged areLoaded

/-- A run counts the records that are warnings and those that are not. -/
theorem counts_of_records (each : held.flatten.map Record.Entry.diagnostic? = diagnostics.map some) :
    (Outcome.printing quiet diagnostics).counts =
      if quiet then (0, 0)
      else (held.flatten.countP fun entry => !entry.warning,
        held.flatten.countP fun entry => entry.warning) := by
  rw [Outcome.counts_printing]
  have errors : diagnostics.countP Diagnostic.isError =
      held.flatten.countP fun entry => !entry.warning := by
    refine Record.Entry.countP_of_diagnostics each fun entry diagnostic isDiagnostic => ?_
    rw [Diagnostic.isError, Record.Entry.severity_of_diagnostic? isDiagnostic]
    cases entry.warning <;> rfl
  have warnings : diagnostics.countP Diagnostic.isWarning =
      held.flatten.countP fun entry => entry.warning := by
    refine Record.Entry.countP_of_diagnostics each fun entry diagnostic isDiagnostic => ?_
    rw [Diagnostic.isWarning, Record.Entry.severity_of_diagnostic? isDiagnostic]
    cases entry.warning <;> rfl
  rw [errors, warnings]

/-- A run over some files and then others does what the runs over the ones and the others do, if all
of them are loaded. It prints the line of each record and counts the records, and does the same as
any other run over files that hold these records in this order, however they are spread over the
files. -/
theorem run_append {first second : List String} {one other both : List String}
    (runsFirst : (world.given one).RunsOver first quiet)
    (runsSecond : (world.given other).RunsOver second quiet)
    (runsBoth : (world.given both).RunsOver (first ++ second) quiet)
    (loaded : ∀ file ∈ first ++ second, world.fileError? file = none) :
    (run (world.given one)).IsJoined (run (world.given other)) (run (world.given both)) ∧
    ∀ held, List.Forall₂ world.Records (first ++ second) held →
      (run (world.given both)).output.map some = held.flatten.map Record.Entry.line? ∧
      (run (world.given both)).counts =
        (if quiet then (0, 0)
        else (held.flatten.countP fun entry => !entry.warning,
          held.flatten.countP fun entry => entry.warning)) ∧
      ∀ (regrouped : World) (files : List String) (spread : List (List Record.Entry)),
        regrouped.RunsOver files quiet → List.Forall₂ regrouped.Records files spread →
          spread.flatten = held.flatten → run regrouped = run (world.given both) := by
  obtain ⟨loadedFirst, loadedSecond⟩ := List.forall_mem_append.mp loaded
  obtain ⟨heldFirst, recordsFirst⟩ := exists_records_of_loaded loadedFirst
  obtain ⟨heldSecond, recordsSecond⟩ := exists_records_of_loaded loadedSecond
  obtain ⟨diagnosticsFirst, eachFirst⟩ := exists_diagnostics_of_loaded loadedFirst recordsFirst
  obtain ⟨diagnosticsSecond, eachSecond⟩ := exists_diagnostics_of_loaded loadedSecond recordsSecond
  have eachBoth : (heldFirst ++ heldSecond).flatten.map Record.Entry.diagnostic? =
      (diagnosticsFirst ++ diagnosticsSecond).map some := by
    rw [List.flatten_append, List.map_append, eachFirst, eachSecond, List.map_append]
  constructor
  · rw [run_of_records runsFirst recordsFirst eachFirst,
      run_of_records runsSecond recordsSecond eachSecond,
      run_of_records runsBoth (List.rel_append recordsFirst recordsSecond) eachBoth]
    exact Outcome.isJoined_printing quiet diagnosticsFirst diagnosticsSecond
  · intro held records
    obtain ⟨diagnostics, each⟩ := exists_diagnostics_of_loaded loaded records
    rw [run_of_records runsBoth records each]
    refine ⟨?_, counts_of_records each, ?_⟩
    · calc (diagnostics.map Diagnostic.line).map some
          = (diagnostics.map some).map (Option.map Diagnostic.line) := by simp
        _ = (held.flatten.map Record.Entry.diagnostic?).map (Option.map Diagnostic.line) := by
            rw [each]
        _ = held.flatten.map Record.Entry.line? := List.map_map ..
    · intro regrouped files spread runs spreadRecords same
      exact run_of_records runs spreadRecords (same ▸ each)

/-- A world with two files that speak of one path. -/
def sharedPath : World where
  arguments := []
  contents
    | "first.json" => .ok (String.toUTF8
        "\x7b\"diagnostics\":[\x7b\"id\":20,\"filePath\":\"/a\",\"line\":1,\"column\":0\x7d]\x7d")
    | "second.json" => .ok (String.toUTF8
        "\x7b\"diagnostics\":[\x7b\"id\":13,\"filePath\":\"/a\",\"line\":2,\"column\":4,\"warning\":true\x7d,\x7b\"id\":20,\"filePath\":\"/a\",\"line\":3,\"column\":0\x7d]\x7d")
    | _ => .error .notFound

theorem run_append_sharedPath :
    (run (sharedPath.given ["first.json"])).counts = (1, 0) ∧
      (run (sharedPath.given ["second.json"])).counts = (1, 1) ∧
      (run (sharedPath.given ["first.json"])).IsJoined (run (sharedPath.given ["second.json"]))
        (run (sharedPath.given ["first.json", "second.json"])) := by
  have runsFirst : (sharedPath.given ["first.json"]).RunsOver ["first.json"] false :=
    ⟨by decide +kernel, by simp, rfl, rfl⟩
  have runsSecond : (sharedPath.given ["second.json"]).RunsOver ["second.json"] false :=
    ⟨by decide +kernel, by simp, rfl, rfl⟩
  have runsBoth : (sharedPath.given ["first.json", "second.json"]).RunsOver
      (["first.json"] ++ ["second.json"]) false :=
    ⟨by decide +kernel, by simp, rfl, rfl⟩
  have joined := run_append runsFirst runsSecond runsBoth (by decide +kernel)
  exact ⟨by decide +kernel, by decide +kernel, joined.1⟩

end Program

end DiagnosticReplay
