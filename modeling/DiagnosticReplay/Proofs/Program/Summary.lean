import DiagnosticReplay.Proofs.Collection
import DiagnosticReplay.Proofs.CommandLine
import DiagnosticReplay.Proofs.Formatter.Line
import DiagnosticReplay.Proofs.Program.Composition
import DiagnosticReplay.Proofs.Text.Split

/-! # What a run counts

A run judges severity in several places: in the label of each line that it prints, in its exit code,
and in the two counts of its summary. All of them can be checked against the printed lines alone,
because the label of a line can be read back. A quiet flag takes the summary away and leaves
everything else as it is, in runs that fail as well.
-/

namespace DiagnosticReplay.Program

open Text

section Labels

/-- The label in a line, which is its third word. -/
def labelOf? (line : String) : Option String :=
  (splitAt ' ' line)[2]?

/-- The label of a diagnostic can be read back from its line. -/
theorem labelOf?_line (diagnostic : Diagnostic) :
    labelOf? diagnostic.line = some diagnostic.severity.label := by
  have stage : ' ' ∉ diagnostic.stage.label.toList ++ [':'] := by
    simp [Formatter.blank_not_mem_stage_label]
  rw [labelOf?, splitAt, Diagnostic.line, Formatter.toList_format, splitWhere_append_cons,
    splitWhere_append_cons, splitWhere_append_cons,
    splitWhere_of_not_mem (Formatter.blank_not_mem_location diagnostic.span),
    splitWhere_of_not_mem stage,
    splitWhere_of_not_mem (Formatter.blank_not_mem_severity_label diagnostic.severity)]
  simp

/-- The number of printed diagnostics with a label. -/
def Outcome.labelled (outcome : Outcome) (label : String) : Nat :=
  outcome.output.countP fun line => labelOf? line == some label

variable {diagnostics : List Diagnostic}

theorem Outcome.labelled_printing (quiet : Bool) (severity : Severity) :
    (printing quiet diagnostics).labelled severity.label =
      diagnostics.countP (·.severity == severity) := by
  rw [labelled, printing, List.countP_map]
  apply List.countP_congr
  intro diagnostic _
  have same : diagnostic.severity.label = severity.label ↔ diagnostic.severity = severity :=
    ⟨fun labels => Formatter.severity_label_inj (congrArg String.toList labels), congrArg _⟩
  simp [labelOf?_line, same]

end Labels

section Counting

/-- The output, the exit code and the standard error of a run agree on a number of records. -/
structure Outcome.AddsUp (outcome : Outcome) (quiet : Bool) (records : Nat) : Prop where
  counted : outcome.labelled "Error" + outcome.labelled "Warning" = records
  exitCode : outcome.exitCode = if 0 < outcome.labelled "Error" then 2 else 0
  errorText : outcome.errorText =
    let errors := outcome.labelled "Error"
    let warnings := outcome.labelled "Warning"
    if errors + warnings = 0 ∨ quiet then ""
    else "\nFound " ++ toString errors ++ (if errors = 1 then " error" else " errors") ++ " and " ++
      toString warnings ++ (if warnings = 1 then " warning" else " warnings") ++ ".\n"

theorem text_summary (errors warnings : Nat) :
    (Notice.summary errors warnings).text =
      "\nFound " ++ toString errors ++ (if errors = 1 then " error" else " errors") ++ " and " ++
        toString warnings ++ (if warnings = 1 then " warning" else " warnings") ++ ".\n" := by
  rw [Notice.text, counted, counted]
  apply String.toList_inj.mp
  split <;> split <;> simp

theorem Outcome.addsUp_printing (quiet : Bool) (diagnostics : List Diagnostic) :
    (printing quiet diagnostics).AddsUp quiet diagnostics.length := by
  have errors : (printing quiet diagnostics).labelled "Error" = diagnostics.countP (·.isError) :=
    labelled_printing quiet .error
  have warnings : (printing quiet diagnostics).labelled "Warning" =
      diagnostics.countP (·.isWarning) := labelled_printing quiet .warning
  have total : diagnostics.countP (·.isError) + diagnostics.countP (·.isWarning) =
      diagnostics.length := Collection.errorCount_add_warningCount ⟨diagnostics⟩
  constructor
  · rw [errors, warnings, total]
  · have some : diagnostics.any Diagnostic.isError = true ↔
        0 < diagnostics.countP (·.isError) := Collection.hasErrors_iff ⟨diagnostics⟩
    rw [errors, exitCode_printing]
    exact if_congr some rfl rfl
  · rw [errors, warnings, errorText_printing, counts_printing]
    dsimp only
    rw [← text_summary]
    cases quiet with
    | true => simp
    | false =>
      have none : ((diagnostics.countP Diagnostic.isError, diagnostics.countP Diagnostic.isWarning) =
          (0, 0)) ↔ (diagnostics.countP (·.isError) + diagnostics.countP (·.isWarning) = 0 ∨
            false = true) := by
        rw [Prod.mk.injEq, Nat.add_eq_zero_iff, or_iff_left Bool.false_ne_true]
      exact if_congr none rfl rfl

end Counting

section Loading

/-- The input of a run holds some records: those of its files, one file after the other, or those of
the standard input if it has no file. -/
inductive World.Reads (world : World) : List String → List Record.Entry → Prop
  | standardInput {bytes : ByteArray} {content : String} {records : List Record.Entry} :
      world.standardInput = .ok bytes → String.fromUTF8? bytes = some content →
        Record.ofText content = .ok records → world.Reads [] records
  | files {files : List String} {held : List (List Record.Entry)} :
      files ≠ [] → List.Forall₂ world.Records files held → world.Reads files held.flatten

variable {world : World} {files : List String} {collection : Collection}

/-- Files that are loaded hold a record for each diagnostic. -/
theorem exists_records_of_mapM {loadeds : List Replay.Loaded}
    (areLoaded : files.mapM world.loadFile = .ok loadeds) :
    ∃ held, List.Forall₂ world.Records files held ∧
      held.flatten.length = (gathered loadeds).length := by
  have each := Result.mapM_eq_ok_iff.mp areLoaded
  clear areLoaded
  induction each with
  | nil => exact ⟨[], .nil, rfl⟩
  | @cons file loaded _ others isLoaded _ ih =>
    obtain ⟨held, records, lengths⟩ := ih
    obtain ⟨bytes, content, entries, found, decoded, read, own⟩ := holds_of_loadFile isLoaded
    refine ⟨entries :: held, .cons ⟨bytes, content, found, decoded, read⟩ records, ?_⟩
    rw [List.flatten_cons, List.length_append, own.length_eq, lengths, gathered, gathered,
      List.flatMap_cons, List.length_append]

/-- An input that is loaded holds a record for each diagnostic. -/
theorem exists_reads_of_load (loaded : (load world files).result = .ok collection) :
    ∃ records, world.Reads files records ∧ records.length = collection.diagnostics.length := by
  cases files with
  | nil =>
    obtain ⟨source, isLoaded, rfl⟩ := Result.map_eq_ok_iff.mp loaded
    obtain ⟨bytes, content, entries, found, decoded, read, each⟩ :=
      Replay.loadBytes_eq_ok isLoaded
    exact ⟨entries, .standardInput found decoded read, each.length_eq⟩
  | cons file rest =>
    rw [load_of_named world (List.cons_ne_nil file rest), result_extendByFiles,
      Result.bind_eq_ok_iff] at loaded
    obtain ⟨loadeds, areLoaded, gathers⟩ := loaded
    cases gathers
    obtain ⟨held, records, lengths⟩ := exists_records_of_mapM areLoaded
    exact ⟨held.flatten, .files (List.cons_ne_nil _ _) records, lengths⟩

end Loading

section Quiet

/-- The notice says why nothing is printed. -/
def Notice.isError : Notice → Bool
  | .failure _ | .usage _ => true
  | _ => false

/-- A run does what another one does but for its summary. In particular what a failing run writes to
standard error is the same. -/
structure Outcome.IsQuieted (quiet loud : Outcome) : Prop where
  output : quiet.output = loud.output
  exitCode : quiet.exitCode = loud.exitCode
  notices : quiet.notices = loud.notices.filter fun notice => notice.counts?.isNone
  failing : (∃ notice ∈ loud.notices, notice.isError) → quiet.errorText = loud.errorText

/-- What a run does once its arguments are read. -/
def World.follow (world : World) :
    Except CommandLine.Interruption CommandLine.Options → Outcome
  | .error .helpWanted => { exitCode := successCode, output := CommandLine.helpLines }
  | .error (.mistake error) => { exitCode := usageCode, notices := [.usage error] }
  | .ok options =>
    if options.listMessages then { exitCode := successCode, output := messageLines }
    else report world options.quiet (load world options.files)

/-- A notice of the log is neither an error nor a summary. -/
structure Notice.IsLog (notice : Notice) : Prop where
  uncounted : notice.counts? = none
  harmless : notice.isError = false

variable {world : World}

theorem run_eq_follow (world : World) :
    run world =
      let outcome := world.follow (CommandLine.parse world.arguments)
      { outcome with notices := rejectionNotices world ++ outcome.notices } := by
  have acts : act world = world.follow (CommandLine.parse world.arguments) := by
    unfold act World.follow
    rcases CommandLine.parse world.arguments with (_ | _) | _ <;> rfl
  rw [← acts]
  exact run.eq_1 world

theorem isLog_of_mem_rejectionNotices {notice : Notice}
    (member : notice ∈ rejectionNotices world) : notice.IsLog := by
  rw [rejectionNotices] at member
  split at member
  · obtain ⟨rejected, -, rfl⟩ := List.mem_map.mp member
    exact ⟨rfl, rfl⟩
  · exact absurd member List.not_mem_nil

theorem isLog_of_mem_logNotices {events : List Event} {notice : Notice}
    (member : notice ∈ logNotices world events) : notice.IsLog := by
  rw [logNotices] at member
  split at member
  · obtain ⟨event, -, rfl⟩ := List.mem_map.mp member
    exact ⟨rfl, rfl⟩
  · exact absurd member List.not_mem_nil

theorem summaryNotices_quiet (collection : Collection) : summaryNotices true collection = [] := by
  simp [summaryNotices]

/-- A notice of a summary counts, and it is no error. -/
theorem of_mem_summaryNotices {quiet : Bool} {collection : Collection} {notice : Notice}
    (member : notice ∈ summaryNotices quiet collection) :
    notice.counts?.isNone = false ∧ notice.isError = false := by
  rw [summaryNotices] at member
  split at member
  · exact absurd member List.not_mem_nil
  · obtain rfl := List.mem_singleton.mp member
    exact ⟨rfl, rfl⟩

theorem filter_of_uncounted {notices : List Notice}
    (uncounted : ∀ notice ∈ notices, notice.counts? = none) :
    notices.filter (fun notice => notice.counts?.isNone) = notices := by
  refine List.filter_eq_self.mpr fun notice member => ?_
  rw [uncounted notice member, Option.isNone_none]

namespace Outcome.IsQuieted

variable {loud quiet : Outcome}

theorem refl_of_uncounted (uncounted : ∀ notice ∈ loud.notices, notice.counts? = none) :
    loud.IsQuieted loud where
  output := rfl
  exitCode := rfl
  notices := (filter_of_uncounted uncounted).symm
  failing _ := rfl

/-- Notices of the log may stand in front. -/
theorem after {before : List Notice} (isLog : ∀ notice ∈ before, notice.IsLog)
    (quieted : quiet.IsQuieted loud) :
    IsQuieted { quiet with notices := before ++ quiet.notices }
      { loud with notices := before ++ loud.notices } where
  output := quieted.output
  exitCode := quieted.exitCode
  notices := by
    have kept := filter_of_uncounted fun notice member => (isLog notice member).uncounted
    rw [List.filter_append, kept, quieted.notices]
  failing := by
    rintro ⟨notice, member, isError⟩
    rcases List.mem_append.mp member with inFront | own
    · rw [(isLog notice inFront).harmless] at isError
      exact absurd isError Bool.false_ne_true
    · have texts := quieted.failing ⟨notice, own, isError⟩
      simp only [errorText, List.map_append, String.join_append] at texts ⊢
      rw [texts]

end Outcome.IsQuieted

/-- A run that has loaded its input, or failed to, leaves only its summary out. -/
theorem isQuieted_report (world : World) (wasQuiet : Bool) (loading : Loading) :
    (report world true loading).IsQuieted (report world wasQuiet loading) := by
  unfold report
  cases loading.result with
  | error error =>
    apply Outcome.IsQuieted.refl_of_uncounted
    intro notice member
    rcases List.mem_append.mp member with log | failure
    · exact (isLog_of_mem_logNotices log).uncounted
    · obtain rfl := List.mem_singleton.mp failure
      rfl
  | ok collection =>
    let lines := Formatter.standard.formatAll collection.diagnostics
    let loud : Outcome := ⟨exitCode collection, lines.map Rendering.text,
      summaryNotices wasQuiet collection⟩
    have summary : Outcome.IsQuieted { loud with notices := summaryNotices true collection } loud := {
      output := rfl
      exitCode := rfl
      notices := by
        rw [summaryNotices_quiet, List.filter_eq_nil_iff.mpr]
        intro notice member
        rw [(of_mem_summaryNotices member).1]
        exact Bool.false_ne_true
      failing := by
        rintro ⟨notice, member, isError⟩
        rw [(of_mem_summaryNotices member).2] at isError
        exact absurd isError Bool.false_ne_true }
    exact summary.after fun _ => isLog_of_mem_logNotices

theorem isQuieted_follow (world : World)
    (asked : Except CommandLine.Interruption CommandLine.Options) :
    (world.follow (asked.map CommandLine.Options.quieted)).IsQuieted (world.follow asked) := by
  rcases asked with (_ | error) | options
  · exact Outcome.IsQuieted.refl_of_uncounted fun _ member => absurd member List.not_mem_nil
  · apply Outcome.IsQuieted.refl_of_uncounted
    intro notice member
    obtain rfl := List.mem_singleton.mp member
    rfl
  · change (if options.listMessages then _ else _ : Outcome).IsQuieted
      (if options.listMessages then _ else _)
    split
    · exact Outcome.IsQuieted.refl_of_uncounted fun _ member => absurd member List.not_mem_nil
    · exact isQuieted_report world options.quiet (load world options.files)

/-- A quiet flag among the arguments of a run takes its summary away. -/
theorem isQuieted_run {before after : List String} {flag : String} (flagged : "--" ∉ before)
    (isQuiet : flag ∈ CommandLine.quietFlags)
    (once : CommandLine.parse (before ++ flag :: after) ≠ .error CommandLine.quietTwice) :
    (run (world.given (before ++ flag :: after))).IsQuieted
      (run (world.given (before ++ after))) := by
  have asked := (@CommandLine.quieted_parse before after flag flagged isQuiet).resolve_left once
  rw [run_eq_follow, run_eq_follow]
  simp only [World.given, asked]
  exact (isQuieted_follow _ _).after fun _ => isLog_of_mem_rejectionNotices

end Quiet

/-- A run that loads its input prints a labelled line for each record, and its exit code and its
summary follow from the labels. A quiet flag changes nothing in any run but the summary. -/
theorem run_addsUp (world : World) :
    (∀ (options : CommandLine.Options) (collection : Collection),
      CommandLine.parse world.arguments = .ok options → options.listMessages = false →
        (load world options.files).result = .ok collection → world.Unlogged →
          ∃ records, world.Reads options.files records ∧
            (run world).AddsUp options.quiet records.length) ∧
    ∀ (before after : List String) (flag : String), "--" ∉ before → flag ∈ CommandLine.quietFlags →
      CommandLine.parse (before ++ flag :: after) ≠ .error CommandLine.quietTwice →
        (run (world.given (before ++ flag :: after))).IsQuieted
          (run (world.given (before ++ after))) := by
  constructor
  · intro options collection parsed printing loaded unlogged
    obtain ⟨records, reads, lengths⟩ := exists_reads_of_load loaded
    refine ⟨records, reads, ?_⟩
    rw [lengths, run_of_collection parsed printing loaded unlogged]
    exact Outcome.addsUp_printing options.quiet collection.diagnostics
  · intro before after flag flagged isQuiet once
    exact isQuieted_run flagged isQuiet once

/-- A world whose standard input holds a warning. -/
def oneWarning : World where
  arguments := []
  standardInput := .ok (String.toUTF8
    "\x7b\"diagnostics\":[\x7b\"id\":13,\"filePath\":\"/a\",\"line\":1,\"column\":0,\"warning\":true\x7d]\x7d")
  contents _ := .error .notFound

theorem run_addsUp_oneWarning :
    (run oneWarning).errorText = "\nFound 0 errors and 1 warning.\n" ∧
      (∃ records, oneWarning.Reads [] records ∧ (run oneWarning).AddsUp false records.length) ∧
      (run (oneWarning.given ["--quiet"])).IsQuieted (run (oneWarning.given [])) := by
  have one : (load oneWarning []).result.map Collection.size = .ok 1 := by decide +kernel
  obtain ⟨collection, loaded, -⟩ := Result.map_eq_ok_iff.mp one
  obtain ⟨addsUp, quieted⟩ := run_addsUp oneWarning
  refine ⟨by decide +kernel, addsUp {} collection rfl rfl loaded ⟨rfl, rfl⟩, ?_⟩
  exact quieted [] [] "--quiet" (by decide) (by decide) (by decide +kernel)

end DiagnosticReplay.Program
