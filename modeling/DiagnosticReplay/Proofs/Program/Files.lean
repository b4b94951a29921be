import DiagnosticReplay.Program
import DiagnosticReplay.Proofs.Replay.Records

/-! # Runs over files

A run loads every file that it was given before it prints anything. If one of them cannot be loaded,
the first such file decides the run: nothing is printed but its error, whatever was loaded before it
and whatever comes after it. Otherwise the run prints a line for each record of each file, in the
order of the files and of the records in them.
-/

namespace DiagnosticReplay.Program

/-- What loading the file at a path gives. -/
def World.loadFile (world : World) (file : String) : Replay.Load Replay.Loaded :=
  Replay.loadBytes file (world.contents file)

/-- Why the file at a path cannot be loaded, if it cannot. -/
def World.fileError? (world : World) (file : String) : Option LoadError :=
  Result.failure? (world.loadFile file)

/-- The file at a path holds a document whose records give some diagnostics, in their order. -/
def World.Holds (world : World) (file : String) (diagnostics : List Diagnostic) : Prop :=
  ∃ bytes content entries, world.contents file = .ok bytes ∧
    String.fromUTF8? bytes = some content ∧ Record.ofText content = .ok entries ∧
    List.Forall₂ (Replay.LoadsAs file) entries diagnostics

variable {world : World}

/-- A file that is loaded holds the diagnostics that are loaded of it. -/
theorem holds_of_loadFile {file : String} {loaded : Replay.Loaded}
    (isLoaded : world.loadFile file = .ok loaded) :
    world.Holds file loaded.collection.diagnostics :=
  Replay.loadBytes_eq_ok isLoaded

/-- The diagnostics of files that were loaded, one file after the other. -/
def gathered (loadeds : List Replay.Loaded) : List Diagnostic :=
  loadeds.flatMap fun loaded => loaded.collection.diagnostics

/-- Files are loaded one after the other, and gathered after what was loaded before them. -/
theorem result_extendByFiles (world : World) (collection : Collection) (files : List String) :
    (Loading.extendByFiles world.contents collection files).result = do
      let loadeds ← files.mapM world.loadFile
      return ⟨collection.diagnostics ++ gathered loadeds⟩ := by
  induction files generalizing collection with
  | nil => simp [Loading.extendByFiles, gathered]
  | cons file rest ih =>
    rw [Loading.extendByFiles, List.mapM_cons]
    cases first : world.loadFile file with
    | error error =>
      rw [World.loadFile] at first
      simp [Loading.ofSource, first, Except.map]
    | ok loaded =>
      rw [World.loadFile] at first
      simp only [Loading.ofSource, first, Except.map, ih, Result.ok_bind]
      cases rest.mapM world.loadFile with
      | error error => rfl
      | ok others => simp [Collection.extend, gathered]

/-- The run writes no log. -/
structure World.Unlogged (world : World) : Prop where
  own : world.ownFilter = none
  shared : world.sharedFilter = none

theorem World.Unlogged.logFilter?_eq_none (unlogged : world.Unlogged) :
    logFilter? world = none := by
  rw [logFilter?, unlogged.own, unlogged.shared]
  rfl

/-- What a run does that prints some diagnostics and writes no log. -/
def Outcome.printing (quiet : Bool) (diagnostics : List Diagnostic) : Outcome where
  exitCode := Program.exitCode ⟨diagnostics⟩
  output := diagnostics.map Diagnostic.line
  notices := summaryNotices quiet ⟨diagnostics⟩

/-- The input of a run that names files is that of the files. -/
theorem load_of_named (world : World) {files : List String} (named : files ≠ []) :
    load world files = Loading.extendByFiles world.contents .empty files := by
  rw [load, if_neg]
  simpa using named

/-- A run that has loaded its input and writes no log does nothing but print it. -/
theorem run_of_collection {options : CommandLine.Options} {collection : Collection}
    (parsed : CommandLine.parse world.arguments = .ok options)
    (printing : options.listMessages = false)
    (loaded : (load world options.files).result = .ok collection) (unlogged : world.Unlogged) :
    run world = .printing options.quiet collection.diagnostics := by
  simp only [run, act, parsed, printing, Bool.false_eq_true, if_false, report, loaded,
    rejectionNotices, logNotices, unlogged.logFilter?_eq_none, List.nil_append,
    Formatter.formatAll, List.map_map, Outcome.printing]
  rfl

section Runs

variable {options : CommandLine.Options} (parsed : CommandLine.parse world.arguments = .ok options)
  (printing : options.listMessages = false) (named : options.files ≠ [])
  (unlogged : world.Unlogged)

include parsed printing named unlogged

/-- A run over files without a log reports what loading them gives, and nothing else. -/
theorem run_eq_report :
    run world = report world options.quiet
      (Loading.extendByFiles world.contents .empty options.files) := by
  simp only [run, act, parsed, printing, load_of_named world named, rejectionNotices,
    unlogged.logFilter?_eq_none, Bool.false_eq_true, if_false, List.nil_append]

/-- A file that cannot be loaded leaves a run with the error and nothing else. -/
theorem run_of_error {error : LoadError}
    (failed : options.files.mapM world.loadFile = .error error) :
    run world = { exitCode := inputFailureCode, notices := [.failure error] } := by
  have result := result_extendByFiles world .empty options.files
  rw [failed] at result
  rw [run_eq_report parsed printing named unlogged, report, result]
  simp [logNotices, unlogged.logFilter?_eq_none]

/-- A run whose files are all loaded does nothing but print what they hold. -/
theorem run_of_loaded {loadeds : List Replay.Loaded}
    (isLoaded : options.files.mapM world.loadFile = .ok loadeds) :
    run world = .printing options.quiet (gathered loadeds) := by
  have loaded := result_extendByFiles world .empty options.files
  rw [isLoaded, ← load_of_named world named] at loaded
  exact run_of_collection parsed printing loaded unlogged

/-- A run whose files are all loaded prints the lines of their diagnostics. -/
theorem output_run_of_loaded {loadeds : List Replay.Loaded}
    (isLoaded : options.files.mapM world.loadFile = .ok loadeds) :
    (run world).output = (gathered loadeds).map Diagnostic.line := by
  rw [run_of_loaded parsed printing named unlogged isLoaded, Outcome.printing]

/-- If some file cannot be loaded, a run prints nothing but the error of the first such file. If
every file is loaded, it prints the line of every diagnostic, file by file in the order of their
records. -/
theorem run_files :
    (∀ error, options.files.findSome? world.fileError? = some error →
      (run world).outputText = "" ∧ (run world).exitCode = 1 ∧
        (run world).errorText = "error: " ++ error.message ++ "\n") ∧
    (options.files.findSome? world.fileError? = none →
      ∃ held, List.Forall₂ world.Holds options.files held ∧
        (run world).outputText =
          String.join (held.flatten.map fun diagnostic => diagnostic.line ++ "\n")) := by
  constructor
  · intro error first
    have failed : options.files.mapM world.loadFile = .error error :=
      Result.mapM_eq_error_iff.mpr first
    rw [run_of_error parsed printing named unlogged failed]
    refine ⟨rfl, rfl, ?_⟩
    simp [Outcome.errorText, Notice.text]
  · intro none
    cases result : options.files.mapM world.loadFile with
    | error error =>
      have first := Result.mapM_eq_error_iff.mp result
      exact absurd (none.symm.trans first) (by simp)
    | ok loadeds =>
      have each := Result.mapM_eq_ok_iff.mp result
      refine ⟨loadeds.map fun loaded => loaded.collection.diagnostics, ?_, ?_⟩
      · rw [List.forall₂_map_right_iff]
        exact each.imp fun file loaded => holds_of_loadFile
      · rw [Outcome.outputText, output_run_of_loaded parsed printing named unlogged result,
          List.map_map, gathered, List.flatMap_def]
        rfl

end Runs

/-- A world with one diagnostic to print, a file that is not there, and one that is no text. -/
def secondMissing : World where
  arguments := ["first.json", "--quiet", "second.json", "third.json"]
  contents
    | "first.json" => .ok (String.toUTF8
        "\x7b\"diagnostics\":[\x7b\"id\":20,\"filePath\":\"/a\",\"line\":1,\"column\":0\x7d]\x7d")
    | "third.json" => .ok ⟨#[0xff]⟩
    | _ => .error .notFound

theorem run_files_secondMissing :
    secondMissing.fileError? "first.json" = none ∧
      (secondMissing.fileError? "third.json").isSome ∧
      (run secondMissing).outputText = "" ∧ (run secondMissing).exitCode = 1 ∧
      (run secondMissing).errorText =
        "error: failed to read second.json: No such file or directory (os error 2)\n" := by
  have parsed : CommandLine.parse secondMissing.arguments =
      .ok { files := ["first.json", "second.json", "third.json"], quiet := true } := by
    decide +kernel
  have failing := (run_files parsed rfl (by simp) ⟨rfl, rfl⟩).1
    (.unreadable "second.json" .notFound) (by decide +kernel)
  exact ⟨by decide +kernel, by decide +kernel, failing⟩

end DiagnosticReplay.Program
