import DiagnosticReplay.CommandLine
import DiagnosticReplay.Formatter
import DiagnosticReplay.LogFilter
import DiagnosticReplay.Replay

/-! # The program

A run as a function: from the arguments, the environment, the standard input and the files to an exit
code, the lines of the standard output, and the notices on standard error. Nothing is printed before
every input is known to be good.
-/

namespace DiagnosticReplay.Program

/-- What a run can see of the world. -/
structure World where
  arguments : List String
  /-- The log filter that is meant for this program, if it is set. -/
  ownFilter : Option String := none
  /-- The log filter that is meant for many programs, if it is set. -/
  sharedFilter : Option String := none
  standardInput : Except ReadFailure ByteArray := .ok .empty
  /-- The bytes of the file at a path. -/
  contents : String → Except ReadFailure ByteArray

/-- Something that is written to standard error. -/
inductive Notice where
  /-- A part of the log filter is no directive. -/
  | rejection (rejected : RejectedDirective)
  | event (event : Event)
  | failure (error : LoadError)
  | summary (errors warnings : Nat)
  | usage (error : CommandLine.UsageError)
deriving DecidableEq, Repr

/-- A count with a noun, in the plural unless the count is one. -/
def counted (count : Nat) (noun : String) : String :=
  toString count ++ " " ++ noun ++ if count = 1 then "" else "s"

/-- The text of a notice. The summary stands after an empty line. -/
def Notice.text : Notice → String
  | .rejection rejected => rejected.message ++ "\n"
  | .event reported => reported.logLine ++ "\n"
  | .failure error => "error: " ++ error.message ++ "\n"
  | .summary errors warnings =>
    "\nFound " ++ counted errors "error" ++ " and " ++ counted warnings "warning" ++ ".\n"
  | .usage error => error.message ++ "\n"

/-- What a run does. -/
structure Outcome where
  exitCode : Nat
  output : List String := []
  notices : List Notice := []
deriving DecidableEq, Repr

namespace Outcome

/-- The standard output: each line is ended by a line feed. -/
def outputText (outcome : Outcome) : String :=
  String.join (outcome.output.map fun line => line ++ "\n")

/-- The standard error. -/
def errorText (outcome : Outcome) : String :=
  String.join (outcome.notices.map Notice.text)

end Outcome

/-- The exit code of a run whose collection holds no error. -/
def successCode : Nat := 0

/-- The exit code of a run that could not load its input. -/
def inputFailureCode : Nat := 1

/-- The exit code of a run whose collection holds an error. -/
def errorsCode : Nat := 2

/-- The exit code of a run with a mistake in its arguments. -/
def usageCode : Nat := 2

/-- The name of the standard input in messages. -/
def standardInputName : String := "<stdin>"

/-- What loading some sources gives, with the events that it reports on the way. -/
structure Loading where
  events : List Event
  result : Replay.Load Collection

namespace Loading

/-- Load one source. -/
def ofSource (origin : String) (source : Except ReadFailure ByteArray) : Loading :=
  let result := Replay.loadBytes origin source
  { events := Replay.loadEvents origin result, result := result.map (·.collection) }

/-- Load files one after the other, after a collection that was loaded before them. The first file
that fails ends the loading. -/
def extendByFiles (contents : String → Except ReadFailure ByteArray) (collection : Collection) :
    List String → Loading
  | [] => { events := [], result := .ok collection }
  | file :: rest =>
    let first := ofSource file (contents file)
    match first.result with
    | .error _ => first
    | .ok loaded =>
      let others := extendByFiles contents (collection.extend loaded) rest
      { others with events := first.events ++ others.events }

end Loading

/-- Load the input of a run: the named files, or the standard input if none is named. -/
def load (world : World) (files : List String) : Loading :=
  if files.isEmpty then Loading.ofSource standardInputName world.standardInput
  else Loading.extendByFiles world.contents .empty files

/-- The log filter of a run, if it writes a log. -/
def logFilter? (world : World) : Option LogFilter :=
  (world.ownFilter <|> world.sharedFilter).map LogFilter.ofText

/-- The notices of what the log filter cannot make use of. -/
def rejectionNotices (world : World) : List Notice :=
  match logFilter? world with
  | some filter => filter.rejected.map .rejection
  | none => []

/-- The notices of the events that the log filter lets through. -/
def logNotices (world : World) (events : List Event) : List Notice :=
  match logFilter? world with
  | some filter => (events.filter filter.admits).map .event
  | none => []

/-- The lines that list every message. -/
def messageLines : List String :=
  Catalog.standard.entries.map fun entry => "#" ++ toString entry.1.toNat ++ ": " ++ entry.2

/-- The exit code of a run that printed a collection. -/
def exitCode (collection : Collection) : Nat :=
  if collection.hasErrors then errorsCode else successCode

/-- The summary of a collection, unless there is nothing to count or no summary is wanted. -/
def summaryNotices (quiet : Bool) (collection : Collection) : List Notice :=
  let errors := collection.errorCount
  let warnings := collection.warningCount
  if quiet ∨ errors = 0 ∧ warnings = 0 then [] else [.summary errors warnings]

/-- Print what was loaded. -/
def report (world : World) (quiet : Bool) (loading : Loading) : Outcome :=
  match loading.result with
  | .error error =>
    { exitCode := inputFailureCode
      notices := logNotices world loading.events ++ [.failure error] }
  | .ok collection =>
    let lines := Formatter.standard.formatAll collection.diagnostics
    { exitCode := exitCode collection
      output := lines.map Rendering.text
      notices := logNotices world (loading.events ++ lines.flatMap Rendering.events)
        ++ summaryNotices quiet collection }

/-- Do what the arguments ask for. -/
def act (world : World) : Outcome :=
  match CommandLine.parse world.arguments with
  | .error .helpWanted => { exitCode := successCode, output := CommandLine.helpLines }
  | .error (.mistake error) => { exitCode := usageCode, notices := [.usage error] }
  | .ok options =>
    if options.listMessages then { exitCode := successCode, output := messageLines }
    else report world options.quiet (load world options.files)

/-- Run the program. The log filter is read before anything else. -/
def run (world : World) : Outcome :=
  let outcome := act world
  { outcome with notices := rejectionNotices world ++ outcome.notices }

end DiagnosticReplay.Program
