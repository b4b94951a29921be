import DiagnosticReplay.Program

/-! # Command line

The outer layer: it gathers what a run can see of the world, and does what the run says. A log line
carries no time.
-/

namespace DiagnosticReplay

/-- Read all of the standard input. -/
partial def readStandardInput (stream : IO.FS.Stream) (read : ByteArray) : IO ByteArray := do
  let chunk ← stream.read 65536
  if chunk.isEmpty then return read else readStandardInput stream (read ++ chunk)

/-- The failure that an error of the system stands for. -/
def ReadFailure.ofError : IO.Error → ReadFailure
  | .noFileOrDirectory _ number description | .permissionDenied _ number description
  | .inappropriateType _ number description | .invalidArgument _ number description
  | .resourceExhausted _ number description | .noSuchThing _ number description
  | .interrupted _ number description | .resourceBusy number description
  | .hardwareFault number description | .otherError number description =>
    .ofSystem description number.toNat
  | error => ⟨error.toString⟩

/-- Read a file. A path with the character that ends every path is not looked for. -/
def readFileBytes (path : String) : IO (Except ReadFailure ByteArray) := do
  if path.toList.contains '\x00' then return .error .terminatorInName
  try
    return .ok (← IO.FS.readBinFile path)
  catch error => return .error (.ofError error)

/-- Run the program in the world as it is. -/
def runMain (arguments : List String) : IO UInt32 := do
  let files :=
    match CommandLine.parse arguments with
    | .ok options => if options.listMessages then [] else options.files
    | .error _ => []
  let wantsInput :=
    match CommandLine.parse arguments with
    | .ok options => options.files.isEmpty && !options.listMessages
    | .error _ => false
  let read ← files.mapM fun file => return (file, ← readFileBytes file)
  let standardInput ← if wantsInput then readStandardInput (← IO.getStdin) .empty else pure .empty
  let outcome := Program.run {
    arguments
    ownFilter := ← IO.getEnv "VIOLET_LOG"
    sharedFilter := ← IO.getEnv "RUST_LOG"
    standardInput := .ok standardInput
    contents := fun file => (read.lookup file).getD (.error .notFound) }
  IO.print outcome.outputText
  IO.eprint outcome.errorText
  return UInt32.ofNat outcome.exitCode

end DiagnosticReplay

/-- The program. -/
def main (arguments : List String) : IO UInt32 :=
  DiagnosticReplay.runMain arguments
