import DiagnosticReplay.Text.ControlSequence

/-! # Command lines

The arguments of the program are read from left to right. An argument that starts with a dash is one
long flag or a bundle of short ones; a lone dash, and everything after `--`, is a file. The first
mistake is reported, unless help was asked for before it. A report shows what was written without
the control sequences in it.
-/

namespace DiagnosticReplay.CommandLine

/-- The flags of the program. -/
inductive Flag where
  | listMessages
  | quiet
  | help
deriving DecidableEq, Repr

namespace Flag

/-- The name of a flag after two dashes. -/
def longName : Flag → String
  | listMessages => "list-messages"
  | quiet => "quiet"
  | help => "help"

/-- The flag of a long name. -/
def ofLongName? (name : String) : Option Flag :=
  [listMessages, quiet, help].find? fun flag => flag.longName == name

/-- The flag of a letter after one dash. -/
def ofLetter? : Char → Option Flag
  | 'q' => some quiet
  | 'h' => some help
  | _ => none

end Flag

/-- A mistake in the arguments. -/
inductive UsageError where
  | unexpectedArgument (argument : String)
  | repeatedFlag (flag : Flag)
  | unexpectedValue (value : String) (flag : Flag)
deriving DecidableEq, Repr

/-- The wording of a mistake. -/
def UsageError.message : UsageError → String
  | unexpectedArgument argument =>
    "error: unexpected argument '" ++ Text.ControlSequence.remove argument ++ "' found"
  | repeatedFlag flag =>
    "error: the argument '--" ++ flag.longName ++ "' cannot be used multiple times"
  | unexpectedValue value flag =>
    "error: unexpected value '" ++ Text.ControlSequence.remove value ++ "' for '--"
      ++ flag.longName ++ "' found; no more were expected"

/-- What the arguments ask for. -/
structure Options where
  files : List String := []
  listMessages : Bool := false
  quiet : Bool := false
deriving DecidableEq, Repr

/-- Why the reading of arguments ends before the last of them. -/
inductive Interruption where
  | helpWanted
  | mistake (error : UsageError)
deriving DecidableEq, Repr

namespace Options

/-- Take up a flag. -/
def raise (options : Options) : Flag → Except Interruption Options
  | .help => .error .helpWanted
  | .listMessages =>
    if options.listMessages then .error (.mistake (.repeatedFlag .listMessages))
    else .ok { options with listMessages := true }
  | .quiet =>
    if options.quiet then .error (.mistake (.repeatedFlag .quiet))
    else .ok { options with quiet := true }

/-- Take up a short flag. -/
def raiseLetter (options : Options) (letter : Char) : Except Interruption Options :=
  match Flag.ofLetter? letter with
  | some flag => options.raise flag
  | none => .error (.mistake (.unexpectedArgument (String.ofList ['-', letter])))

/-- Take up a long flag, written with or without a value. No flag has a value. -/
def raiseLong (options : Options) (text : List Char) : Except Interruption Options :=
  let name := String.ofList (text.takeWhile (· != '='))
  match Flag.ofLongName? name with
  | none => .error (.mistake (.unexpectedArgument ("--" ++ name)))
  | some flag =>
    match text.dropWhile (· != '=') with
    | [] => options.raise flag
    | _ :: value => .error (.mistake (.unexpectedValue (String.ofList value) flag))

/-- Take up files. -/
def addFiles (options : Options) (files : List String) : Options :=
  { options with files := options.files ++ files }

/-- Take up arguments from left to right. -/
def readFrom (options : Options) : List String → Except Interruption Options
  | [] => .ok options
  | argument :: rest =>
    match argument.toList with
    | ['-', '-'] => .ok (options.addFiles rest)
    | '-' :: '-' :: text => do (← options.raiseLong text).readFrom rest
    | '-' :: letter :: letters => do
      (← (letter :: letters).foldlM raiseLetter options).readFrom rest
    | _ => (options.addFiles [argument]).readFrom rest

end Options

/-- Read the arguments of the program. -/
def parse (arguments : List String) : Except Interruption Options :=
  ({} : Options).readFrom arguments

/-- The help text, line by line. -/
def helpLines : List String := [
  "Format recorded VioletScript diagnostics",
  "",
  "Usage: violet-diag [OPTIONS] [FILE]...",
  "",
  "Arguments:",
  "  [FILE]...  Diagnostics files to print",
  "",
  "Options:",
  "      --list-messages  Print every message template and exit",
  "  -q, --quiet          Do not print the error/warning summary",
  "  -h, --help           Print help"]

end DiagnosticReplay.CommandLine
