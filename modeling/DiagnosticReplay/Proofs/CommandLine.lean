import DiagnosticReplay.CommandLine
import DiagnosticReplay.Proofs.Result

/-! # Arguments one after the other

Up to a `--`, each argument is taken up on its own, so arguments are read by reading some of them and
then the rest. A quiet flag among them is told from no quiet flag by one option alone: whatever else
is asked for, and whatever mistake is met first, is the same with it and without it, unless it was
given before.
-/

namespace DiagnosticReplay.CommandLine

/-- The ways to ask for no summary. -/
def quietFlags : List String := ["--quiet", "-q"]

/-- The quiet flag was given twice. -/
def quietTwice : Interruption := .mistake (.repeatedFlag .quiet)

namespace Options

/-- Take up one argument, which is not `--`. -/
def takeUp (options : Options) (argument : String) : Except Interruption Options :=
  match argument.toList with
  | '-' :: '-' :: text => options.raiseLong text
  | '-' :: letter :: letters => (letter :: letters).foldlM raiseLetter options
  | _ => .ok (options.addFiles [argument])

/-- The options without a summary. -/
def quieted (options : Options) : Options :=
  { options with quiet := true }

end Options

open Options

/-- The second result is that of the first one's arguments with a quiet flag: the flag is refused for
having been given twice, or it makes the options quiet. -/
def Quieted (loud quiet : Except Interruption Options) : Prop :=
  quiet = .error quietTwice ∨ quiet = loud.map quieted

variable {before after rest : List String} {argument flag : String} {options : Options}

theorem readFrom_cons (single : argument ≠ "--") (options : Options) (rest : List String) :
    options.readFrom (argument :: rest) = (do (← options.takeUp argument).readFrom rest) := by
  rw [readFrom, takeUp]
  split
  · rename_i dashes
    exact absurd (String.toList_inj.mp dashes) single
  · rename_i text long
    simp only [long]
  · rename_i letter letters _ short
    simp only [short]
  · rename_i notLong notShort
    split
    · rename_i long
      exact (notLong _ long).elim
    · rename_i short
      exact (notShort _ _ short).elim
    · rfl

/-- Some arguments are read, and then the rest, unless a `--` stands among the first. -/
theorem readFrom_append (flagged : "--" ∉ before) (options : Options) (rest : List String) :
    options.readFrom (before ++ rest) = (do (← options.readFrom before).readFrom rest) := by
  induction before generalizing options with
  | nil => rfl
  | cons argument others ih =>
    obtain ⟨single, flaggedOthers⟩ := not_or.mp (mt List.mem_cons.mpr flagged)
    rw [List.cons_append, readFrom_cons (Ne.symm single), readFrom_cons (Ne.symm single), bind_assoc]
    congr 1
    funext next
    exact ih flaggedOthers next

theorem takeUp_quietFlag (isQuiet : flag ∈ quietFlags) (options : Options) :
    options.takeUp flag = options.raise .quiet := by
  rcases List.mem_pair.mp isQuiet with rfl | rfl
  · rfl
  · change [_].foldlM raiseLetter options = _
    rw [List.foldlM_cons]
    exact bind_pure _

section Quiet

theorem Quieted.bind {loud quiet : Except Interruption Options}
    {next : Options → Except Interruption Options} (first : Quieted loud quiet)
    (each : ∀ options, Quieted (next options) (next options.quieted)) :
    Quieted (loud >>= next) (quiet >>= next) := by
  rcases first with rfl | rfl
  · exact .inl rfl
  · cases loud with
    | error _ => exact .inr rfl
    | ok options => exact each options

theorem quieted_ok (options : Options) : Quieted (.ok options) (.ok options.quieted) := .inr rfl

theorem quieted_error (interruption : Interruption) :
    Quieted (.error interruption) (.error interruption) := .inr rfl

theorem quieted_raise (options : Options) (flag : Flag) :
    Quieted (options.raise flag) (options.quieted.raise flag) := by
  cases flag with
  | quiet => exact .inl rfl
  | help => exact quieted_error _
  | listMessages =>
    rw [raise, raise, quieted]
    split
    · exact quieted_error _
    · exact quieted_ok _

theorem quieted_raiseLetter (options : Options) (letter : Char) :
    Quieted (options.raiseLetter letter) (options.quieted.raiseLetter letter) := by
  rw [raiseLetter, raiseLetter]
  cases Flag.ofLetter? letter with
  | none => exact quieted_error _
  | some flag => exact quieted_raise options flag

theorem quieted_foldlM_raiseLetter (letters : List Char) (options : Options) :
    Quieted (letters.foldlM raiseLetter options) (letters.foldlM raiseLetter options.quieted) := by
  induction letters generalizing options with
  | nil => exact quieted_ok options
  | cons letter rest ih =>
    rw [List.foldlM_cons, List.foldlM_cons]
    exact (quieted_raiseLetter options letter).bind ih

theorem quieted_raiseLong (options : Options) (text : List Char) :
    Quieted (options.raiseLong text) (options.quieted.raiseLong text) := by
  rw [raiseLong, raiseLong]
  cases Flag.ofLongName? (String.ofList (text.takeWhile (· != '='))) with
  | none => exact quieted_error _
  | some flag =>
    cases text.dropWhile (· != '=') with
    | nil => exact quieted_raise options flag
    | cons _ value => exact quieted_error _

theorem quieted_takeUp (options : Options) (argument : String) :
    Quieted (options.takeUp argument) (options.quieted.takeUp argument) := by
  unfold takeUp
  split
  · exact quieted_raiseLong options _
  · exact quieted_foldlM_raiseLetter _ options
  · exact quieted_ok _

/-- Arguments ask for the same after a quiet flag and without it. -/
theorem quieted_readFrom (arguments : List String) (options : Options) :
    Quieted (options.readFrom arguments) (options.quieted.readFrom arguments) := by
  induction arguments generalizing options with
  | nil => exact quieted_ok options
  | cons argument rest ih =>
    by_cases dashes : argument = "--"
    · subst dashes
      exact quieted_ok (options.addFiles rest)
    · rw [readFrom_cons dashes, readFrom_cons dashes]
      exact (quieted_takeUp options argument).bind ih

/-- A quiet flag among the arguments is refused if it was given before, and otherwise it makes the
options quiet. -/
theorem quieted_parse (flagged : "--" ∉ before) (isQuiet : flag ∈ quietFlags) :
    Quieted (parse (before ++ after)) (parse (before ++ flag :: after)) := by
  have single : flag ≠ "--" := by
    rintro rfl
    exact absurd isQuiet (by decide)
  rw [parse, parse, readFrom_append flagged, readFrom_append flagged]
  cases Options.readFrom {} before with
  | error interruption => exact quieted_error interruption
  | ok options =>
    rw [Result.ok_bind, Result.ok_bind, readFrom_cons single, takeUp_quietFlag isQuiet, raise]
    split
    · exact .inl rfl
    · exact quieted_readFrom after options

end Quiet

end DiagnosticReplay.CommandLine
