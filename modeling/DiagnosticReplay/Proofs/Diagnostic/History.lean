import DiagnosticReplay.Proofs.Diagnostic.Arguments

/-! # Histories of a diagnostic

A diagnostic is given arguments and has its other fields changed, in any order and as often as one
likes. The two kinds of changes do not meet: the arguments are those that were given, as if nothing
else had been changed, and the other fields are as if no argument had been given. Of the arguments of
one folded name the last is kept, so only the order within such a name counts.
-/

namespace DiagnosticReplay.Diagnostic

open Text

/-- A change to a diagnostic. -/
inductive Change where
  | argument (call : Given)
  | id (id : UInt32)
  | span (span : Source.Span)
  | severity (severity : Severity)
  | stage (stage : Stage)

/-- The argument that a change gives, unless it changes another field. -/
def Change.given? : Change → Option Given
  | argument call => some call
  | _ => none

/-- The arguments that are given in a history, in their order. -/
def givenIn (history : List Change) : List Given :=
  history.filterMap Change.given?

/-- The changes of other fields in a history. -/
def withoutGiven (history : List Change) : List Change :=
  history.filter fun change => change.given?.isNone

/-- The diagnostic after a change. -/
def change (diagnostic : Diagnostic) : Change → Diagnostic
  | .argument call => diagnostic.withArgument call.1 call.2
  | .id id => { diagnostic with id }
  | .span span => { diagnostic with span }
  | .severity severity => { diagnostic with severity }
  | .stage stage => { diagnostic with stage }

/-- The diagnostic after a history of changes. -/
def after (diagnostic : Diagnostic) (history : List Change) : Diagnostic :=
  history.foldl change diagnostic

/-- The folded names under which a diagnostic holds its arguments. -/
def argumentNames (diagnostic : Diagnostic) : List String :=
  diagnostic.arguments.entries.map Prod.fst

section Halves

variable {diagnostic other : Diagnostic}

theorem after_append (diagnostic : Diagnostic) (earlier later : List Change) :
    diagnostic.after (earlier ++ later) = (diagnostic.after earlier).after later :=
  List.foldl_append

/-- What a change does to the arguments depends on them alone, and so with the other fields. -/
theorem change_halves (diagnostic other : Diagnostic) (made : Change) :
    { diagnostic with arguments := other.arguments }.change made =
      { diagnostic.after (withoutGiven [made]) with
        arguments := (other.withArguments (givenIn [made])).arguments } := by
  cases made <;> rfl

/-- The arguments after a history are those that were given in it, and the other fields are those after
the changes that give none. -/
theorem after_halves (diagnostic other : Diagnostic) (history : List Change) :
    { diagnostic with arguments := other.arguments }.after history =
      { diagnostic.after (withoutGiven history) with
        arguments := (other.withArguments (givenIn history)).arguments } := by
  induction history generalizing diagnostic other with
  | nil => rfl
  | cons made history ih =>
    have others : diagnostic.after (withoutGiven (made :: history)) =
        (diagnostic.after (withoutGiven [made])).after (withoutGiven history) := by
      rw [← after_append, withoutGiven, withoutGiven, withoutGiven, ← List.filter_append]
      rfl
    have given : other.withArguments (givenIn (made :: history)) =
        (other.withArguments (givenIn [made])).withArguments (givenIn history) := by
      rw [withArguments, withArguments, withArguments, ← List.foldl_append, givenIn, givenIn,
        givenIn, ← List.filterMap_append]
      rfl
    have step : { diagnostic with arguments := other.arguments }.after (made :: history) =
        ({ diagnostic with arguments := other.arguments }.change made).after history := rfl
    rw [step, change_halves, ih, others, given]

theorem after_eq (diagnostic : Diagnostic) (history : List Change) :
    diagnostic.after history =
      { diagnostic.after (withoutGiven history) with
        arguments := (diagnostic.withArguments (givenIn history)).arguments } :=
  after_halves diagnostic diagnostic history

theorem argument?_after (diagnostic : Diagnostic) (history : List Change) (name : String) :
    (diagnostic.after history).argument? name =
      (diagnostic.withArguments (givenIn history)).argument? name := by
  rw [after_eq]
  rfl

theorem argumentNames_after (diagnostic : Diagnostic) (history : List Change) :
    (diagnostic.after history).argumentNames =
      (diagnostic.withArguments (givenIn history)).argumentNames := by
  rw [after_eq]
  rfl

end Halves

section Names

theorem nodup_argumentNames (diagnostic : Diagnostic) : diagnostic.argumentNames.Nodup :=
  diagnostic.arguments.nodup_keys

/-- Giving arguments adds their folded names. -/
theorem mem_argumentNames_withArguments_iff {diagnostic : Diagnostic} {calls : List Given}
    {name : String} :
    name ∈ (diagnostic.withArguments calls).argumentNames ↔
      name ∈ diagnostic.argumentNames ∨ ∃ call ∈ calls, foldCase call.1 = name := by
  induction calls generalizing diagnostic with
  | nil => simp [withArguments]
  | cons call rest ih =>
    have first : name ∈ (diagnostic.withArgument call.1 call.2).argumentNames ↔
        name = foldCase call.1 ∨ name ∈ diagnostic.argumentNames :=
      SortedMap.mem_keys_insert_iff diagnostic.arguments (foldCase call.1) name call.2
    have step : diagnostic.withArguments (call :: rest) =
        (diagnostic.withArgument call.1 call.2).withArguments rest := rfl
    rw [step, ih, first, List.exists_mem_cons_iff, eq_comm (a := name), or_comm (a := _ = name),
      or_assoc]

end Names

/-- After a history a name finds the last argument that was given under it in some ASCII case, and if
there was none, what it found before, which is nothing in a diagnostic that held no arguments. The
names that are held are those held before and the folded ones that were given, each once. Neighbours
of different folded names can change places, and the arguments and the other fields are as if the
others had never been changed. -/
theorem after_history (diagnostic : Diagnostic) (history : List Change) :
    (∀ name, (∀ call ∈ givenIn history, ¬call.Meets name) ∧
        (diagnostic.after history).argument? name = diagnostic.argument? name ∨
      ∃ before call later, givenIn history = before ++ call :: later ∧ call.Meets name ∧
        (∀ other ∈ later, ¬other.Meets name) ∧
        (diagnostic.after history).argument? name = some call.2) ∧
    (diagnostic.after history).argumentNames.Nodup ∧
    (∀ name, name ∈ (diagnostic.after history).argumentNames ↔
      name ∈ diagnostic.argumentNames ∨ ∃ call ∈ givenIn history, foldCase call.1 = name) ∧
    (diagnostic.arguments = .empty →
      (∀ name, diagnostic.argument? name = none) ∧ diagnostic.argumentNames = []) ∧
    (∀ later one other, foldCase one.1 ≠ foldCase other.1 →
      diagnostic.after (history ++ .argument one :: .argument other :: later) =
        diagnostic.after (history ++ .argument other :: .argument one :: later)) ∧
    diagnostic.after history =
      { diagnostic.after (withoutGiven history) with
        arguments := (diagnostic.withArguments (givenIn history)).arguments } := by
  refine ⟨?found, nodup_argumentNames _, ?names, ?fresh, ?order, after_eq diagnostic history⟩
  case found =>
    intro name
    rw [argument?_after]
    exact argument?_withArguments_or diagnostic (givenIn history) name
  case names =>
    intro name
    rw [argumentNames_after]
    exact mem_argumentNames_withArguments_iff
  case fresh =>
    intro fresh
    refine ⟨fun name => ?_, by rw [argumentNames, fresh]; rfl⟩
    rw [argument?, fresh, SortedMap.get?_empty]
  case order =>
    intro later one other differ
    rw [after_append, after_append]
    apply congrArg fun reached : Diagnostic => reached.after later
    exact withArgument_comm differ one.2 other.2

/-- The last of three arguments under one folded name is kept, whatever is changed between them. -/
theorem after_history_replacedArgument :
    let bare : Diagnostic := ⟨9, ⟨.ofContent "/a" "", ⟨1, 0⟩⟩, .error, .parsing, .empty⟩
    let history : List Change := [.argument ("Label", .text "x"), .severity .warning,
      .argument ("gotN", .token .comma), .id 7, .argument ("LABEL", .text "y"), .stage .verification]
    bare.arguments = .empty ∧ foldCase "label" ≠ foldCase "gotn" ∧
      (∀ name, name ∈ (bare.after history).argumentNames ↔
        ∃ call ∈ givenIn history, foldCase call.1 = name) ∧
      bare.after (history ++ [.argument ("label", .text "z"), .argument ("gotn", .text "1")]) =
        bare.after (history ++ [.argument ("gotn", .text "1"), .argument ("label", .text "z")]) := by
  intro bare history
  obtain ⟨-, -, names, fresh, order, -⟩ := after_history bare history
  have differ : foldCase "label" ≠ foldCase "gotn" := by decide +kernel
  have nothing : bare.argumentNames = [] := (fresh rfl).2
  refine ⟨rfl, differ, fun name => ?_, order [] _ _ differ⟩
  rw [names, nothing]
  exact or_iff_right List.not_mem_nil

end DiagnosticReplay.Diagnostic
