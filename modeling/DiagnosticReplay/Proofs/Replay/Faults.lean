import DiagnosticReplay.Proofs.Diagnostic.Arguments
import DiagnosticReplay.Proofs.Replay.Records

/-! # Faults of meaning

A record that could be read can still fail to mean anything: two of its argument names may be the
same but for ASCII case, or an operator may be given by a text that no operator has. A record
without such a fault is loaded, and one with a fault is refused with an error that names a fault
that it really has.
-/

namespace DiagnosticReplay

namespace Operator

/-- An operator is found by its text, and nothing is found by any other text. -/
theorem isSome_ofText?_iff {text : String} :
    (ofText? text).isSome ↔ ∃ operator : Operator, operator.text = text := by
  have every (operator : Operator) : operator ∈ all := by cases operator <;> decide
  simp [ofText?, List.find?_isSome, every]

theorem ofText?_eq_none_iff {text : String} :
    ofText? text = none ↔ ∀ operator : Operator, operator.text ≠ text := by
  rw [← Option.not_isSome_iff_eq_none, isSome_ofText?_iff, not_exists]

end Operator

namespace Record

/-- The text of an operator that an argument gives. -/
def ArgumentEntry.operatorText? : ArgumentEntry → Option String
  | .tokenData entry => entry.operator
  | _ => none

/-- No two argument names of the record are the same but for case, and every operator that it gives
is the text of an operator. -/
structure Entry.IsSound (entry : Entry) : Prop where
  distinct : ∀ name other value held, entry.arguments.get? name = some value →
    entry.arguments.get? other = some held → Text.foldCase name = Text.foldCase other → name = other
  operators : ∀ name value text, entry.arguments.get? name = some value →
    value.operatorText? = some text → ∃ operator : Operator, operator.text = text

/-- The error names a fault that the record has. -/
inductive Entry.Blames (origin : String) (entry : Entry) : LoadError → Prop where
  /-- An argument gives an operator by a text that no operator has. -/
  | unknownOperator {name : String} {value : ArgumentEntry} {text : String}
      (held : entry.arguments.get? name = some value) (given : value.operatorText? = some text)
      (unknown : Operator.ofText? text = none) : Blames origin entry (.unknownOperator origin text)
  /-- Two different names fold to one. -/
  | duplicateArgument {name other : String} {value held : ArgumentEntry} (differ : name ≠ other)
      (first : entry.arguments.get? name = some value)
      (second : entry.arguments.get? other = some held)
      (same : Text.foldCase name = Text.foldCase other) :
      Blames origin entry (.duplicateArgument origin entry.id (Text.foldCase name))

/-- Only a record with a fault can be blamed. -/
theorem Entry.Blames.not_isSound {origin : String} {entry : Entry} {error : LoadError}
    (blames : entry.Blames origin error) : ¬entry.IsSound := by
  intro sound
  cases blames with
  | unknownOperator held given unknown =>
    obtain ⟨operator, same⟩ := sound.operators _ _ _ held given
    exact Operator.ofText?_eq_none_iff.mp unknown operator same
  | duplicateArgument differ first second same =>
    exact differ (sound.distinct _ _ _ _ first second same)

end Record

namespace Replay

/-- An argument is loaded unless it gives an operator by a text that no operator has. -/
theorem failure?_loadArgument (origin : String) (value : Record.ArgumentEntry) :
    Result.failure? (loadArgument origin value) =
      (value.operatorText?.filter fun text => (Operator.ofText? text).isNone).map
        (LoadError.unknownOperator origin) := by
  cases value with
  | tokenData entry =>
    obtain ⟨kind, operator, stringValue⟩ := entry
    cases operator with
    | none => rfl
    | some text =>
      cases found : Operator.ofText? text <;>
        simp [loadArgument, loadToken, found, Record.ArgumentEntry.operatorText?, Option.filter,
          Result.failure?]
  | _ => rfl

theorem loadArgument_eq_error {origin : String} {value : Record.ArgumentEntry} {error : LoadError}
    (refused : loadArgument origin value = .error error) :
    ∃ text, value.operatorText? = some text ∧ Operator.ofText? text = none ∧
      error = .unknownOperator origin text := by
  have failure := Result.failure?_eq_some_iff.mpr refused
  rw [failure?_loadArgument] at failure
  simp only [Option.map_eq_some_iff, Option.filter_eq_some_iff, Option.isNone_iff_eq_none] at failure
  obtain ⟨text, ⟨given, unknown⟩, rfl⟩ := failure
  exact ⟨text, given, unknown, rfl⟩

/-- An argument is attached if its folded name is free and it can be loaded, and the others if they
can be attached after it. -/
theorem attachAll_cons_eq_ok_iff {name : String} {value : Record.ArgumentEntry}
    {rest : List (String × Record.ArgumentEntry)} {origin : String} {diagnostic result : Diagnostic} :
    attachAll origin diagnostic ((name, value) :: rest) = .ok result ↔
      diagnostic.argument? name = none ∧ ∃ argument, loadArgument origin value = .ok argument ∧
        attachAll origin (diagnostic.withArgument name argument) rest = .ok result := by
  rw [attachAll]
  cases taken : diagnostic.argument? name with
  | none => simp [Result.bind_eq_ok_iff]
  | some held => simp

/-- Attaching arguments changes nothing but the arguments. -/
theorem attachAll_keeps {origin : String} {arguments : List (String × Record.ArgumentEntry)}
    {diagnostic result : Diagnostic} (attached : attachAll origin diagnostic arguments = .ok result) :
    result = { diagnostic with arguments := result.arguments } := by
  induction arguments generalizing diagnostic with
  | nil => rw [Except.ok.inj attached]
  | cons argument rest ih =>
    obtain ⟨-, value, -, following⟩ := attachAll_cons_eq_ok_iff.mp attached
    have kept := ih following
    exact kept

/-- What is loaded of a record is its diagnostic, with some arguments. -/
theorem loadEntry_keeps {origin : String} {script : Source.Script} {entry : Record.Entry}
    {diagnostic : Diagnostic} (isLoaded : loadEntry origin script entry = .ok diagnostic) :
    diagnostic = { bareDiagnostic script entry with arguments := diagnostic.arguments } :=
  attachAll_keeps isLoaded

/-- Arguments that were all attached are new, differ in more than case, and can each be loaded. -/
theorem attachAll_eq_ok {origin : String} {arguments : List (String × Record.ArgumentEntry)}
    {diagnostic result : Diagnostic} (attached : attachAll origin diagnostic arguments = .ok result) :
    (arguments.map fun argument => Text.foldCase argument.1).Nodup ∧
      ∀ argument ∈ arguments, diagnostic.argument? argument.1 = none ∧
        ∃ value, loadArgument origin argument.2 = .ok value := by
  induction arguments generalizing diagnostic with
  | nil => exact ⟨List.nodup_nil, fun _ member => absurd member List.not_mem_nil⟩
  | cons argument rest ih =>
    obtain ⟨name, entry⟩ := argument
    obtain ⟨isNew, value, isValue, attachedRest⟩ := attachAll_cons_eq_ok_iff.mp attached
    obtain ⟨differ, each⟩ := ih attachedRest
    -- a later name is absent after the first one is attached, so it differs and was absent before
    have later : ∀ other ∈ rest, Text.foldCase name ≠ Text.foldCase other.1 ∧
        diagnostic.argument? other.1 = none := by
      intro other member
      have isAbsent := (each other member).1
      rw [Diagnostic.argument?_withArgument] at isAbsent
      split at isAbsent
      · simp at isAbsent
      · rename_i differs
        exact ⟨Ne.symm differs, isAbsent⟩
    have isApart : Text.foldCase name ∉ rest.map fun argument => Text.foldCase argument.1 := by
      intro member
      obtain ⟨other, isOther, same⟩ := List.mem_map.mp member
      exact (later other isOther).1 same.symm
    refine ⟨List.nodup_cons.mpr ⟨isApart, differ⟩, ?_⟩
    intro other member
    rcases List.mem_cons.mp member with rfl | tail
    · exact ⟨isNew, value, isValue⟩
    · exact ⟨(later other tail).2, (each other tail).2⟩

/-- An argument that stops the attaching cannot be loaded, or its folded name is taken. -/
theorem attachAll_eq_error {origin : String} {arguments : List (String × Record.ArgumentEntry)}
    {diagnostic : Diagnostic} {error : LoadError}
    (refused : attachAll origin diagnostic arguments = .error error) :
    ∃ before argument after, arguments = before ++ argument :: after ∧
      (loadArgument origin argument.2 = .error error ∨
        error = .duplicateArgument origin diagnostic.id (Text.foldCase argument.1) ∧
          ((diagnostic.argument? argument.1).isSome ∨
            ∃ earlier ∈ before, Text.foldCase earlier.1 = Text.foldCase argument.1)) := by
  induction arguments generalizing diagnostic with
  | nil => simp [attachAll] at refused
  | cons argument rest ih =>
    obtain ⟨name, entry⟩ := argument
    rw [attachAll] at refused
    split at refused
    · rename_i taken
      cases refused
      exact ⟨[], (name, entry), rest, rfl, .inr ⟨rfl, .inl taken⟩⟩
    · cases loaded : loadArgument origin entry with
      | error cause =>
        rw [loaded, Result.error_bind] at refused
        cases refused
        exact ⟨[], (name, entry), rest, rfl, .inl loaded⟩
      | ok value =>
        rw [loaded, Result.ok_bind] at refused
        obtain ⟨before, stopper, after, rfl, reason⟩ := ih refused
        refine ⟨(name, entry) :: before, stopper, after, rfl, reason.imp_right ?_⟩
        rintro ⟨isDuplicate, taken⟩
        refine ⟨isDuplicate, ?_⟩
        rw [Diagnostic.argument?_withArgument] at taken
        split at taken
        · rename_i same
          exact .inr ⟨(name, entry), List.mem_cons_self .., same.symm⟩
        · rcases taken with held | ⟨earlier, member, same⟩
          · exact .inl held
          · exact .inr ⟨earlier, List.mem_cons_of_mem _ member, same⟩

section Records

variable {origin : String} {entry : Record.Entry} {script : Source.Script}
  {arguments : List (String × Record.ArgumentEntry)}

/-- A record whose arguments are attached, in whatever order, has no fault. -/
theorem isSound_of_attachAll (order : arguments.Perm entry.arguments.entries)
    {diagnostic : Diagnostic}
    (attached : attachAll origin (bareDiagnostic script entry) arguments = .ok diagnostic) :
    entry.IsSound := by
  obtain ⟨differ, each⟩ := attachAll_eq_ok attached
  have listed {name : String} {value : Record.ArgumentEntry}
      (held : entry.arguments.get? name = some value) : (name, value) ∈ arguments :=
    order.mem_iff.mpr ((SortedMap.mem_entries_iff entry.arguments).mpr held)
  constructor
  · intro name other value held first second same
    exact congrArg Prod.fst (List.inj_on_of_nodup_map differ (listed first) (listed second) same)
  · intro name value text held given
    obtain ⟨-, argument, isLoaded⟩ := each _ (listed held)
    by_contra unknown
    have noOperator := Operator.ofText?_eq_none_iff.mpr (not_exists.mp unknown)
    have fails := failure?_loadArgument origin value
    rw [given, Option.filter_some, noOperator, isLoaded] at fails
    simp [Result.failure?] at fails

/-- A record whose arguments cannot be attached, in whatever order, is blamed for a fault that it
has. -/
theorem blames_of_attachAll (order : arguments.Perm entry.arguments.entries) {error : LoadError}
    (refused : attachAll origin (bareDiagnostic script entry) arguments = .error error) :
    entry.Blames origin error := by
  obtain ⟨before, ⟨name, value⟩, after, rfl, reason⟩ := attachAll_eq_error refused
  have held {key : String} {content : Record.ArgumentEntry}
      (listed : (key, content) ∈ before ++ (name, value) :: after) :
      entry.arguments.get? key = some content :=
    (SortedMap.mem_entries_iff entry.arguments).mp (order.mem_iff.mp listed)
  rcases reason with stopped | ⟨rfl, taken | ⟨⟨other, earlier⟩, member, same⟩⟩
  · obtain ⟨text, given, unknown, rfl⟩ := loadArgument_eq_error stopped
    exact .unknownOperator (held List.mem_append_cons_self) given unknown
  · simp [bareDiagnostic, Diagnostic.argument?] at taken
  · have distinct := (order.map Prod.fst).symm.nodup entry.arguments.nodup_keys
    rw [List.map_append, List.map_cons] at distinct
    have differ : name ≠ other := fun equal => (List.nodup_append.mp distinct).2.2 _
      (List.mem_map_of_mem member) _ List.mem_cons_self equal.symm
    exact .duplicateArgument differ (held List.mem_append_cons_self)
      (held (List.mem_append_left _ member)) same.symm

theorem isSound_of_loadRecord {diagnostic : Diagnostic}
    (loaded : loadRecord origin entry = .ok diagnostic) : entry.IsSound :=
  isSound_of_attachAll (.refl _) loaded

theorem blames_of_loadRecord {error : LoadError} (refused : loadRecord origin entry = .error error) :
    entry.Blames origin error :=
  blames_of_attachAll (.refl _) refused

/-- A record is loaded exactly if it has no fault. -/
theorem exists_loadRecord_eq_ok_iff :
    (∃ diagnostic, loadRecord origin entry = .ok diagnostic) ↔ entry.IsSound := by
  refine ⟨fun ⟨_, loaded⟩ => isSound_of_loadRecord loaded, fun sound => ?_⟩
  cases loaded : loadRecord origin entry with
  | ok diagnostic => exact ⟨diagnostic, rfl⟩
  | error error => exact absurd sound (blames_of_loadRecord loaded).not_isSound

end Records

end Replay

end DiagnosticReplay
