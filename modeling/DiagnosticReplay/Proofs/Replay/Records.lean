import DiagnosticReplay.Proofs.Result
import DiagnosticReplay.Proofs.Source.Register
import DiagnosticReplay.Replay

/-! # Loading record by record

What is loaded of a record does not depend on the records around it, but for the number of its script.
So a text is loaded if it can be read and each of its records can be loaded; otherwise the reader's
error decides, or the first record that cannot be loaded. The scripts are those that a register hands
out on the way, one request a record, and it still holds them at the end.
-/

namespace DiagnosticReplay

namespace Diagnostic

/-- The diagnostic at the same position of another script. -/
def inScript (diagnostic : Diagnostic) (script : Source.Script) : Diagnostic :=
  { diagnostic with span.script := script }

variable (diagnostic : Diagnostic) (script : Source.Script)

@[simp] theorem inScript_script : (diagnostic.inScript script).span.script = script := rfl

@[simp] theorem argument?_inScript (name : String) :
    (diagnostic.inScript script).argument? name = diagnostic.argument? name := rfl

@[simp] theorem withArgument_inScript (name : String) (value : Argument) :
    (diagnostic.inScript script).withArgument name value =
      (diagnostic.withArgument name value).inScript script := rfl

end Diagnostic

namespace Replay

open Source

variable {origin : String} {register : ScriptRegister} {entries : List Record.Entry}

section Records

variable {script : Script} {entry : Record.Entry} {diagnostic : Diagnostic}

/-- The diagnostic of a record by itself. -/
def loadRecord (origin : String) (entry : Record.Entry) : Load Diagnostic :=
  loadEntry origin (.ofContent entry.filePath "") entry

/-- A record is loaded as a diagnostic, which stands in the shared script of the record's path. -/
def LoadsAs (origin : String) (entry : Record.Entry) (diagnostic : Diagnostic) : Prop :=
  ∃ number, loadEntry origin (.shared number entry.filePath) entry = .ok diagnostic

/-- A record is loaded as a diagnostic, which stands in the script that the register holds for the
record's path. -/
structure LoadsFrom (origin : String) (register : ScriptRegister) (entry : Record.Entry)
    (diagnostic : Diagnostic) : Prop where
  held : register.find? entry.filePath = some diagnostic.span.script
  loaded : loadEntry origin diagnostic.span.script entry = .ok diagnostic

theorem LoadsFrom.loadsAs (loads : LoadsFrom origin register entry diagnostic)
    (numbered : register.IsNumbered) : LoadsAs origin entry diagnostic := by
  obtain ⟨number, shared⟩ := numbered.exists_shared loads.held
  exact ⟨number, shared ▸ loads.loaded⟩

/-- Which arguments can be attached does not depend on the script. -/
theorem attachAll_inScript (origin : String) (diagnostic : Diagnostic) (script : Script)
    (arguments : List (String × Record.ArgumentEntry)) :
    attachAll origin (diagnostic.inScript script) arguments =
      (attachAll origin diagnostic arguments).map (·.inScript script) := by
  induction arguments generalizing diagnostic with
  | nil => rfl
  | cons argument rest ih =>
    rw [attachAll, attachAll, Diagnostic.argument?_inScript]
    split
    · rfl
    · cases loadArgument origin argument.2 with
      | error error => rfl
      | ok value => rw [Result.ok_bind, Result.ok_bind, Diagnostic.withArgument_inScript, ih]

theorem loadEntry_eq (origin : String) (script : Script) (entry : Record.Entry) :
    loadEntry origin script entry = (loadRecord origin entry).map (·.inScript script) :=
  attachAll_inScript origin (bareDiagnostic (.ofContent entry.filePath "") entry) script _

theorem failure?_loadEntry (origin : String) (script : Script) (entry : Record.Entry) :
    Result.failure? (loadEntry origin script entry) =
      Result.failure? (loadRecord origin entry) := by
  rw [loadEntry_eq, Result.failure?_map]

/-- A diagnostic holds the script that its record was given. -/
theorem script_of_loadEntry (isLoaded : loadEntry origin script entry = .ok diagnostic) :
    diagnostic.span.script = script := by
  rw [loadEntry_eq, Result.map_eq_ok_iff] at isLoaded
  obtain ⟨alone, -, rfl⟩ := isLoaded
  exact alone.inScript_script script

end Records

section Entries

/-- The script of each record is the one that the register holds in the end for the record's path. -/
theorem loadEntries_eq_ok {diagnostics : List Diagnostic}
    (isLoaded : loadEntries origin register entries = .ok diagnostics) :
    List.Forall₂ (LoadsFrom origin (register.after (entries.map (·.filePath)))) entries
      diagnostics := by
  induction entries generalizing register diagnostics with
  | nil =>
    cases isLoaded
    exact .nil
  | cons entry rest ih =>
    simp only [loadEntries, Result.bind_eq_ok_iff] at isLoaded
    obtain ⟨diagnostic, first, others, following, same⟩ := isLoaded
    cases same
    have script := script_of_loadEntry first
    rw [← script] at first
    have held := ScriptRegister.find?_handOut register entry.filePath
    rw [← script] at held
    exact .cons ⟨ScriptRegister.find?_after_of_held held _, first⟩ (ih following)

/-- Records that cannot all be loaded fail as the first one that cannot. -/
theorem failure?_loadEntries (origin : String) (register : ScriptRegister)
    (entries : List Record.Entry) :
    Result.failure? (loadEntries origin register entries) =
      entries.findSome? fun entry => Result.failure? (loadRecord origin entry) := by
  induction entries generalizing register with
  | nil => rfl
  | cons entry rest ih =>
    have handed := failure?_loadEntry origin (register.handOut entry.filePath).1 entry
    rw [List.findSome?_cons, ← handed, ← ih (register.handOut entry.filePath).2, loadEntries]
    cases loadEntry origin (register.handOut entry.filePath).1 entry with
    | error error => rfl
    | ok diagnostic =>
      cases loadEntries origin (register.handOut entry.filePath).2 rest <;> rfl

end Entries

section Texts

variable {content : String} {loaded : Loaded}

/-- What is loaded of a text that can be read. -/
theorem loadText_of_ofText_eq_ok (origin : String) (read : Record.ofText content = .ok entries) :
    loadText origin content =
      (loadEntries origin .empty entries).map fun diagnostics => { collection := ⟨diagnostics⟩ } := by
  rw [loadText, read]

/-- A text is loaded as the diagnostics of its records, in their order, and the script of each record
is the one that a register holds in the end for the record's path. -/
theorem loadText_eq_ok_of_register (isLoaded : loadText origin content = .ok loaded) :
    ∃ entries, Record.ofText content = .ok entries ∧
      List.Forall₂ (LoadsFrom origin (ScriptRegister.empty.after (entries.map (·.filePath))))
        entries loaded.collection.diagnostics := by
  cases read : Record.ofText content with
  | error cause => simp [loadText, read] at isLoaded
  | ok entries =>
    rw [loadText_of_ofText_eq_ok origin read, Result.map_eq_ok_iff] at isLoaded
    obtain ⟨diagnostics, each, rfl⟩ := isLoaded
    exact ⟨entries, rfl, loadEntries_eq_ok each⟩

/-- A text is loaded as the diagnostics of its records, in their order. -/
theorem loadText_eq_ok (isLoaded : loadText origin content = .ok loaded) :
    ∃ entries, Record.ofText content = .ok entries ∧
      List.Forall₂ (LoadsAs origin) entries loaded.collection.diagnostics := by
  obtain ⟨entries, read, each⟩ := loadText_eq_ok_of_register isLoaded
  have numbered := ScriptRegister.isNumbered_empty.after (entries.map (·.filePath))
  exact ⟨entries, read, each.imp fun _ _ loads => loads.loadsAs numbered⟩

/-- The bytes of a source that is loaded are a text of records, and these are loaded in their
order. -/
theorem loadBytes_eq_ok {source : Except ReadFailure ByteArray}
    (isLoaded : loadBytes origin source = .ok loaded) :
    ∃ bytes content entries, source = .ok bytes ∧ String.fromUTF8? bytes = some content ∧
      Record.ofText content = .ok entries ∧
      List.Forall₂ (LoadsAs origin) entries loaded.collection.diagnostics := by
  rw [loadBytes] at isLoaded
  cases source with
  | error cause => simp [Except.bind] at isLoaded
  | ok bytes =>
    cases decoded : String.fromUTF8? bytes with
    | none => simp [Except.bind, decodeText, decoded] at isLoaded
    | some content =>
      simp only [Except.bind, decodeText, decoded] at isLoaded
      obtain ⟨entries, read, each⟩ := loadText_eq_ok isLoaded
      exact ⟨bytes, content, entries, rfl, decoded, read, each⟩

/-- A text that can be read fails as the first of its records that cannot be loaded. -/
theorem failure?_loadText (origin : String) (read : Record.ofText content = .ok entries) :
    Result.failure? (loadText origin content) =
      entries.findSome? fun entry => Result.failure? (loadRecord origin entry) := by
  rw [loadText_of_ofText_eq_ok origin read, Result.failure?_map, failure?_loadEntries]

/-- A text that can be read is loaded if each of its records can be. -/
theorem exists_loadText_eq_ok_iff (read : Record.ofText content = .ok entries) :
    (∃ loaded, loadText origin content = .ok loaded) ↔
      ∀ entry ∈ entries, ∃ diagnostic, loadRecord origin entry = .ok diagnostic := by
  rw [← Result.failure?_eq_none_iff, failure?_loadText origin read, List.findSome?_eq_none_iff]
  simp only [Result.failure?_eq_none_iff]

/-- A text that can be read is refused for the first of its records that cannot be loaded. -/
theorem loadText_eq_error_iff (read : Record.ofText content = .ok entries) {error : LoadError} :
    loadText origin content = .error error ↔
      entries.findSome? (fun entry => Result.failure? (loadRecord origin entry)) = some error := by
  rw [← Result.failure?_eq_some_iff, failure?_loadText origin read]

end Texts

end Replay

end DiagnosticReplay
