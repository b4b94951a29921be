import DiagnosticReplay.Proofs.Record.Grammar
import DiagnosticReplay.Proofs.Replay.Records
import DiagnosticReplay.Proofs.Rows

/-! # Scripts are shared by path

The diagnostics of a document hold scripts that a register handed out, one request a record. Two of
them hold one and the same script exactly if their records give one path, compared character by
character, and that script has the path of its records and nothing in it.
-/

namespace DiagnosticReplay.Replay

/-- The diagnostics of a document share their scripts as its records give their paths. -/
structure Loaded.SharesByPath (loaded : Loaded) (entries : List Record.Entry) : Prop where
  size : loaded.collection.size = entries.length
  /-- A diagnostic holds a shared script, which has the path of its record and no content. -/
  stands : ∀ (i : Nat) (entry : Record.Entry) (diagnostic : Diagnostic), entries[i]? = some entry →
    loaded.collection.diagnostics[i]? = some diagnostic →
      diagnostic.span.script.path = entry.filePath ∧ diagnostic.span.script.content = "" ∧
        diagnostic.span.script.number.isSome
  /-- Two diagnostics hold one and the same script exactly if their records give the same path. -/
  same : ∀ (i j : Nat) (first second : Record.Entry) (diagnostic other : Diagnostic),
    entries[i]? = some first → entries[j]? = some second →
      loaded.collection.diagnostics[i]? = some diagnostic →
        loaded.collection.diagnostics[j]? = some other →
          (diagnostic.span.script.number = other.span.script.number ↔
            first.filePath = second.filePath)
  /-- The first diagnostic that shares a script is that of the first record with its path. -/
  owners : loaded.scriptOwners =
    entries.map fun entry => entries.findIdx fun first => first.filePath == entry.filePath

/-- Diagnostics whose scripts a register holds share these by path, since no two scripts of a register
have one number or one path. -/
theorem sharesByPath_of_register {origin : String} {register : Source.ScriptRegister}
    (numbered : register.IsNumbered) {entries : List Record.Entry} {loaded : Loaded}
    (each : List.Forall₂ (LoadsFrom origin register) entries loaded.collection.diagnostics) :
    loaded.SharesByPath entries where
  size := each.length_eq.symm
  stands := by
    intro i entry diagnostic isEntry isDiagnostic
    obtain ⟨number, shared⟩ :=
      numbered.exists_shared (related_of_forall₂ each isEntry isDiagnostic).held
    rw [shared]
    exact ⟨rfl, rfl, rfl⟩
  same := by
    intro i j first second diagnostic other isFirst isSecond isDiagnostic isOther
    exact numbered.number_eq_iff (related_of_forall₂ each isFirst isDiagnostic).held
      (related_of_forall₂ each isSecond isOther).held
  owners := by
    rw [Loaded.scriptOwners]
    apply map_eq_map_of_forall₂ each
    intro entry diagnostic loads
    apply findIdx_eq_of_forall₂ each
    intro first other loadsFirst
    rw [Bool.eq_iff_iff, beq_iff_eq, beq_iff_eq, numbered.number_eq_iff loadsFirst.held loads.held]

/-- The diagnostics of a document that is loaded share their scripts by the paths of their
records. -/
theorem loadText_sharesByPath {origin text : String} {loaded : Loaded}
    (isLoaded : loadText origin text = .ok loaded) :
    ∃ entries, Record.Describes text entries ∧ loaded.SharesByPath entries := by
  obtain ⟨entries, read, each⟩ := loadText_eq_ok_of_register isLoaded
  exact ⟨entries, Record.ofText_eq_ok_iff.mp read,
    sharesByPath_of_register (Source.ScriptRegister.isNumbered_empty.after _) each⟩

def likePathsText : String :=
  "\x7b\"diagnostics\":[\x7b\"id\":0,\"filePath\":\"/a\",\"line\":1,\"column\":0\x7d,\x7b\"id\":1,\"filePath\":\"/A\",\"line\":1,\"column\":0\x7d,\x7b\"id\":2,\"filePath\":\"/a\",\"line\":2,\"column\":0\x7d,\x7b\"id\":3,\"filePath\":\"/./a\",\"line\":1,\"column\":0\x7d]\x7d"

/-- Records whose paths differ in case, or are the same only when normalized, share no script. -/
theorem loadText_sharesByPath_likePaths :
    ∃ loaded, loadText "d.json" likePathsText = .ok loaded ∧
      loaded.scriptOwners = [0, 1, 0, 3] ∧
      ∃ entries, Record.Describes likePathsText entries ∧ loaded.SharesByPath entries := by
  have owners : (loadText "d.json" likePathsText).map Loaded.scriptOwners = .ok [0, 1, 0, 3] := by
    decide +kernel
  obtain ⟨loaded, isLoaded, same⟩ := Result.map_eq_ok_iff.mp owners
  exact ⟨loaded, isLoaded, same, loadText_sharesByPath isLoaded⟩

end DiagnosticReplay.Replay
