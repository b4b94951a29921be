import DiagnosticReplay.Proofs.Record.Grammar
import DiagnosticReplay.Proofs.Replay.Faults

/-! # Which texts are loaded

A text is loaded exactly if it describes records and none of them has a fault. A text that describes
no records is refused as invalid, whatever faults the records before the bad place have; one that
describes records is refused for the first of them that has a fault.
-/

namespace DiagnosticReplay.Replay

open Record

/-- A text that describes no records is refused as invalid. -/
theorem loadText_of_not_describes (origin : String) {text : String}
    (nothing : ¬∃ records, Describes text records) :
    ∃ cause, loadText origin text = .error (.invalid origin cause) := by
  cases read : Record.ofText text with
  | error cause => exact ⟨cause, by rw [loadText, read]⟩
  | ok records => exact absurd ⟨records, ofText_eq_ok_iff.mp read⟩ nothing

/-- A text that describes records is refused for the first of them that has a fault. -/
theorem blames_of_loadText {origin text : String} {records : List Entry}
    (describes : Describes text records) {error : LoadError}
    (refused : loadText origin text = .error error) :
    ∃ before record after, records = before ++ record :: after ∧
      (∀ earlier ∈ before, earlier.IsSound) ∧ record.Blames origin error := by
  rw [loadText_eq_error_iff (ofText_eq_ok_iff.mpr describes), List.findSome?_eq_some_iff] at refused
  obtain ⟨before, record, after, rfl, isRefused, others⟩ := refused
  refine ⟨before, record, after, rfl, fun earlier member => ?_,
    blames_of_loadRecord (Result.failure?_eq_some_iff.mp isRefused)⟩
  obtain ⟨diagnostic, isLoaded⟩ := Result.failure?_eq_none_iff.mp (others earlier member)
  exact isSound_of_loadRecord isLoaded

/-- A text that describes records is loaded exactly if none of them has a fault. -/
theorem exists_loadText_iff_of_describes {origin text : String} {records : List Entry}
    (describes : Describes text records) :
    (∃ loaded, loadText origin text = .ok loaded) ↔ ∀ record ∈ records, record.IsSound := by
  rw [exists_loadText_eq_ok_iff (ofText_eq_ok_iff.mpr describes)]
  simp only [exists_loadRecord_eq_ok_iff]

/-- A text is loaded exactly if it describes records without a fault. Otherwise it is invalid, or the
first record with a fault is blamed; and nothing is reported. -/
theorem loadText_accepts_or_blames (origin text : String) :
    ((∃ loaded, loadText origin text = .ok loaded) ↔
      ∃ records, Describes text records ∧ ∀ record ∈ records, record.IsSound) ∧
    ((¬∃ records, Describes text records) →
      ∃ cause, loadText origin text = .error (.invalid origin cause)) ∧
    (∀ records, Describes text records → ∀ error, loadText origin text = .error error →
      ∃ before record after, records = before ++ record :: after ∧
        (∀ earlier ∈ before, earlier.IsSound) ∧ record.Blames origin error) ∧
    ∀ error, loadText origin text = .error error →
      loadEvents origin (loadText origin text) = [] := by
  refine ⟨⟨?_, ?_⟩, loadText_of_not_describes origin, fun _ describes _ => blames_of_loadText describes,
    fun error refused => by rw [refused, loadEvents]⟩
  · rintro ⟨loaded, isLoaded⟩
    by_cases described : ∃ records, Describes text records
    · obtain ⟨records, describes⟩ := described
      exact ⟨records, describes, (exists_loadText_iff_of_describes describes).mp ⟨loaded, isLoaded⟩⟩
    · obtain ⟨cause, refused⟩ := loadText_of_not_describes origin described
      simp [refused] at isLoaded
  · rintro ⟨records, describes, sound⟩
    exact (exists_loadText_iff_of_describes describes).mpr sound

/-- An argument that a later one of the same name replaces is not judged. -/
example : (loadText "d.json"
    "\x7b\"diagnostics\":[\x7b\"id\":20,\"filePath\":\"/a\",\"line\":1,\"column\":0,\"arguments\":\x7b\"t\":\x7b\"tokenData\":\x7b\"kind\":\"operator\",\"operator\":\"=/=\"\x7d\x7d,\"t\":\x7b\"text\":\"x\"\x7d\x7d\x7d]\x7d").isOk := by
  decide +kernel

end DiagnosticReplay.Replay
