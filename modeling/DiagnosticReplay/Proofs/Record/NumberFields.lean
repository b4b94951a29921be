import DiagnosticReplay.Proofs.Json.Replacing
import DiagnosticReplay.Proofs.Record.Grammar

/-! # Number fields of recorded documents

Three fields of a record hold a number. If a document is read and the number in such a field of one
record is replaced, then the document is read as the same records with the new number in that field
of that record, if it is one that the field can hold. Otherwise what is wrong with the number is what
is wrong with the document.
-/

namespace DiagnosticReplay.Record

open Json

/-- A field of a recorded diagnostic that holds a number. -/
inductive NumberField where
  | id
  | line
  | column
deriving DecidableEq

namespace NumberField

/-- The name of the field. -/
def label : NumberField → String
  | id => "id"
  | line => "line"
  | column => "column"

/-- The content of the field. -/
def content : NumberField → UInt32 → EntryField
  | id => .id
  | line => .line
  | column => .column

/-- The record with another number in the field. -/
def set (field : NumberField) (value : UInt32) (record : Entry) : Entry :=
  match field with
  | id => { record with id := value }
  | line => { record with line := value }
  | column => { record with column := value }

/-- The field as it is read. -/
def toField (field : NumberField) : Json.Field EntryField where
  name := field.label
  read := fun node => return field.content (← node.readUInt32)

theorem field?_label (field : NumberField) :
    entryShape.field? field.label = some field.toField := by
  cases field <;> rfl

theorem name_content (field : NumberField) (value : UInt32) :
    entryGrammar.name (field.content value) = field.label := by
  cases field <;> rfl

end NumberField

section Contents

variable {before after : List EntryField} {field : NumberField} {held value : UInt32}

theorem names_replaced (field : NumberField) (held value : UInt32) :
    (before ++ field.content value :: after).map entryGrammar.name =
      (before ++ field.content held :: after).map entryGrammar.name := by
  simp only [List.map_append, List.map_cons, NumberField.name_content]

/-- What is told of another field is told whatever number stands in this one. -/
theorem tellsField_replaced (value : UInt32) {rule : FieldRule EntryField} {label : String}
    (named : entryGrammar.name rule.content = label) (other : label ≠ field.label)
    (told : TellsField entryGrammar (before ++ field.content held :: after) rule) :
    TellsField entryGrammar (before ++ field.content value :: after) rule := by
  rcases told with isContent | ⟨absent, mayLack⟩
  · left
    rcases List.mem_append.mp isContent with earlier | later
    · exact List.mem_append_left _ earlier
    · rcases List.mem_cons.mp later with same | later
      · exact absurd (named.symm.trans (same ▸ field.name_content held)) other
      · exact List.mem_append_right _ (List.mem_cons_of_mem _ later)
  · refine .inr ⟨?_, mayLack⟩
    rw [List.forall_mem_append, List.forall_mem_cons, NumberField.name_content] at absent ⊢
    exact absent

/-- The contents of a record with another number in the field make the record with that number. -/
theorem ofFields_replaced {record : Entry}
    (distinct : ((before ++ field.content held :: after).map entryGrammar.name).Nodup)
    (made : Entry.ofFields (before ++ field.content held :: after) = .ok record) :
    Entry.ofFields (before ++ field.content value :: after) = .ok (field.set value record) := by
  have told := (Entry.ofFields_eq_ok_iff distinct).mp made
  rw [← names_replaced field held value] at distinct
  apply (Entry.ofFields_eq_ok_iff distinct).mpr
  have stands : TellsField entryGrammar (before ++ field.content value :: after)
      { content := field.content value } := .inl (by simp)
  simp only [Tells, Entry.fieldRules, List.forall_mem_cons] at told ⊢
  obtain ⟨id, filePath, line, column, warning, stage, arguments, -⟩ := told
  have keeps {rule : FieldRule EntryField} (label : String)
      (named : entryGrammar.name rule.content = label) (other : label ≠ field.label)
      (told : TellsField entryGrammar (before ++ field.content held :: after) rule) :=
    tellsField_replaced value named other told
  cases field with
  | id =>
    exact ⟨stands, keeps "filePath" rfl (by decide) filePath, keeps "line" rfl (by decide) line,
      keeps "column" rfl (by decide) column, keeps "warning" rfl (by decide) warning,
      keeps "kind" rfl (by decide) stage, keeps "arguments" rfl (by decide) arguments,
      List.forall_mem_nil _⟩
  | line =>
    exact ⟨keeps "id" rfl (by decide) id, keeps "filePath" rfl (by decide) filePath, stands,
      keeps "column" rfl (by decide) column, keeps "warning" rfl (by decide) warning,
      keeps "kind" rfl (by decide) stage, keeps "arguments" rfl (by decide) arguments,
      List.forall_mem_nil _⟩
  | column =>
    exact ⟨keeps "id" rfl (by decide) id, keeps "filePath" rfl (by decide) filePath,
      keeps "line" rfl (by decide) line, stands, keeps "warning" rfl (by decide) warning,
      keeps "kind" rfl (by decide) stage, keeps "arguments" rfl (by decide) arguments,
      List.forall_mem_nil _⟩

end Contents

section Reading

variable {field : NumberField} {index : Nat} {old new node changed : Node}

/-- The value of the field is replaced in one of the records of a document. -/
inductive ReplacesNumber (field : NumberField) (index : Nat) (old new : Node) : Node → Node → Prop where
  | within {entry changedEntry list changedList document changed : Node} :
      Node.ReplacesField documentShape.names "diagnostics" list changedList document changed →
      Node.ReplacesItem index entry changedEntry list changedList →
      Node.ReplacesField entryShape.names field.label old new entry changedEntry →
      ReplacesNumber field index old new document changed

theorem readEntry_replaced {record : Entry}
    (replaces : Node.ReplacesField entryShape.names field.label old new node changed)
    (wellFormed : node.WellFormed) (isRead : readEntry node = .ok record) :
    readEntry changed = do return field.set (← new.readUInt32) record := by
  obtain ⟨contents, areContents, made⟩ := Result.bind_eq_ok_iff.mp isRead
  have distinct := follows_entryShape.nodup_names wellFormed areContents
  obtain ⟨place, before, content, after, -, isContent, rfl, anew⟩ :=
    replaces.read follows_entryShape.distinct field.field?_label areContents
  obtain ⟨held, -, same⟩ := Result.bind_eq_ok_iff.mp isContent
  obtain rfl := Except.ok.inj same
  simp only [readEntry, anew, NumberField.toField]
  cases new.readUInt32 with
  | error error => rfl
  | ok value => exact ofFields_replaced distinct made

/-- A document is read as before but for the number in the field of the record. -/
theorem ReplacesNumber.readDocument {entries : List Entry}
    (replaces : ReplacesNumber field index old new node changed) (wellFormed : node.WellFormed)
    (isRead : readDocument node = .ok entries) :
    ∃ before record after, before.length = index ∧ entries = before ++ record :: after ∧
      Record.readDocument changed = do
        return before ++ field.set (← new.readUInt32) record :: after := by
  obtain ⟨document, list, entry⟩ := replaces
  obtain ⟨contents, areContents, same⟩ := Result.bind_eq_ok_iff.mp isRead
  obtain rfl := Except.ok.inj same
  have distinct := follows_documentShape.nodup_names wellFormed areContents
  obtain ⟨place, earlier, content, later, -, isContent, rfl, anew⟩ :=
    document.read follows_documentShape.distinct rfl areContents
  -- the one field of a document stands once
  obtain ⟨rfl, rfl⟩ : earlier = [] ∧ later = [] := by
    rw [documentGrammar, List.map_const', List.nodup_replicate, List.length_append,
      List.length_cons] at distinct
    exact ⟨List.length_eq_zero_iff.mp (by omega), List.length_eq_zero_iff.mp (by omega)⟩
  obtain ⟨before, record, after, isPlace, isRecord, rfl, anewList⟩ := list.readList isContent
  have anewEntry := readEntry_replaced entry
    (list.wellFormed (document.wellFormed wellFormed)) isRecord
  refine ⟨before, record, after, isPlace, by simp, ?_⟩
  simp only [Record.readDocument, anew, anewList, anewEntry]
  cases new.readUInt32 <;> simp

/-- A text is read as before but for the number in the field of the record. -/
theorem ofText_replaced {text written : String} {entries : List Entry}
    (replaces : ReplacesNumber field index old new node changed)
    (spelled : node.Spells text.toList) (spelledAnew : changed.Spells written.toList)
    (isRead : ofText text = .ok entries) :
    ∃ before record after, before.length = index ∧ entries = before ++ record :: after ∧
      ofText written = do return before ++ field.set (← new.readUInt32) record :: after := by
  rw [ofText_of_spells spelled] at isRead
  rw [ofText_of_spells spelledAnew]
  exact replaces.readDocument spelled.wellFormed isRead

end Reading

end DiagnosticReplay.Record
