import DiagnosticReplay.Proofs.Json.Fields
import DiagnosticReplay.Proofs.SortedMap
import DiagnosticReplay.Record.Reader

/-! # The grammar of recorded documents

Which values are documents, and of which records. Every field has one way to be written, whatever
the record, and a record is a value with such fields. A text is read as some records exactly if it
is a document of them.
-/

namespace DiagnosticReplay.Record

open Json

/-! ### Tokens -/

/-- The name of a field of a recorded token. -/
def TokenField.name : TokenField → String
  | .kind _ => "kind"
  | .operator _ => "operator"
  | .stringValue _ => "stringValue"

/-- A field of a recorded token as it is written. -/
def TokenField.Writes : TokenField → Node → Prop
  | .kind token => Node.IsName token.recordName
  | .operator text => Node.IsOptional Node.IsText text
  | .stringValue text => Node.IsText text

/-- How the fields of a recorded token are written. -/
def tokenGrammar : FieldGrammar TokenField := ⟨TokenField.name, TokenField.Writes⟩

/-- What a recorded token says about its fields. -/
def TokenEntry.fieldRules (entry : TokenEntry) : List (FieldRule TokenField) := [
  { content := .kind entry.kind },
  { content := .operator entry.operator, mayLack := entry.operator = none },
  { content := .stringValue entry.stringValue, mayLack := entry.stringValue = "",
    mayEnd := entry.stringValue = "" }]

/-- The value is a recorded token. -/
def IsTokenEntry (entry : TokenEntry) : Node → Prop :=
  Node.IsShaped tokenGrammar entry.fieldRules

/-! ### Arguments -/

/-- The name that tags arguments of a kind. -/
def ArgumentTag.label : ArgumentTag → String
  | .text => "text"
  | .token => "token"
  | .tokenData => "tokenData"
  | .modifier => "modifier"
  | .access => "access"

/-- The kind of an argument. -/
def ArgumentEntry.tag : ArgumentEntry → ArgumentTag
  | .text _ => .text
  | .token _ => .token
  | .tokenData _ => .tokenData
  | .modifier _ => .modifier
  | .access _ => .access

/-- The content of an argument as it is written. -/
def ArgumentEntry.Writes : ArgumentEntry → Node → Prop
  | .text value => Node.IsText value
  | .token kind => Node.IsName kind.recordName
  | .tokenData entry => IsTokenEntry entry
  | .modifier named => Node.IsName named.keyword
  | .access named => Node.IsName named.keyword

/-- The value is an argument: its content under its tag. -/
def IsArgument (entry : ArgumentEntry) : Node → Prop :=
  Node.IsTagged entry.tag.label entry.Writes

/-- The value is a map of arguments. A name that is repeated exactly keeps its last value. -/
inductive IsArguments (arguments : SortedMap String ArgumentEntry) : Node → Prop where
  | map {named : List (String × ArgumentEntry)} {node : Node} : node.IsMapOf IsArgument named →
      (∀ name, arguments.get? name = named.reverse.lookup name) → IsArguments arguments node

/-! ### Diagnostics -/

/-- The name of a field of a recorded diagnostic. -/
def EntryField.name : EntryField → String
  | .id _ => "id"
  | .filePath _ => "filePath"
  | .line _ => "line"
  | .column _ => "column"
  | .warning _ => "warning"
  | .stage _ => "kind"
  | .arguments _ => "arguments"

/-- A field of a recorded diagnostic as it is written. -/
def EntryField.Writes : EntryField → Node → Prop
  | .id value => Node.IsNumber value
  | .filePath path => Node.IsText path
  | .line value => Node.IsNumber value
  | .column value => Node.IsNumber value
  | .warning value => (· = .boolean value)
  | .stage given => Node.IsOptional (fun stage => Node.IsName stage.recordName) given
  | .arguments held => IsArguments held

/-- How the fields of a recorded diagnostic are written. -/
def entryGrammar : FieldGrammar EntryField := ⟨EntryField.name, EntryField.Writes⟩

/-- What a recorded diagnostic says about its fields. -/
def Entry.fieldRules (entry : Entry) : List (FieldRule EntryField) := [
  { content := .id entry.id },
  { content := .filePath entry.filePath },
  { content := .line entry.line },
  { content := .column entry.column },
  { content := .warning entry.warning, mayLack := entry.warning = false,
    mayEnd := entry.warning = false },
  { content := .stage entry.stage, mayLack := entry.stage = none },
  { content := .arguments entry.arguments, mayLack := entry.arguments = .empty,
    mayEnd := entry.arguments = .empty }]

/-- The value is a recorded diagnostic. -/
def IsEntry (entry : Entry) : Node → Prop :=
  Node.IsShaped entryGrammar entry.fieldRules

/-! ### Documents -/

/-- How the one field of a document is written. -/
def documentGrammar : FieldGrammar (List Entry) := ⟨fun _ => "diagnostics", Node.IsListOf IsEntry⟩

/-- The value is a document of the recorded diagnostics. -/
def IsDocument (entries : List Entry) : Node → Prop :=
  Node.IsShaped documentGrammar
    [{ content := entries, mayLack := entries = [], mayEnd := entries = [] }]

/-- The text is a document of the recorded diagnostics. -/
inductive Describes (text : String) (entries : List Entry) : Prop where
  | document {node : Node} : IsDocument entries node → node.Spells text.toList →
      Describes text entries

section Names

theorem reads_token : Reads readToken fun kind => Node.IsName kind.recordName :=
  reads_name (labels_map (by intro kind; cases kind <;> decide) (by decide))

theorem reads_modifier : Reads readModifier fun modifier => Node.IsName modifier.keyword :=
  reads_name (labels_map (by intro modifier; cases modifier <;> decide) (by decide))

theorem reads_access : Reads readAccess fun modifier => Node.IsName modifier.keyword :=
  reads_name (labels_map (by intro modifier; cases modifier <;> decide) (by decide))

theorem reads_stage : Reads readStage fun stage => Node.IsName stage.recordName :=
  reads_name (labels_map (by intro stage; cases stage <;> decide) (by decide))

end Names

section Tokens

theorem names_kind : tokenGrammar.Names "kind" TokenField.kind := by
  intro content
  cases content <;> simp [tokenGrammar, TokenField.name]

theorem names_operator : tokenGrammar.Names "operator" TokenField.operator := by
  intro content
  cases content <;> simp [tokenGrammar, TokenField.name]

theorem names_stringValue : tokenGrammar.Names "stringValue" TokenField.stringValue := by
  intro content
  cases content <;> simp [tokenGrammar, TokenField.name]

theorem follows_tokenShape : tokenShape.Follows tokenGrammar where
  distinct := by decide
  reads := by
    simp only [tokenShape, List.forall_mem_cons]
    refine ⟨names_kind.reads reads_token, names_operator.reads (reads_string.optional ?_),
      names_stringValue.reads reads_string, List.forall_mem_nil _⟩
    rintro text ⟨⟩
  ends := by
    intro field listed content isEnd
    simp only [tokenShape, List.mem_cons, List.not_mem_nil, or_false] at listed
    rcases listed with rfl | rfl | rfl <;> cases isEnd
    rfl

theorem fits_tokenShape (entry : TokenEntry) :
    List.Forall₂ (Field.Fits tokenGrammar) tokenShape.fields entry.fieldRules := by
  obtain ⟨kind, operator, stringValue⟩ := entry
  refine .cons ⟨rfl, by simp⟩ (.cons ⟨rfl, by simp⟩ (.cons ⟨rfl, ?_, ?_⟩ .nil))
  · rintro ⟨⟩
    rfl
  · rintro rfl
    rfl

theorem TokenEntry.ofFields_eq_ok_iff {contents : List TokenField} {entry : TokenEntry}
    (distinct : (contents.map tokenGrammar.name).Nodup) :
    TokenEntry.ofFields contents = .ok entry ↔ Tells tokenGrammar entry.fieldRules contents := by
  obtain ⟨kind, operator, stringValue⟩ := entry
  simp only [TokenEntry.ofFields, Result.bind_eq_ok_iff, require_eq_ok_iff, Result.pure_eq_ok,
    Except.ok.injEq, TokenEntry.mk.injEq, Tells, TokenEntry.fieldRules, List.forall_mem_cons]
  constructor
  · rintro ⟨_, isKind, rfl, isOperator, isString⟩
    refine ⟨(names_kind.findSome?_iff_tells ?_ distinct).mp isKind,
      (names_operator.join_iff_tells ?_ distinct).mp isOperator,
      (names_stringValue.getD_iff_tells ?_ distinct).mp isString, List.forall_mem_nil _⟩
    all_goals
      intro content value
      cases content <;> simp
  · rintro ⟨kindTold, operatorTold, stringTold, -⟩
    refine ⟨kind, (names_kind.findSome?_iff_tells ?_ distinct).mpr kindTold, rfl,
      (names_operator.join_iff_tells ?_ distinct).mpr operatorTold,
      (names_stringValue.getD_iff_tells ?_ distinct).mpr stringTold⟩
    all_goals
      intro content value
      cases content <;> simp

theorem reads_tokenEntry : Reads readTokenEntry IsTokenEntry :=
  follows_tokenShape.record fits_tokenShape fun _ _ => TokenEntry.ofFields_eq_ok_iff

end Tokens

section Arguments

theorem labels_argumentTags : Labels argumentTags ArgumentTag.label := by
  have listed : argumentTags = [.text, .token, .tokenData, .modifier, .access].map fun tag =>
      (ArgumentTag.label tag, tag) := rfl
  rw [listed]
  exact labels_map (by intro tag; cases tag <;> decide) (by decide)

theorem reads_argument : Reads readArgument IsArgument := by
  apply Reads.tagged labels_argumentTags
  intro tag
  cases tag with
  | text =>
    apply reads_string.make
    rintro ⟨⟩ node <;> simp [ArgumentEntry.tag, ArgumentEntry.Writes]
  | token =>
    apply reads_token.make
    rintro ⟨⟩ node <;> simp [ArgumentEntry.tag, ArgumentEntry.Writes]
  | tokenData =>
    apply reads_tokenEntry.make
    rintro ⟨⟩ node <;> simp [ArgumentEntry.tag, ArgumentEntry.Writes]
  | modifier =>
    apply reads_modifier.make
    rintro ⟨⟩ node <;> simp [ArgumentEntry.tag, ArgumentEntry.Writes]
  | access =>
    apply reads_access.make
    rintro ⟨⟩ node <;> simp [ArgumentEntry.tag, ArgumentEntry.Writes]

theorem reads_arguments : Reads readArguments IsArguments := by
  apply reads_argument.map.make
  intro arguments node
  constructor
  · rintro ⟨isMap, keeps⟩
    exact ⟨_, (SortedMap.ofList_eq_iff.mpr keeps).symm, isMap⟩
  · rintro ⟨named, rfl, isMap⟩
    exact .map isMap (SortedMap.get?_ofList named)

end Arguments

section Diagnostics

theorem names_id : entryGrammar.Names "id" EntryField.id := by
  intro content
  cases content <;> simp [entryGrammar, EntryField.name]

theorem names_filePath : entryGrammar.Names "filePath" EntryField.filePath := by
  intro content
  cases content <;> simp [entryGrammar, EntryField.name]

theorem names_line : entryGrammar.Names "line" EntryField.line := by
  intro content
  cases content <;> simp [entryGrammar, EntryField.name]

theorem names_column : entryGrammar.Names "column" EntryField.column := by
  intro content
  cases content <;> simp [entryGrammar, EntryField.name]

theorem names_warning : entryGrammar.Names "warning" EntryField.warning := by
  intro content
  cases content <;> simp [entryGrammar, EntryField.name]

theorem names_stage : entryGrammar.Names "kind" EntryField.stage := by
  intro content
  cases content <;> simp [entryGrammar, EntryField.name]

theorem names_arguments : entryGrammar.Names "arguments" EntryField.arguments := by
  intro content
  cases content <;> simp [entryGrammar, EntryField.name]

theorem follows_entryShape : entryShape.Follows entryGrammar where
  distinct := by decide
  reads := by
    simp only [entryShape, List.forall_mem_cons]
    refine ⟨names_id.reads reads_uint32, names_filePath.reads reads_string,
      names_line.reads reads_uint32, names_column.reads reads_uint32,
      names_warning.reads reads_boolean, names_stage.reads (reads_stage.optional ?_),
      names_arguments.reads reads_arguments, List.forall_mem_nil _⟩
    rintro stage (⟨⟨⟩⟩ | ⟨⟨⟩⟩)
  ends := by
    intro field listed content isEnd
    simp only [entryShape, List.mem_cons, List.not_mem_nil, or_false] at listed
    rcases listed with rfl | rfl | rfl | rfl | rfl | rfl | rfl <;> cases isEnd
    · rfl
    · rfl

theorem fits_entryShape (entry : Entry) :
    List.Forall₂ (Field.Fits entryGrammar) entryShape.fields entry.fieldRules := by
  obtain ⟨id, filePath, line, column, warning, stage, arguments⟩ := entry
  refine .cons ⟨rfl, by simp⟩ (.cons ⟨rfl, by simp⟩ (.cons ⟨rfl, by simp⟩ (.cons ⟨rfl, by simp⟩
    (.cons ⟨rfl, ?_, ?_⟩ (.cons ⟨rfl, by simp⟩ (.cons ⟨rfl, ?_, ?_⟩ .nil))))))
  · rintro ⟨⟩
    rfl
  · rintro rfl
    rfl
  · rintro ⟨⟩
    rfl
  · rintro rfl
    rfl

theorem Entry.ofFields_eq_ok_iff {contents : List EntryField} {entry : Entry}
    (distinct : (contents.map entryGrammar.name).Nodup) :
    Entry.ofFields contents = .ok entry ↔ Tells entryGrammar entry.fieldRules contents := by
  obtain ⟨id, filePath, line, column, warning, stage, arguments⟩ := entry
  simp only [Entry.ofFields, Result.bind_eq_ok_iff, require_eq_ok_iff, Result.pure_eq_ok,
    Except.ok.injEq, Entry.mk.injEq, Tells, Entry.fieldRules, List.forall_mem_cons]
  constructor
  · rintro ⟨_, isId, _, isPath, _, isLine, _, isColumn, rfl, rfl, rfl, rfl, isWarning, isStage,
      areArguments⟩
    refine ⟨(names_id.findSome?_iff_tells ?_ distinct).mp isId,
      (names_filePath.findSome?_iff_tells ?_ distinct).mp isPath,
      (names_line.findSome?_iff_tells ?_ distinct).mp isLine,
      (names_column.findSome?_iff_tells ?_ distinct).mp isColumn,
      (names_warning.getD_iff_tells ?_ distinct).mp isWarning,
      (names_stage.join_iff_tells ?_ distinct).mp isStage,
      (names_arguments.getD_iff_tells ?_ distinct).mp areArguments, List.forall_mem_nil _⟩
    all_goals
      intro content value
      cases content <;> simp
  · rintro ⟨idTold, pathTold, lineTold, columnTold, warningTold, stageTold, argumentsTold, -⟩
    refine ⟨id, (names_id.findSome?_iff_tells ?_ distinct).mpr idTold,
      filePath, (names_filePath.findSome?_iff_tells ?_ distinct).mpr pathTold,
      line, (names_line.findSome?_iff_tells ?_ distinct).mpr lineTold,
      column, (names_column.findSome?_iff_tells ?_ distinct).mpr columnTold, rfl, rfl, rfl, rfl,
      (names_warning.getD_iff_tells ?_ distinct).mpr warningTold,
      (names_stage.join_iff_tells ?_ distinct).mpr stageTold,
      (names_arguments.getD_iff_tells ?_ distinct).mpr argumentsTold⟩
    all_goals
      intro content value
      cases content <;> simp

theorem reads_entry : Reads readEntry IsEntry :=
  follows_entryShape.record fits_entryShape fun _ _ => Entry.ofFields_eq_ok_iff

end Diagnostics

section Documents

theorem follows_documentShape : documentShape.Follows documentGrammar where
  distinct := by decide
  reads := by
    simp only [documentShape, List.forall_mem_cons]
    exact ⟨reads_entry.list.of_iff fun _ _ => (and_iff_right rfl).symm, List.forall_mem_nil _⟩
  ends := by
    intro field listed content _
    simp only [documentShape, List.mem_cons, List.not_mem_nil, or_false] at listed
    rw [listed]
    rfl

/-- The contents of the one field, if there are any, are the recorded diagnostics. -/
theorem flatten_eq_iff {contents : List (List Entry)} {entries : List Entry}
    (distinct : (contents.map documentGrammar.name).Nodup) :
    contents.flatten = entries ↔ Tells documentGrammar
      [{ content := entries, mayLack := entries = [], mayEnd := entries = [] }] contents := by
  match contents, distinct with
  | [], _ => simp [Tells, TellsField, eq_comm]
  | [only], _ => simp [Tells, TellsField, documentGrammar, eq_comm]
  | first :: second :: rest, distinct =>
    exact absurd List.mem_cons_self (List.nodup_cons.mp distinct).1

theorem reads_document : Reads readDocument IsDocument := by
  apply follows_documentShape.record
  · intro entries
    refine .cons ⟨rfl, ?_, ?_⟩ .nil
    · rintro ⟨⟩
      rfl
    · rintro rfl
      rfl
  · intro contents entries distinct
    rw [← flatten_eq_iff distinct, Result.pure_eq_ok, Except.ok.injEq]

/-- A text is read as the value that it is written as. -/
theorem ofText_of_spells {text : String} {node : Node} (spelled : node.Spells text.toList) :
    ofText text = readDocument node := by
  rw [ofText, readText, Document.ofText_of_spells spelled]
  cases readDocument node <;> rfl

/-- A text is read as some records exactly if it is a document of them. -/
theorem ofText_eq_ok_iff {text : String} {entries : List Entry} :
    ofText text = .ok entries ↔ Describes text entries := by
  constructor
  · intro isRead
    rw [ofText, readText] at isRead
    obtain ⟨value, isValue, ended⟩ := Result.bind_eq_ok_iff.mp isRead
    split at ended
    · simp [Read.fault] at ended
    · rename_i complete
      cases ended
      have tree : Document.ofText text = ⟨(Document.ofText text).root, false⟩ := by
        rw [← Bool.eq_false_iff.mpr complete]
      have spelled := Node.spells_iff.mpr ⟨tree, reads_document.skips isValue⟩
      exact .document ((reads_document.iff spelled.wellFormed).mp isValue) spelled
  · rintro ⟨isDocument, spelled⟩
    exact (ofText_of_spells spelled).trans ((reads_document.iff spelled.wellFormed).mpr isDocument)

end Documents

end DiagnosticReplay.Record
