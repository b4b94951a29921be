import DiagnosticReplay.Diagnostic
import DiagnosticReplay.Proofs.Json.Writing

/-! # Recording reports

A report is what a tool has to say about one diagnostic before it writes it down. Recording leaves
the writer free in everything that carries no content: the spelling of texts, the blanks, the order
of members, and whether a member that holds its default is written at all. Every list of reports can
be recorded.
-/

namespace DiagnosticReplay.Record

open Json

/-- A diagnostic to be recorded. Its arguments have names that differ in more than ASCII case. -/
structure Report where
  id : UInt32
  path : String
  line : UInt32
  column : UInt32
  warning : Bool
  /-- The stage, which may be left open. -/
  stage : Option Stage
  arguments : List (String × Argument)
  distinct : (arguments.map fun argument => Text.foldCase argument.1).Nodup

/-- The members of a recorded token. -/
def tokenRules (data : TokenData) : List MemberRule := [
  { name := "kind", writes := Node.IsText data.kind.recordName, needed := True },
  { name := "operator", writes := Node.IsTextOrNull (data.operator.map Operator.text),
    needed := data.operator ≠ none },
  { name := "stringValue", writes := Node.IsText data.stringValue,
    needed := data.stringValue ≠ "" }]

/-- The name that tags an argument of its kind. -/
def argumentTag : Argument → String
  | .tokenData _ => "tokenData"
  | .token _ => "token"
  | .modifier _ => "modifier"
  | .access _ => "access"
  | .text _ => "text"

/-- The content of an argument as it is written. -/
def WritesContent : Argument → Node → Prop
  | .tokenData data => Node.IsRecord (tokenRules data)
  | .token kind => Node.IsText kind.recordName
  | .modifier modifier => Node.IsText modifier.keyword
  | .access modifier => Node.IsText modifier.keyword
  | .text value => Node.IsText value

/-- An argument as it is written: its content under its tag. -/
def WritesArgument (argument : Argument) : Node → Prop :=
  Node.IsTagged (argumentTag argument) (WritesContent argument)

/-- A member of the arguments as it is written. -/
structure WritesNamed (argument : String × Argument) (pair : String × Node) : Prop where
  name : pair.1 = argument.1
  content : WritesArgument argument.2 pair.2

/-- Arguments as they are written, each under its own name. -/
inductive WritesArguments (arguments : List (String × Argument)) : Node → Prop where
  | map {members : Members} {pairs : List (String × Node)} : members.Are pairs →
      List.Forall₂ WritesNamed arguments pairs → WritesArguments arguments (.map members)

/-- The members of a recorded diagnostic. -/
def reportRules (report : Report) : List MemberRule := [
  { name := "id", writes := Node.IsNumber report.id, needed := True },
  { name := "filePath", writes := Node.IsText report.path, needed := True },
  { name := "line", writes := Node.IsNumber report.line, needed := True },
  { name := "column", writes := Node.IsNumber report.column, needed := True },
  { name := "warning", writes := (· = .boolean report.warning), needed := report.warning = true },
  { name := "kind", writes := Node.IsTextOrNull (report.stage.map Stage.recordName),
    needed := report.stage ≠ none },
  { name := "arguments", writes := WritesArguments report.arguments,
    needed := report.arguments ≠ [] }]

/-- Reports as they are written, in their order. -/
inductive WritesReports (reports : List Report) : Node → Prop where
  | list {items : Items} {nodes : List Node} : items.Are nodes →
      List.Forall₂ (fun report => Node.IsRecord (reportRules report)) reports nodes →
      WritesReports reports (.list items)

/-- The one member of a document. -/
def documentRules (reports : List Report) : List MemberRule := [
  { name := "diagnostics", writes := WritesReports reports, needed := reports ≠ [] }]

/-- The text is a document that records the reports. -/
inductive Recording (reports : List Report) (text : String) : Prop where
  | spelled {node : Node} : node.IsRecord (documentRules reports) → node.Spells text.toList →
      Recording reports text

section Existence

theorem expressible_token (data : TokenData) : Expressible (Node.IsRecord (tokenRules data)) := by
  apply expressible_isRecord (by simp [tokenRules])
  simp only [tokenRules, List.forall_mem_cons]
  exact ⟨expressible_isText _, expressible_isTextOrNull _, expressible_isText _,
    List.forall_mem_nil _⟩

theorem expressible_argument (argument : Argument) : Expressible (WritesArgument argument) := by
  apply expressible_isTagged
  cases argument with
  | tokenData data => exact expressible_token data
  | _ => exact expressible_isText _

theorem expressible_arguments (arguments : List (String × Argument)) :
    Expressible (WritesArguments arguments) := by
  have each : ∀ argument ∈ arguments, ∃ pair : String × Node,
      WritesNamed argument pair ∧ pair.2.WellFormed := by
    intro argument _
    obtain ⟨node, written, wellFormed⟩ := expressible_argument argument.2
    exact ⟨(argument.1, node), ⟨rfl, written⟩, wellFormed⟩
  obtain ⟨pairs, written, wellFormed⟩ := exists_forall₂ each
  obtain ⟨members, are, sound⟩ := exists_members wellFormed
  exact ⟨.map members, .map are written, sound⟩

theorem expressible_report (report : Report) :
    Expressible (Node.IsRecord (reportRules report)) := by
  apply expressible_isRecord (by simp [reportRules])
  simp only [reportRules, List.forall_mem_cons]
  refine ⟨expressible_isNumber _, expressible_isText _, expressible_isNumber _,
    expressible_isNumber _, ?_, expressible_isTextOrNull _, expressible_arguments _,
    List.forall_mem_nil _⟩
  exact ⟨.boolean report.warning, rfl, trivial⟩

theorem expressible_document (reports : List Report) :
    Expressible (Node.IsRecord (documentRules reports)) := by
  apply expressible_isRecord (by simp [documentRules])
  simp only [documentRules, List.forall_mem_cons]
  obtain ⟨nodes, written, wellFormed⟩ := exists_forall₂ fun report (_ : report ∈ reports) =>
    expressible_report report
  obtain ⟨items, are, sound⟩ := exists_items wellFormed
  exact ⟨⟨.list items, .list are written, sound⟩, List.forall_mem_nil _⟩

/-- Every list of reports can be recorded. -/
theorem exists_recording (reports : List Report) : ∃ text, Recording reports text := by
  obtain ⟨node, isDocument, wellFormed⟩ := expressible_document reports
  obtain ⟨text, spelled⟩ := wellFormed.exists_spells
  exact ⟨String.ofList text, .spelled isDocument (by rwa [String.toList_ofList])⟩

end Existence

end DiagnosticReplay.Record
