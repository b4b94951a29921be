import DiagnosticReplay.Proofs.Json.Rewriting
import DiagnosticReplay.Proofs.Record.Grammar

/-! # Rewriting recorded documents

Tokens stand in recorded diagnostics, these stand in a document, and all three are records. A way to
rewrite records therefore gives a way to rewrite documents, at all three levels at once. If the way
keeps what is written for the fields of a record, then the document describes the same diagnostics.
-/

namespace DiagnosticReplay.Record

open Json

/-- A way to rewrite records, given the names of their fields and how the value under each name may
be rewritten. -/
abbrev RecordRewriting := List String → (String → Node → Node → Prop) → Node → Node → Prop

/-- A rewritten record has the fields that it had, if what is written for each of them is kept. -/
def RecordRewriting.KeepsFields (rewriting : RecordRewriting) : Prop :=
  ∀ {φ : Type} {grammar : FieldGrammar φ} {rules : List (FieldRule φ)} {names : List String}
    {rewrites : String → Node → Node → Prop} {node other : Node},
    rewriting names rewrites node other →
    (rules.map fun rule => grammar.name rule.content) = names → names.Nodup →
    Keeps grammar rules rewrites → node.IsShaped grammar rules → other.IsShaped grammar rules

namespace RecordRewriting

variable (rewriting : RecordRewriting)

/-- A token is rewritten, and the values in it stay. -/
def Token : Node → Node → Prop :=
  rewriting tokenShape.names fun _ => Eq

/-- An argument is rewritten, which changes nothing but a token. -/
def Argument : Node → Node → Prop :=
  Node.RewritesTagged ArgumentTag.tokenData.label rewriting.Token

/-- A recorded diagnostic is rewritten, and its arguments are. -/
def Entry : Node → Node → Prop :=
  rewriting entryShape.names (OnlyUnder "arguments" (Node.RewritesMap rewriting.Argument))

/-- A document is rewritten, and the recorded diagnostics in it are. -/
def Document : Node → Node → Prop :=
  rewriting documentShape.names (OnlyUnder "diagnostics" (Node.RewritesList rewriting.Entry))

variable {rewriting}

namespace KeepsFields

variable (keeps : rewriting.KeepsFields)

include keeps

theorem token : Preserves rewriting.Token IsTokenEntry := by
  intro entry node other rewritten is
  refine keeps rewritten (names_eq_of_fits (fits_tokenShape entry)) follows_tokenShape.distinct ?_ is
  rintro rule - value other rfl written
  exact written

theorem argument : Preserves rewriting.Argument IsArgument := by
  intro entry node other rewritten is
  refine Node.RewritesTagged.isTagged rewritten ?_ is
  intro isToken content other isRewritten written
  cases entry with
  | tokenData token => exact keeps.token token content other isRewritten written
  | _ => exact absurd isToken (by simp [ArgumentEntry.tag, ArgumentTag.label])

theorem arguments : Preserves (Node.RewritesMap rewriting.Argument) IsArguments := by
  rintro arguments node other rewritten ⟨isMap, keepsLast⟩
  obtain ⟨renamed, isMapToo, order⟩ := rewritten.isMapOf keeps.argument isMap
  refine .map isMapToo ?_
  rw [← SortedMap.ofList_eq_iff] at keepsLast ⊢
  rcases order with rfl | ⟨distinct, perm⟩
  · exact keepsLast
  · rw [SortedMap.ofList_eq_of_perm distinct perm, keepsLast]

theorem entry : Preserves rewriting.Entry IsEntry := by
  intro entry node other rewritten is
  refine keeps rewritten (names_eq_of_fits (fits_entryShape entry)) follows_entryShape.distinct ?_ is
  intro rule listed value other isRewritten written
  generalize named : entryGrammar.name rule.content = name at isRewritten
  cases isRewritten with
  | same => exact written
  | rewritten isRewritten =>
    obtain ⟨arguments, isArguments⟩ := (names_arguments rule.content).mp named
    rw [isArguments] at written ⊢
    exact keeps.arguments arguments value other isRewritten written

theorem document : Preserves rewriting.Document IsDocument := by
  intro entries node other rewritten is
  refine keeps rewritten rfl follows_documentShape.distinct ?_ is
  intro rule listed value other isRewritten written
  generalize documentGrammar.name rule.content = name at isRewritten
  cases isRewritten with
  | same => exact written
  | rewritten isRewritten => exact isRewritten.isListOf keeps.entry written

end KeepsFields

end RecordRewriting

/-- A text whose document is rewritten describes the records that the document describes. -/
theorem Describes.rewritten {text written : String} {entries : List Entry} {node other : Node}
    (describes : Describes text entries) (spelled : node.Spells text.toList)
    (keeps : IsDocument entries node → IsDocument entries other)
    (spelledAnew : other.Spells written.toList) : Describes written entries := by
  obtain ⟨isDocument, spelledToo⟩ := describes
  have same := (Document.ofText_of_spells spelled).symm.trans (Document.ofText_of_spells spelledToo)
  obtain rfl := (Document.mk.inj same).1
  exact .document (keeps isDocument) spelledAnew

end DiagnosticReplay.Record
