import DiagnosticReplay.Message.Catalog
import DiagnosticReplay.Proofs.Message.Template
import DiagnosticReplay.Proofs.SortedMap
import Mathlib.Data.List.Chain

/-! # The standard templates

The templates of the standard catalog are those of the messages, so what is checked of each message
holds of whatever the catalog gives. Two things are: a template is one line, and a name follows each
of its dollar signs, so that it writes no dollar sign of its own.
-/

namespace DiagnosticReplay

namespace Template

/-- A name follows every dollar sign of the text. -/
def Named (text : List Char) : Prop :=
  text.IsChain (fun character next => character = '$' → NameCharacter next) ∧
    text.getLast? ≠ some '$'

/-- The text is one line, and a name follows each of its dollar signs. -/
structure WellWritten (text : List Char) : Prop where
  oneLine : '\n' ∉ text
  named : Named text

instance : DecidablePred Named :=
  fun text => inferInstanceAs (Decidable (_ ∧ text.getLast? ≠ some '$'))

instance : DecidablePred WellWritten := fun text =>
  decidable_of_iff ('\n' ∉ text ∧ Named text)
    ⟨fun ⟨oneLine, named⟩ => ⟨oneLine, named⟩, fun written => ⟨written.oneLine, written.named⟩⟩

variable {before after text : List Char} {pieces : List Piece} {piece : Piece}

theorem Named.of_append (named : Named (before ++ after)) : Named after := by
  obtain ⟨chain, last⟩ := named
  refine ⟨chain.right_of_append, fun dollar => last ?_⟩
  rw [List.getLast?_append, dollar, Option.some_or]

theorem Named.nameCharacter_head (named : Named ('$' :: after)) :
    ∃ next ∈ after.head?, NameCharacter next := by
  obtain ⟨chain, last⟩ := named
  cases after with
  | nil => exact absurd rfl last
  | cons next rest => exact ⟨next, rfl, (List.isChain_cons_cons.mp chain).1 rfl⟩

/-- Neither a pair nor a lone dollar sign fits where a name follows. -/
theorem Piece.ne_dollar_of_named {rest : List Char} (fits : piece.FitsBefore rest)
    (named : Named (piece.source ++ rest)) : piece ≠ .dollarPair ∧ piece ≠ .literal '$' := by
  constructor
  · rintro rfl
    obtain ⟨next, first, nameCharacter⟩ := named.nameCharacter_head
    obtain rfl : '$' = next := Option.some.inj first
    exact not_nameCharacter_dollar nameCharacter
  · rintro rfl
    obtain ⟨next, first, nameCharacter⟩ := named.nameCharacter_head
    exact (fits rfl next first).2 nameCharacter

/-- A template whose dollar signs are all followed by names writes no dollar sign of its own. -/
theorem Cuts.ne_dollar_of_named (cuts : Cuts text pieces) (named : Named text) :
    ∀ piece ∈ pieces, piece ≠ .dollarPair ∧ piece ≠ .literal '$' := by
  induction cuts with
  | nil => exact List.forall_mem_nil _
  | cons fits _ ih =>
    exact List.forall_mem_cons.mpr ⟨Piece.ne_dollar_of_named fits named, ih named.of_append⟩

/-- A text is well written if its spelling is. -/
theorem wellWritten_of_spelled {template : String} {characters : List Char}
    (spelled : template = String.ofList characters) (written : WellWritten characters) :
    WellWritten template.toList := by
  rwa [spelled, String.toList_ofList]

end Template

namespace Catalog

open Template

/-- The templates are checked one by one, each by its spelling: taking the characters of a text out
of it again is what would take long. -/
theorem wellWritten_of_mem_all : ∀ message ∈ Message.all, WellWritten message.template.toList := by
  rw [Message.all, List.forall_mem_append, Message.ofParser, Message.ofVerifier]
  constructor
  all_goals
    repeat refine List.forall_mem_cons.mpr ⟨wellWritten_of_spelled rfl (by decide +kernel), ?_⟩
    exact List.forall_mem_nil _

theorem exists_message_of_template? {id : UInt32} {template : String}
    (found : standard.template? id = some template) :
    ∃ message ∈ Message.all, message.template = template := by
  rw [template?, standard, ofEntries, SortedMap.get?_ofList, List.lookup_eq_some_iff] at found
  obtain ⟨before, after, entries, -⟩ := found
  have listed : (id, template) ∈ Message.all.map fun message => (message.id, message.template) :=
    List.mem_reverse.mp (entries ▸ List.mem_append_cons_self)
  obtain ⟨message, member, same⟩ := List.mem_map.mp listed
  exact ⟨message, member, congrArg Prod.snd same⟩

/-- Whatever template the standard catalog gives is well written. -/
theorem wellWritten_of_template? {id : UInt32} {template : String}
    (found : standard.template? id = some template) : WellWritten template.toList := by
  obtain ⟨message, member, rfl⟩ := exists_message_of_template? found
  exact wellWritten_of_mem_all message member

end Catalog

end DiagnosticReplay
