import DiagnosticReplay.Proofs.Formatter.Resolve
import Mathlib.Data.List.Chain

/-! # Writing templates

A writer of templates thinks in texts that stand for themselves and in names of arguments. A text is
put into a template with its dollar signs doubled, and a name behind a dollar sign. What was put
together in this way is cut into just these parts again, however many dollar signs stand side by side,
as long as no text goes on with the name before it. So the filled template shows the texts as they
were meant, and an escaped text alone comes back without a report.
-/

namespace DiagnosticReplay

namespace Template

/-- A part of a message as its writer means it. -/
inductive Part where
  /-- A text that stands for itself, its dollar signs too. -/
  | literal (text : List Char)
  /-- The argument of a name. -/
  | placeholder (name : List Char)
deriving DecidableEq, Repr

/-- A text with every dollar sign doubled. -/
def escape (text : List Char) : List Char :=
  text.flatMap fun character => if character = '$' then ['$', '$'] else [character]

namespace Part

/-- A part as a template writes it. -/
def source : Part → List Char
  | literal text => escape text
  | placeholder name => '$' :: name

/-- A text is not empty, and a name is one that a template can ask for. -/
def IsWhole : Part → Prop
  | literal text => text ≠ []
  | placeholder name => name ≠ [] ∧ ∀ character ∈ name, NameCharacter character

/-- A part ends where the next one starts: a text does not go on with the name before it. -/
def EndsBefore : Part → Part → Prop
  | placeholder _, literal text => ∀ next ∈ text.head?, ¬NameCharacter next
  | _, _ => True

instance : DecidablePred IsWhole
  | literal text => inferInstanceAs (Decidable (text ≠ []))
  | placeholder name => decidable_of_iff (name ≠ [] ∧ name.all isNameChar = true) <| by
    simp only [IsWhole, List.all_eq_true, isNameChar_iff]

instance : DecidableRel EndsBefore
  | placeholder _, literal text => decidable_of_iff (text.head?.any isNameChar = false) <| by
    simp only [EndsBefore, Option.any_eq_false, Option.mem_def, ← isNameChar_iff, Bool.not_eq_true]
  | literal _, _ => isTrue trivial
  | placeholder _, placeholder _ => isTrue trivial

end Part

/-- Parts that stay apart when they are written one after the other. -/
structure Composed (parts : List Part) : Prop where
  whole : ∀ part ∈ parts, part.IsWhole
  apart : parts.IsChain Part.EndsBefore

/-- The piece that an escaped character is. -/
def escapedPiece (character : Char) : Piece :=
  if character = '$' then .dollarPair else .literal character

/-- The pieces of a part. -/
def Part.pieces : Part → List Piece
  | literal text => text.map escapedPiece
  | placeholder name => [.placeholder name]

variable {text rest : List Char} {pieces : List Piece} {parts : List Part}

/-- An escaped text is cut character by character, whatever follows it. -/
theorem cuts_escape_append (text : List Char) (cuts : Cuts rest pieces) :
    Cuts (escape text ++ rest) (text.map escapedPiece ++ pieces) := by
  induction text with
  | nil => exact cuts
  | cons character text ih =>
    have written : escape (character :: text) ++ rest =
        (escapedPiece character).source ++ (escape text ++ rest) := by
      by_cases dollar : character = '$' <;> simp [escape, escapedPiece, dollar, Piece.source]
    rw [written, List.map_cons, List.cons_append]
    refine .cons ?_ ih
    by_cases dollar : character = '$'
    · rw [escapedPiece, if_pos dollar]
      trivial
    · rw [escapedPiece, if_neg dollar]
      exact fun same => absurd same dollar

/-- What follows a name in a composed template does not go on with it. -/
theorem Composed.endsName {name : List Char} (composed : Composed (.placeholder name :: parts)) :
    ∀ next ∈ (parts.flatMap Part.source).head?, ¬NameCharacter next := by
  intro next first
  match parts, composed, first with
  | .placeholder following :: _, _, first =>
    obtain rfl : '$' = next := Option.some.inj first
    exact not_nameCharacter_dollar
  | .literal [] :: _, composed, _ =>
    exact absurd rfl (composed.whole (.literal []) (by simp))
  | .literal (character :: text) :: _, composed, first =>
    by_cases dollar : character = '$'
    · subst dollar
      obtain rfl : '$' = next := Option.some.inj first
      exact not_nameCharacter_dollar
    · have same : character = next := by simpa [Part.source, escape, dollar] using first
      have apart := (List.isChain_cons_cons.mp composed.apart).1
      exact apart next (same ▸ rfl)

/-- A composed template is cut into the pieces of its parts. -/
theorem Composed.cuts (composed : Composed parts) :
    Cuts (parts.flatMap Part.source) (parts.flatMap Part.pieces) := by
  induction parts with
  | nil => exact .nil
  | cons part rest ih =>
    obtain ⟨first, whole⟩ := List.forall_mem_cons.mp composed.whole
    have others := ih ⟨whole, composed.apart.tail⟩
    cases part with
    | literal text => exact cuts_escape_append text others
    | placeholder name =>
      exact @Cuts.cons (.placeholder name) _ _ ⟨first.1, first.2, composed.endsName⟩ others

end Template

namespace Formatter

open Template

variable (formatter : Formatter) (arguments : Arguments)

/-- What a part becomes: a text stays as it is, and a name is the argument of the name. -/
def partText : Part → String
  | .literal text => String.ofList text
  | .placeholder name => formatter.pieceText arguments (.placeholder name)

theorem renderPiece_escapedPiece (character : Char) :
    formatter.renderPiece arguments (escapedPiece character) =
      { text := String.singleton character } := by
  by_cases dollar : character = '$'
  · rw [escapedPiece, if_pos dollar, dollar]
    rfl
  · rw [escapedPiece, if_neg dollar]
    rfl

/-- The pieces of an escaped text are the text, and nothing is reported. -/
theorem join_renderPiece_escaped (text : List Char) :
    Rendering.join ((text.map escapedPiece).map (formatter.renderPiece arguments)) =
      { text := String.ofList text } := by
  induction text with
  | nil => rfl
  | cons character text ih =>
    obtain ⟨texts, events⟩ := Rendering.mk.inj ih
    rw [List.map_cons, List.map_cons, renderPiece_escapedPiece, Rendering.join, List.map_cons,
      String.join_cons, texts, List.flatMap_cons, events]
    simp

theorem text_pieces (part : Part) :
    String.join (part.pieces.map (formatter.pieceText arguments)) =
      formatter.partText arguments part := by
  cases part with
  | literal text =>
    have texts := congrArg Rendering.text (formatter.join_renderPiece_escaped arguments text)
    simpa [Rendering.join, Function.comp_def, text_renderPiece, Part.pieces, partText] using texts
  | placeholder name => simp [Part.pieces, partText]

theorem text_parts (parts : List Part) :
    String.join ((parts.flatMap Part.pieces).map (formatter.pieceText arguments)) =
      String.join (parts.map (formatter.partText arguments)) := by
  induction parts with
  | nil => rfl
  | cons part rest ih =>
    rw [List.flatMap_cons, List.map_append, String.join_append, ih, text_pieces, List.map_cons,
      String.join_cons]

/-- A composed template is filled in part by part, and a text whose dollar signs are doubled is shown
as it was, without a report. -/
theorem resolve_composed :
    (∀ parts, Composed parts →
      (formatter.resolve (String.ofList (parts.flatMap Part.source)) arguments).text =
        String.join (parts.map (formatter.partText arguments))) ∧
      ∀ text : String, formatter.resolve (String.ofList (escape text.toList)) arguments =
        { text := text, events := [] } := by
  constructor
  · intro parts composed
    rw [text_resolve, String.toList_ofList, ← composed.cuts.eq_cut, text_parts]
  · intro text
    have cuts := cuts_escape_append text.toList Cuts.nil
    rw [List.append_nil, List.append_nil] at cuts
    rw [resolve, String.toList_ofList, ← cuts.eq_cut, join_renderPiece_escaped,
      String.ofList_toList]

/-- Dollar signs at both ends of a text between two names, and a name that a second one follows. -/
def crowdedParts : List Part :=
  [.placeholder "a".toList, .literal "$$b$".toList, .placeholder "N-\u017f".toList,
    .placeholder "a".toList, .literal " \u212a$".toList]

theorem resolve_composed_crowdedParts :
    Composed crowdedParts ∧
      String.ofList (crowdedParts.flatMap Part.source) = "$a$$$$b$$$N-\u017f$a \u212a$$" ∧
      (standard.resolve "$a$$$$b$$$N-\u017f$a \u212a$$" (.ofList [("a", .text "$x")])).text =
        "$x$$b$undefined$x \u212a$" := by
  have composed : Composed crowdedParts := ⟨by decide +kernel, by decide +kernel⟩
  have written : String.ofList (crowdedParts.flatMap Part.source) =
      "$a$$$$b$$$N-\u017f$a \u212a$$" := by decide +kernel
  have filled := (resolve_composed standard (.ofList [("a", .text "$x")])).1 crowdedParts composed
  rw [written] at filled
  exact ⟨composed, written, filled.trans (by decide +kernel)⟩

end Formatter

end DiagnosticReplay
