import DiagnosticReplay.Formatter
import DiagnosticReplay.Proofs.Message.Template

/-! # Filling templates in

The text of a filled template is read off its cut: each piece gives a text of its own, and these
stand one after the other. What was filled in for a placeholder is a part of the result as it is, so
dollar signs in the value of an argument mean nothing.
-/

namespace DiagnosticReplay.Formatter

open Template

/-- The text that a piece becomes. -/
def pieceText (formatter : Formatter) (arguments : Arguments) : Piece → String
  | .literal character => String.singleton character
  | .dollarPair => "$"
  | .placeholder name =>
    match arguments.get? (Text.foldCase (String.ofList name)) with
    | some argument => (formatter.renderArgument argument).text
    | none => "undefined"

theorem text_renderPiece (formatter : Formatter) (arguments : Arguments) (piece : Piece) :
    (formatter.renderPiece arguments piece).text = formatter.pieceText arguments piece := by
  cases piece with
  | literal character => rfl
  | dollarPair => rfl
  | placeholder name =>
    simp only [renderPiece, pieceText]
    cases arguments.get? (Text.foldCase (String.ofList name)) with
    | none => rfl
    | some argument => rfl

theorem text_resolve (formatter : Formatter) (template : String) (arguments : Arguments) :
    (formatter.resolve template arguments).text =
      String.join ((cut template.toList).map (formatter.pieceText arguments)) := by
  simp only [resolve, Rendering.join, List.map_map]
  congr 1
  exact List.map_congr_left fun piece _ => text_renderPiece formatter arguments piece

/-- A template has exactly one cut, and filling it in replaces each piece of that cut by its text,
in order. A text argument stands in the result as it is, whatever its characters mean in a template.
-/
theorem resolve_unique_cut (formatter : Formatter) (template : String) (arguments : Arguments) :
    ∃ pieces, (∀ other, Cuts template.toList other ↔ other = pieces) ∧
      (formatter.resolve template arguments).text =
        String.join (pieces.map (formatter.pieceText arguments)) ∧
      ∀ (before after : List Piece) (name : List Char) (value : String),
        pieces = before ++ .placeholder name :: after →
        arguments.get? (Text.foldCase (String.ofList name)) = some (.text value) →
          (formatter.resolve template arguments).text =
            String.join (before.map (formatter.pieceText arguments)) ++ value ++
              String.join (after.map (formatter.pieceText arguments)) := by
  refine ⟨cut template.toList, fun other => cuts_iff, text_resolve .., ?_⟩
  intro before after name value split stored
  have filled : formatter.pieceText arguments (.placeholder name) = value := by
    rw [pieceText, stored]
    rfl
  rw [text_resolve, split, List.map_append, List.map_cons, filled, String.join_append,
    String.join_cons, String.append_assoc]

end DiagnosticReplay.Formatter
