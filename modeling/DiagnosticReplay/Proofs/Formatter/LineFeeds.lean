import DiagnosticReplay.Proofs.Formatter.Line
import DiagnosticReplay.Proofs.Formatter.Misses
import DiagnosticReplay.Proofs.Formatter.Resolve
import DiagnosticReplay.Proofs.Message.Catalog
import DiagnosticReplay.Proofs.Text.Uppercase

/-! # Line feeds in a line

The path of a diagnostic is encoded, its numbers are digits, and the standard tables hold no line
feed. A text argument and a keyword are shown as they are. So a line holds a line feed exactly if the
template of the message asks for an argument of these two kinds and the text of that argument holds
one; the other arguments may hold whatever they will.
-/

namespace DiagnosticReplay

namespace Text

/-- A character with an upper case, and its upper case, come after the line feed. -/
theorem caseRuns_above_lineFeed :
    ∀ run ∈ caseRuns, 10 < run.first ∧ 10 < run.first + run.shift := by
  decide +kernel

theorem IsUpperCase.eq_lineFeed_iff {character shown : Char}
    (isUpper : IsUpperCase character [shown]) : shown = '\n' ↔ character = '\n' := by
  have lineFeed : ('\n').toNat = 10 := rfl
  cases isUpper with
  | expanded listed => exact absurd (length_of_expansions _ listed) (Nat.lt_irrefl 1)
  | own => rfl
  | shifted _ member covers leads =>
    obtain ⟨high, shifted⟩ := caseRuns_above_lineFeed _ member
    have below := (CaseRun.covers_iff.mp covers).1
    constructor
    · rintro rfl
      omega
    · rintro rfl
      omega

theorem capital_eq_lineFeed_iff {character : Char} :
    capital character = '\n' ↔ character = '\n' := by
  rcases capital_cases character with single | ⟨-, kept⟩
  · exact (isUpperCase_iff.mpr single.symm).eq_lineFeed_iff
  · rw [kept]

/-- A capital is never a line feed, nor made of one. -/
theorem lineFeed_mem_capitalize_iff {text : String} :
    '\n' ∈ (capitalize text).toList ↔ '\n' ∈ text.toList := by
  rw [toList_capitalize]
  cases text.toList with
  | nil => rfl
  | cons first rest =>
    simp only [List.modifyHead_cons, List.mem_cons, eq_comm (a := '\n'), capital_eq_lineFeed_iff]

end Text

namespace Template

theorem mem_of_literal_mem_cut {text : List Char} {character : Char}
    (member : .literal character ∈ cut text) : character ∈ text := by
  rw [← (cuts_cut text).flatMap_source]
  exact List.mem_flatMap.mpr ⟨_, member, List.mem_singleton_self _⟩

end Template

/-- The argument is shown by a text of its own, and this text holds a line feed. -/
def Argument.ShowsLineFeed : Argument → Prop
  | .text value => '\n' ∈ value.toList
  | .tokenData data => data.kind = .keyword ∧ '\n' ∈ data.stringValue.toList
  | .token _ | .modifier _ | .access _ => False

namespace Formatter

open Template

/-- No template and no display name holds a line feed. -/
structure IsPlain (formatter : Formatter) : Prop where
  templates : ∀ id template, formatter.catalog.template? id = some template → '\n' ∉ template.toList
  names : ∀ kind name, formatter.names.name? kind = some name → '\n' ∉ name.toList

theorem isPlain_standard : standard.IsPlain where
  templates _ _ found := (Catalog.wellWritten_of_template? found).oneLine
  names := by
    intro kind name found
    have plain : ∀ text ∈ TokenNames.standard.name? kind, '\n' ∉ text.toList := by
      cases kind <;> decide
    exact plain name found

/-- A diagnostic is asked for an argument whose text holds a line feed. -/
def ShowsLineFeed (formatter : Formatter) (diagnostic : Diagnostic) : Prop :=
  ∃ name ∈ placeholders (cut (formatter.chosenTemplate diagnostic.id).toList),
    ∃ argument, diagnostic.argument? name = some argument ∧ argument.ShowsLineFeed

variable {formatter : Formatter}

theorem lineFeed_not_mem_toString (value : Nat) : '\n' ∉ (toString value).toList :=
  not_mem_toString (by decide)

theorem lineFeed_not_mem_uriOf (path : String) : '\n' ∉ (Location.uriOf path).toList := by
  intro member
  exact absurd (Location.pathCharacter_of_mem_uriOf member) (by decide)

theorem lineFeed_not_mem_heading (diagnostic : Diagnostic) :
    '\n' ∉ (heading diagnostic).toList := by
  have stage : '\n' ∉ diagnostic.stage.label.toList := by cases diagnostic.stage <;> decide
  have severity : '\n' ∉ diagnostic.severity.label.toList := by
    cases diagnostic.severity <;> decide
  simp only [heading, Location.text, Location.ofSpan, String.toList_append, List.mem_append,
    lineFeed_not_mem_uriOf, lineFeed_not_mem_toString, stage, severity, false_or]
  decide

theorem lineFeed_not_mem_renderToken (plain : formatter.IsPlain) (kind : Token) :
    '\n' ∉ (formatter.renderToken kind).text.toList := by
  rw [renderToken]
  cases named : formatter.names.name? kind with
  | none => exact show '\n' ∉ Message.undefinedText.toList from by decide
  | some name => exact plain.names kind name named

theorem lineFeed_not_mem_renderOperator (data : TokenData) :
    '\n' ∉ (renderOperator data).text.toList := by
  have plain (operator : Operator) : '\n' ∉ operator.text.toList := by cases operator <;> decide
  rw [renderOperator]
  cases data.operator with
  | none => exact show '\n' ∉ Message.undefinedText.toList from by decide
  | some operator => exact plain operator

theorem lineFeed_mem_renderTokenData_iff (plain : formatter.IsPlain) (data : TokenData) :
    '\n' ∈ (formatter.renderTokenData data).text.toList ↔
      data.kind = .keyword ∧ '\n' ∈ data.stringValue.toList := by
  have operator := lineFeed_not_mem_renderOperator data
  obtain ⟨kind, held, stringValue⟩ := data
  cases kind with
  | operator => simpa [renderTokenData] using operator
  | compoundAssignment =>
    have shown (rendering : Rendering) :
        (rendering ++ { text := "=" } : Rendering).text = rendering.text ++ "=" := rfl
    simpa [renderTokenData, shown] using operator
  | keyword => simp [renderTokenData]
  | _ => simpa [renderTokenData] using lineFeed_not_mem_renderToken plain _

/-- An argument is shown with a line feed if it is shown by a text of its own that holds one. -/
theorem lineFeed_mem_renderArgument_iff (plain : formatter.IsPlain) (argument : Argument) :
    '\n' ∈ (formatter.renderArgument argument).text.toList ↔ argument.ShowsLineFeed := by
  cases argument with
  | tokenData data => exact lineFeed_mem_renderTokenData_iff plain data
  | token kind => exact iff_of_false (lineFeed_not_mem_renderToken plain kind) id
  | modifier modifier =>
    have plain : '\n' ∉ modifier.keyword.toList := by cases modifier <;> decide
    exact iff_of_false plain id
  | access modifier =>
    have plain : '\n' ∉ modifier.keyword.toList := by cases modifier <;> decide
    exact iff_of_false plain id
  | text value => rfl

theorem lineFeed_mem_pieceText_iff (plain : formatter.IsPlain) (arguments : Arguments)
    (name : String) :
    '\n' ∈ (formatter.pieceText arguments (.placeholder name.toList)).toList ↔
      ∃ argument, arguments.get? (Text.foldCase name) = some argument ∧
        argument.ShowsLineFeed := by
  rw [pieceText, String.ofList_toList]
  cases arguments.get? (Text.foldCase name) with
  | none => simp
  | some argument => simp [lineFeed_mem_renderArgument_iff plain]

theorem lineFeed_not_mem_chosenTemplate (plain : formatter.IsPlain) (id : UInt32) :
    '\n' ∉ (formatter.chosenTemplate id).toList := by
  rw [chosenTemplate]
  cases found : formatter.catalog.template? id with
  | none => decide
  | some template => exact plain.templates id template found

theorem lineFeed_mem_formatMessage_iff (plain : formatter.IsPlain) (diagnostic : Diagnostic) :
    '\n' ∈ (formatter.formatMessage diagnostic).text.toList ↔
      formatter.ShowsLineFeed diagnostic := by
  have pieces : '\n' ∈ (formatter.formatMessage diagnostic).text.toList ↔
      ∃ piece ∈ cut (formatter.chosenTemplate diagnostic.id).toList,
        '\n' ∈ (formatter.pieceText diagnostic.arguments piece).toList := by
    rw [text_formatMessage, text_resolve]
    simp
  rw [pieces]
  constructor
  · rintro ⟨piece, member, shown⟩
    cases piece with
    | literal character =>
      -- a literal character is one of the template's own
      obtain rfl : '\n' = character := by simpa [pieceText] using shown
      exact absurd (mem_of_literal_mem_cut member) (lineFeed_not_mem_chosenTemplate plain _)
    | dollarPair => exact absurd shown (by simp [pieceText])
    | placeholder name =>
      rw [← String.toList_ofList (l := name)] at member shown
      exact ⟨_, mem_placeholders_iff.mpr member, (lineFeed_mem_pieceText_iff plain _ _).mp shown⟩
  · rintro ⟨name, member, asked⟩
    exact ⟨_, mem_placeholders_iff.mp member, (lineFeed_mem_pieceText_iff plain _ _).mpr asked⟩

/-- A line holds a line feed exactly if its template asks for an argument that shows one. -/
theorem lineFeed_mem_format_iff (plain : formatter.IsPlain) (diagnostic : Diagnostic) :
    '\n' ∈ (formatter.format diagnostic).text.toList ↔ formatter.ShowsLineFeed diagnostic := by
  rw [format, String.toList_append, List.mem_append, Text.lineFeed_mem_capitalize_iff,
    lineFeed_mem_formatMessage_iff plain, or_iff_right (lineFeed_not_mem_heading diagnostic)]

end Formatter

end DiagnosticReplay
