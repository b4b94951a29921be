import DiagnosticReplay.Formatter
import DiagnosticReplay.Proofs.FileUri.Characters
import DiagnosticReplay.Proofs.Text.Run

/-! # Reading a line back

A line puts a URI, two numbers, two words, a number and a message one after the other, and quotes
nothing. It can be taken apart all the same. No URI holds a blank, so the first blank of a line is
the one after the location; what stands before it ends in two numbers, and a number holds no colon.
After the location each word and the number of the message come up to the next blank, and the
message is what is left, whatever it holds.
-/

namespace DiagnosticReplay.Formatter

open Text

section Numerals

theorem isDigit_of_mem_toString {value : Nat} {character : Char}
    (member : character ∈ (toString value).toList) : character.isDigit = true := by
  rw [Nat.toString_eq_ofList_toDigits, String.toList_ofList] at member
  exact Nat.isDigit_of_mem_toDigits (by decide) (by decide) member

theorem not_mem_toString {value : Nat} {character : Char} (noDigit : character.isDigit = false) :
    character ∉ (toString value).toList := by
  intro member
  rw [isDigit_of_mem_toString member] at noDigit
  exact Bool.noConfusion noDigit

/-- A number can be read back from its digits. -/
theorem toString_inj {first second : Nat}
    (same : (toString first).toList = (toString second).toList) : first = second := by
  simp only [Nat.toString_eq_ofList_toDigits, String.toList_ofList] at same
  rw [← Nat.ofDigitChars_ten_toDigits (n := first), same, Nat.ofDigitChars_ten_toDigits]

end Numerals

section Labels

theorem blank_not_mem_stage_label (stage : Stage) : ' ' ∉ stage.label.toList := by
  cases stage <;> decide

theorem blank_not_mem_severity_label (severity : Severity) : ' ' ∉ severity.label.toList := by
  cases severity <;> decide

theorem stage_label_inj {first second : Stage} (same : first.label.toList = second.label.toList) :
    first = second := by
  revert same
  cases first <;> cases second <;> decide

theorem severity_label_inj {first second : Severity}
    (same : first.label.toList = second.label.toList) : first = second := by
  revert same
  cases first <;> cases second <;> decide

end Labels

theorem toList_format (formatter : Formatter) (diagnostic : Diagnostic) :
    (formatter.format diagnostic).text.toList =
      ((Location.ofSpan diagnostic.span).text.toList ++ [':']) ++ ' ' ::
        ((diagnostic.stage.label.toList ++ [':']) ++ ' ' ::
          (diagnostic.severity.label.toList ++ ' ' ::
            (('#' :: (toString diagnostic.id.toNat).toList ++ [':']) ++ ' ' ::
              (capitalize (formatter.formatMessage diagnostic).text).toList))) := by
  simp [format, heading]

theorem toList_location (location : Location) :
    location.text.toList = (location.uri.toList ++ ':' :: (toString location.line.toNat).toList)
      ++ ':' :: (toString location.column).toList := by
  simp [Location.text]

theorem location_inj {first second : Source.Span}
    (same : (Location.ofSpan first).text.toList = (Location.ofSpan second).text.toList) :
    (Location.ofSpan first).uri = (Location.ofSpan second).uri ∧
      first.position.line = second.position.line ∧
      first.position.column = second.position.column := by
  rw [toList_location, toList_location] at same
  obtain ⟨before, columns⟩ := append_separator_inj_last (not_mem_toString (by decide))
    (not_mem_toString (by decide)) same
  obtain ⟨uris, lines⟩ := append_separator_inj_last (not_mem_toString (by decide))
    (not_mem_toString (by decide)) before
  refine ⟨String.toList_inj.mp uris, UInt32.toNat_inj.mp (toString_inj lines), ?_⟩
  have shifted := toString_inj columns
  exact UInt32.toNat_inj.mp (Nat.succ.inj shifted)

theorem blank_not_mem_location (span : Source.Span) :
    ' ' ∉ (Location.ofSpan span).text.toList ++ [':'] := by
  rw [toList_location]
  simp only [List.mem_append, List.mem_cons, List.not_mem_nil, or_false, not_or]
  exact ⟨⟨⟨Location.blank_not_mem_uriOf _, by decide, not_mem_toString (by decide)⟩, by decide,
    not_mem_toString (by decide)⟩, by decide⟩

theorem blank_not_mem_number (id : UInt32) :
    ' ' ∉ '#' :: (toString id.toNat).toList ++ [':'] := by
  have digits : ' ' ∉ (toString id.toNat).toList := not_mem_toString (by decide)
  simp only [List.cons_append, List.mem_cons, List.mem_append, List.not_mem_nil, or_false, not_or]
  exact ⟨by decide, digits, by decide⟩

/-- The lines of two diagnostics agree in every field. -/
structure SameFields (first second : Formatter) (one other : Diagnostic) : Prop where
  uri : (Location.ofSpan one.span).uri = (Location.ofSpan other.span).uri
  line : one.span.position.line = other.span.position.line
  column : one.span.position.column = other.span.position.column
  stage : one.stage = other.stage
  severity : one.severity = other.severity
  id : one.id = other.id
  message : capitalize (first.formatMessage one).text = capitalize (second.formatMessage other).text

/-- Lines that read alike agree in every field, whatever tables they were made with and whatever
their paths, templates and arguments hold. -/
theorem sameFields_of_format_eq {first second : Formatter} {one other : Diagnostic}
    (same : (first.format one).text = (second.format other).text) :
    SameFields first second one other := by
  have lists := congrArg String.toList same
  rw [toList_format, toList_format] at lists
  obtain ⟨locations, afterLocation⟩ := append_separator_inj (blank_not_mem_location one.span)
    (blank_not_mem_location other.span) lists
  obtain ⟨stages, afterStage⟩ := append_separator_inj
    (by simp [blank_not_mem_stage_label]) (by simp [blank_not_mem_stage_label]) afterLocation
  obtain ⟨severities, afterSeverity⟩ := append_separator_inj
    (blank_not_mem_severity_label one.severity) (blank_not_mem_severity_label other.severity)
    afterStage
  obtain ⟨ids, messages⟩ := append_separator_inj (blank_not_mem_number one.id)
    (blank_not_mem_number other.id) afterSeverity
  obtain ⟨uris, lines, columns⟩ := location_inj (List.append_cancel_right locations)
  have numbers := toString_inj (List.append_cancel_right (List.cons.inj ids).2)
  exact {
    uri := uris
    line := lines
    column := columns
    stage := stage_label_inj (List.append_cancel_right stages)
    severity := severity_label_inj severities
    id := UInt32.toNat_inj.mp numbers
    message := String.toList_inj.mp messages }

/-- A diagnostic whose whole message is one argument, which looks like the line of another. -/
def plainReport : Diagnostic where
  id := 9
  span := { script := .ofContent "/x y" "", position := ⟨1, 2⟩ }
  severity := .error
  stage := .parsing
  arguments := .ofList [("m", .text "q: 2:3: SyntaxError: Error #9: r")]

/-- A diagnostic with the same line as `plainReport`, from another path, template and arguments. -/
def disguisedReport : Diagnostic where
  id := 9
  span := { script := .ofContent "x%20y/" "", position := ⟨1, 2⟩ }
  severity := .error
  stage := .parsing
  arguments := .ofList [("at", .text "2:3"), ("id", .text "9")]

theorem sameFields_of_format_eq_disguised :
    (format ⟨.ofEntries [(9, "$m")], .standard⟩ plainReport).text =
        (format ⟨.ofEntries [(9, "q: $at: SyntaxError: Error #$id: r")], .standard⟩
          disguisedReport).text ∧
      SameFields ⟨.ofEntries [(9, "$m")], .standard⟩
        ⟨.ofEntries [(9, "q: $at: SyntaxError: Error #$id: r")], .standard⟩
        plainReport disguisedReport := by
  have same : (format ⟨.ofEntries [(9, "$m")], .standard⟩ plainReport).text =
      (format ⟨.ofEntries [(9, "q: $at: SyntaxError: Error #$id: r")], .standard⟩
        disguisedReport).text := by decide +kernel
  exact ⟨same, sameFields_of_format_eq same⟩

end DiagnosticReplay.Formatter
