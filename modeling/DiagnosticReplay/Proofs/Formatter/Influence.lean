import DiagnosticReplay.Proofs.Diagnostic.Arguments
import DiagnosticReplay.Proofs.Formatter.Misses

/-! # What can influence a message

A template asks for arguments by the names of its placeholders, in lower case. Filling it in looks at
no other key, and what was filled in asks for nothing, although a text argument may look like a
template itself. So two maps that agree on the keys that the template asks for give the same text and
the same events, whatever else they hold. A key with a capital is never asked for, and the word that
stands in for a missing template asks for no key at all.
-/

namespace DiagnosticReplay

namespace Text

/-- A capital letter of ASCII stands in the text. -/
def HoldsCapital (text : String) : Prop :=
  ∃ character ∈ text.toList, 'A' ≤ character ∧ character ≤ 'Z'

theorem not_holdsCapital_foldCase (text : String) : ¬ HoldsCapital (foldCase text) := by
  have lower : ∀ character : Char, ¬ ('A' ≤ character.toLower ∧ character.toLower ≤ 'Z') := by
    refine forall_of_ascii (by decide) fun character outside => ?_
    rw [toLower_of_outside outside]
    rintro ⟨-, small⟩
    have code : character.toNat ≤ 90 := small
    omega
  rintro ⟨character, member, capital⟩
  rw [foldCase, String.toList_ofList] at member
  obtain ⟨letter, -, rfl⟩ := List.mem_map.mp member
  exact lower letter capital

end Text

namespace SortedMap

variable {κ υ : Type} [BEq κ] [LT κ]

/-- The maps say the same about each of the keys. -/
def AgreeOn (one other : SortedMap κ υ) (keys : κ → Prop) : Prop :=
  ∀ key, keys key → one.get? key = other.get? key

variable [LawfulBEq κ] [LE κ] [DecidableLT κ] [Std.IsLinearOrder κ] [Std.LawfulOrderLT κ]

/-- An insertion is not seen at other keys. -/
theorem agreeOn_insert {map : SortedMap κ υ} {keys : κ → Prop} {key : κ} {value : υ}
    (outside : ¬ keys key) : (map.insert key value).AgreeOn map keys := by
  intro other inside
  have differ : (other == key) = false :=
    beq_eq_false_iff_ne.mpr fun same => outside (same ▸ inside)
  rw [get?_insert, differ]
  rfl

end SortedMap

namespace Template

/-- The key is the folded name of a placeholder. -/
def AsksFor (template key : String) : Prop :=
  ∃ pieces, Cuts template.toList pieces ∧ ∃ name ∈ placeholders pieces, Text.foldCase name = key

variable {template key : String}

theorem asksFor_iff : AsksFor template key ↔
    key ∈ (placeholders (cut template.toList)).map Text.foldCase := by
  simp only [AsksFor, cuts_iff, exists_eq_left, List.mem_map]

theorem not_asksFor_undefined : ¬ AsksFor "undefined" key := by
  have none : placeholders (cut "undefined".toList) = [] := by
    rw [← Message.undefinedText, Formatter.cut_undefinedText]
    rfl
  rw [asksFor_iff, none]
  exact List.not_mem_nil

/-- A template asks for keys without capitals. -/
theorem AsksFor.not_holdsCapital (asked : AsksFor template key) : ¬ Text.HoldsCapital key := by
  obtain ⟨_, _, name, _, rfl⟩ := asked
  exact Text.not_holdsCapital_foldCase name

end Template

namespace Formatter

open Template

variable {formatter : Formatter} {template : String} {one other : Arguments}

/-- Filling a template in looks only at the keys that it asks for. -/
theorem resolve_congr (agree : one.AgreeOn other (AsksFor template)) :
    formatter.resolve template one = formatter.resolve template other := by
  rw [resolve, resolve]
  congr 1
  -- the cut is the same for both, and what is filled in is not cut again
  apply List.map_congr_left
  intro piece member
  cases piece with
  | literal character => rfl
  | dollarPair => rfl
  | placeholder name =>
    have named : String.ofList name ∈ placeholders (cut template.toList) :=
      mem_placeholders_iff.mpr (by rwa [String.toList_ofList])
    have found := agree _ (asksFor_iff.mpr (List.mem_map_of_mem named))
    rw [renderPiece, renderPiece, found]

theorem format_congr {diagnostic : Diagnostic} {arguments : Arguments}
    (agree : arguments.AgreeOn diagnostic.arguments
      (AsksFor (formatter.chosenTemplate diagnostic.id))) :
    formatter.format { diagnostic with arguments } = formatter.format diagnostic := by
  simp only [format, formatMessage, heading, text_renderTemplate, resolve_congr agree]

/-- Noninterference: arguments under keys that a template does not ask for change neither a text nor
an event. Keys with a capital are among these for every template, and all keys are where the catalog
has no template. -/
theorem format_ignores_unasked (formatter : Formatter) :
    (∀ (template : String) (one other : Arguments), one.AgreeOn other (AsksFor template) →
        formatter.resolve template one = formatter.resolve template other) ∧
      (∀ (template : String) (one other : Arguments),
        one.AgreeOn other (fun key => ¬ Text.HoldsCapital key) →
        formatter.resolve template one = formatter.resolve template other) ∧
      (∀ (diagnostic : Diagnostic) (name : String) (value : Argument),
        (∀ template ∈ formatter.catalog.template? diagnostic.id,
          ¬ AsksFor template (Text.foldCase name)) →
        formatter.format (diagnostic.withArgument name value) = formatter.format diagnostic) ∧
      ∀ (diagnostic : Diagnostic) (arguments : Arguments),
        formatter.catalog.template? diagnostic.id = none →
        formatter.format { diagnostic with arguments } = formatter.format diagnostic := by
  refine ⟨fun template one other => resolve_congr, ?_, ?_, ?_⟩
  · intro template one other agree
    exact resolve_congr fun key asked => agree key asked.not_holdsCapital
  · intro diagnostic name value unasked
    apply format_congr
    apply SortedMap.agreeOn_insert
    rw [chosenTemplate]
    cases found : formatter.catalog.template? diagnostic.id with
    | none => exact not_asksFor_undefined
    | some template => exact unasked template found
  · intro diagnostic arguments missing
    apply format_congr
    rw [chosenTemplate, missing]
    exact fun key asked => absurd asked not_asksFor_undefined

/-- Of two names that the template spells it asks for the first alone, and the argument of that name
looks like the second. -/
theorem format_ignores_unasked_pairedName :
    let formatter : Formatter := ⟨.ofEntries [(7, "$A $$b")], .standard⟩
    let one : Arguments := .ofList [("a", .text "$b"), ("b", .text "x")]
    let other : Arguments := .ofList [("A", .text "y"), ("a", .text "$b")]
    let diagnostic : Diagnostic := ⟨7, ⟨.ofContent "/a" "", ⟨1, 0⟩⟩, .error, .parsing, one⟩
    (formatter.resolve "$A $$b" one).text = "$b $b" ∧
      formatter.resolve "$A $$b" one = formatter.resolve "$A $$b" other ∧
      formatter.resolve "$A $$b" (one.insert "A" (.text "y")) = formatter.resolve "$A $$b" one ∧
      formatter.format (diagnostic.withArgument "B" (.text "z")) = formatter.format diagnostic ∧
      formatter.format { diagnostic with id := 8, arguments := other } =
        formatter.format { diagnostic with id := 8 } := by
  intro formatter one other diagnostic
  obtain ⟨asked, lower, attached, unknown⟩ := format_ignores_unasked formatter
  have keys : (placeholders (cut "$A $$b".toList)).map Text.foldCase = ["a"] := by decide +kernel
  refine ⟨by decide +kernel, asked _ _ _ ?_, lower _ _ _ ?_, attached _ _ _ ?_,
    unknown { diagnostic with id := 8 } other (by decide +kernel)⟩
  · intro key asksFor
    rw [asksFor_iff, keys, List.mem_singleton] at asksFor
    subst asksFor
    decide +kernel
  · have capital : Text.HoldsCapital "A" := ⟨'A', by decide, by decide, by decide⟩
    exact SortedMap.agreeOn_insert (not_not_intro capital)
  · intro template found
    have same : some "$A $$b" = some template := Eq.trans (by decide +kernel) found
    obtain rfl := Option.some.inj same
    rw [asksFor_iff, keys]
    decide +kernel

end Formatter

end DiagnosticReplay
