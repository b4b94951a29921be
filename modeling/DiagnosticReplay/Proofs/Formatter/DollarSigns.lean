import DiagnosticReplay.Proofs.Diagnostic.Arguments
import DiagnosticReplay.Proofs.Formatter.Misses
import DiagnosticReplay.Proofs.Formatter.Resolve
import DiagnosticReplay.Proofs.Message.Catalog
import Mathlib.Algebra.GroupWithZero.Nat

/-! # Dollar signs in a message

Every dollar sign of a filled template comes from a `$$` pair, from a dollar sign that stands for
itself, or from the argument of a placeholder; the dollar sign of the placeholder is gone. The
standard templates have no pairs and no dollar signs that stand for themselves. So a message holds no
dollar sign if the arguments show none, and where each placeholder has its argument nothing is left
to fill in.
-/

namespace DiagnosticReplay

namespace Formatter

open Template Diagnostic

variable (formatter : Formatter) (arguments : Arguments)

/-- How many dollar signs the argument of a placeholder shows. -/
def shownDollars (name : String) : Nat :=
  match arguments.get? (Text.foldCase name) with
  | some argument => (formatter.renderArgument argument).text.toList.count '$'
  | none => 0

theorem count_dollar_placeholder (name : List Char) :
    (formatter.pieceText arguments (.placeholder name)).toList.count '$' =
      formatter.shownDollars arguments (String.ofList name) := by
  rw [pieceText, shownDollars]
  cases arguments.get? (Text.foldCase (String.ofList name)) with
  | none => exact show "undefined".toList.count '$' = 0 from by decide
  | some argument => rfl

/-- The dollar signs of a row of pieces, each from one of three sources. -/
theorem count_dollar_pieces (pieces : List Piece) :
    (String.join (pieces.map (formatter.pieceText arguments))).toList.count '$' =
      pieces.count .dollarPair + pieces.count (.literal '$') +
        ((placeholders pieces).map (formatter.shownDollars arguments)).sum := by
  induction pieces with
  | nil => rfl
  | cons piece rest ih =>
    rw [List.map_cons, String.join_cons, String.toList_append, List.count_append, ih]
    cases piece with
    | literal character =>
      by_cases dollar : character = '$'
      · simp [pieceText, dollar]
        omega
      · simp [pieceText, dollar]
    | dollarPair =>
      simp [pieceText]
      omega
    | placeholder name =>
      rw [count_dollar_placeholder]
      simp
      omega

theorem count_dollar_resolve (template : String) :
    (formatter.resolve template arguments).text.toList.count '$' =
      (cut template.toList).count .dollarPair + (cut template.toList).count (.literal '$') +
        ((placeholders (cut template.toList)).map (formatter.shownDollars arguments)).sum := by
  rw [text_resolve, count_dollar_pieces]

variable {formatter arguments}

theorem shownDollars_eq_zero {name : String}
    (plain : ∀ argument, arguments.get? (Text.foldCase name) = some argument →
      '$' ∉ (formatter.renderArgument argument).text.toList) :
    formatter.shownDollars arguments name = 0 := by
  rw [shownDollars]
  cases found : arguments.get? (Text.foldCase name) with
  | none => rfl
  | some argument => exact List.count_eq_zero.mpr (plain argument found)

/-- A template that writes no dollar sign of its own shows only those of its arguments. -/
theorem dollar_not_mem_resolve {template : String} (named : Named template.toList)
    (plain : ∀ name ∈ placeholders (cut template.toList),
      formatter.shownDollars arguments name = 0) :
    '$' ∉ (formatter.resolve template arguments).text.toList := by
  have own := (cuts_cut template.toList).ne_dollar_of_named named
  have noPair : (cut template.toList).count .dollarPair = 0 :=
    List.count_eq_zero.mpr fun member => (own _ member).1 rfl
  have noLiteral : (cut template.toList).count (.literal '$') = 0 :=
    List.count_eq_zero.mpr fun member => (own _ member).2 rfl
  have noneShown : ((placeholders (cut template.toList)).map
      (formatter.shownDollars arguments)).sum = 0 :=
    List.sum_eq_zero_iff_forall_eq_nat.mpr (List.forall_mem_map.mpr plain)
  rw [← List.count_eq_zero, count_dollar_resolve, noPair, noLiteral, noneShown]

/-- Where each placeholder has its argument, none is reported as missing. -/
theorem missingArgument_not_mem_formatMessage {diagnostic : Diagnostic}
    (stored : ∀ name ∈ placeholders (cut (formatter.chosenTemplate diagnostic.id).toList),
      diagnostic.argument? name ≠ none) (name : String) :
    .missingArgument name ∉ (formatter.formatMessage diagnostic).events := by
  intro member
  rw [events_formatMessage, List.mem_append] at member
  rcases member with unknown | reported
  · -- a template that is missing is reported as such, not as an argument
    split at unknown <;> simp at unknown
  · obtain ⟨asked, listed, misses⟩ :=
      (formatter.reports_pieces diagnostic.arguments _).exists_misses reported
    cases misses with
    | argument absent => exact stored name listed absent

/-- The dollar signs of a filled template add up: those of its pairs, those that stand for themselves,
and those of the arguments shown, once for each placeholder. Of the first two the standard templates
have none. So a standard message holds no dollar sign where each of its placeholders was given an
argument, under its name in some case, and none that it finds shows one; and then no argument is
reported as missing. -/
theorem dollars_add_up :
    (∀ (formatter : Formatter) (template : String) (arguments : Arguments), ∃ pieces,
        Cuts template.toList pieces ∧
        (formatter.resolve template arguments).text.toList.count '$' =
          pieces.count .dollarPair + pieces.count (.literal '$') +
            ((placeholders pieces).map (formatter.shownDollars arguments)).sum) ∧
      ∀ (names : TokenNames) (template : String) (bare : Diagnostic) (calls : List Given),
        Catalog.standard.template? bare.id = some template → bare.arguments = .empty →
        (∀ name ∈ placeholders (cut template.toList), ∃ call ∈ calls, call.Meets name) →
        (∀ name ∈ placeholders (cut template.toList), ∀ argument,
          (bare.withArguments calls).argument? name = some argument →
            '$' ∉ (renderArgument ⟨.standard, names⟩ argument).text.toList) →
        '$' ∉ (formatMessage ⟨.standard, names⟩ (bare.withArguments calls)).text.toList ∧
          ∀ name, .missingArgument name ∉
            (formatMessage ⟨.standard, names⟩ (bare.withArguments calls)).events := by
  constructor
  · intro formatter template arguments
    exact ⟨_, cuts_cut _, formatter.count_dollar_resolve arguments template⟩
  · intro names template bare calls found fresh given plain
    have chosen : chosenTemplate ⟨.standard, names⟩ (bare.withArguments calls).id = template := by
      rw [id_withArguments, chosenTemplate, found, Option.getD_some]
    constructor
    · rw [text_formatMessage, chosen]
      exact dollar_not_mem_resolve (Catalog.wellWritten_of_template? found).named
        fun name listed => shownDollars_eq_zero (plain name listed)
    · apply missingArgument_not_mem_formatMessage
      rw [chosen]
      intro name listed
      obtain ⟨call, member, meets⟩ := given name listed
      -- the call that is found is the last of the name, not always the one that was given here
      rcases argument?_withArguments fresh calls name with
        ⟨none, -⟩ | ⟨_, last, _, -, -, -, stored⟩
      · exact absurd meets (none call member)
      · exact stored ▸ Option.some_ne_none last.2

/-- An argument that showed a dollar sign is replaced, and the names come in other cases. -/
theorem dollars_add_up_replacedArgument :
    let bare : Diagnostic :=
      ⟨135, ⟨.ofContent "/a" "", ⟨1, 0⟩⟩, .error, .verification, .empty⟩
    let calls : List Given :=
      [("EXPECTEDN", .text "$2"), ("GotN", .token .comma), ("expectedn", .text "2")]
    (standard.resolve "$$$n$" (.ofList [("n", .text "$1$")])).text.toList.count '$' = 4 ∧
      '$' ∉ (standard.formatMessage (bare.withArguments calls)).text.toList ∧
      ∀ name, .missingArgument name ∉ (standard.formatMessage (bare.withArguments calls)).events := by
  intro bare calls
  obtain ⟨counts, standardMessages⟩ := dollars_add_up
  obtain ⟨pieces, cuts, count⟩ := counts standard "$$$n$" (.ofList [("n", .text "$1$")])
  obtain rfl : pieces = [.dollarPair, .placeholder ['n'], .literal '$'] :=
    cuts.eq_cut.trans (by decide +kernel)
  have found : Catalog.standard.template? bare.id =
      some "Wrong number of arguments: expected $expectedN, got $gotN" := by decide +kernel
  have asked : placeholders
      (cut "Wrong number of arguments: expected $expectedN, got $gotN".toList) =
        ["expectedN", "gotN"] := by decide +kernel
  have clean : ∀ name ∈ ["expectedN", "gotN"], ∀ argument ∈ (bare.withArguments calls).argument? name,
      '$' ∉ (standard.renderArgument argument).text.toList := by decide +kernel
  refine ⟨count.trans (by decide +kernel), standardMessages .standard _ bare calls found rfl ?_ ?_⟩
  · rw [asked]
    decide
  · rw [asked]
    exact clean

end Formatter

end DiagnosticReplay
