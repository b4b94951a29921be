import DiagnosticReplay.Formatter
import DiagnosticReplay.Proofs.Message.Template

/-! # Lookups that miss

Formatting reports every lookup that finds nothing, and reports it once. `Misses` lists the four ways
in which the lookups for a placeholder can fail; `Reports` walks the placeholders of a template and
says which events come of them. A message is also read as a row of fragments that tell what a lookup
gave from the word that stands in for what it did not, so the events can be counted against those
words even where a template or an argument spells the same word.
-/

namespace DiagnosticReplay

namespace Template

/-- The name of a placeholder as the template writes it. -/
def Piece.name? : Piece → Option String
  | literal _ => none
  | dollarPair => none
  | placeholder name => some (String.ofList name)

/-- The names of the placeholders, one for each occurrence, in the order of the text. -/
def placeholders (pieces : List Piece) : List String :=
  pieces.filterMap Piece.name?

@[simp] theorem placeholders_literal (character : Char) (pieces : List Piece) :
    placeholders (.literal character :: pieces) = placeholders pieces := rfl

@[simp] theorem placeholders_dollarPair (pieces : List Piece) :
    placeholders (.dollarPair :: pieces) = placeholders pieces := rfl

@[simp] theorem placeholders_placeholder (name : List Char) (pieces : List Piece) :
    placeholders (.placeholder name :: pieces) = String.ofList name :: placeholders pieces := rfl

theorem mem_placeholders_iff {pieces : List Piece} {name : String} :
    name ∈ placeholders pieces ↔ .placeholder name.toList ∈ pieces := by
  rw [placeholders, List.mem_filterMap]
  constructor
  · rintro ⟨piece, member, named⟩
    cases piece with
    | placeholder characters =>
      obtain rfl := Option.some.inj named
      rwa [String.toList_ofList]
    | _ => exact absurd named (by simp [Piece.name?])
  · intro member
    exact ⟨_, member, by rw [Piece.name?, String.ofList_toList]⟩

end Template

namespace Formatter

open Template

section Specification

variable (formatter : Formatter) (arguments : Arguments)

/-- What a lookup for a placeholder does not find, as the event that says so. -/
inductive Misses (name : String) : Event → Prop where
  /-- No argument has the folded name. -/
  | argument : arguments.get? (Text.foldCase name) = none → Misses name (.missingArgument name)
  /-- The argument is a token kind without a display name. -/
  | token {kind : Token} : arguments.get? (Text.foldCase name) = some (.token kind) →
      formatter.names.name? kind = none → Misses name (.namelessToken kind)
  /-- The argument is a token that is shown by its kind, which has no display name. -/
  | tokenData {data : TokenData} : arguments.get? (Text.foldCase name) = some (.tokenData data) →
      data.kind ∉ [.operator, .compoundAssignment, .keyword] →
      formatter.names.name? data.kind = none → Misses name (.namelessToken data.kind)
  /-- The argument is a token that is shown by its operator, and it has none. -/
  | operator {data : TokenData} : arguments.get? (Text.foldCase name) = some (.tokenData data) →
      data.kind ∈ [.operator, .compoundAssignment] → data.operator = none →
      Misses name (.missingOperator data.kind)

/-- The events of some placeholders: one for each that misses, in their order, and no other. -/
inductive Reports : List String → List Event → Prop where
  | nil : Reports [] []
  | miss {name : String} {event : Event} {names : List String} {events : List Event} :
      Misses formatter arguments name event → Reports names events →
      Reports (name :: names) (event :: events)
  | hit {name : String} {names : List String} {events : List Event} :
      (∀ event, ¬ Misses formatter arguments name event) → Reports names events →
      Reports (name :: names) events

/-- Every lookup that an argument needs to be shown finds something. -/
def Shows : Argument → Prop
  | .token kind => formatter.names.name? kind ≠ none
  | .tokenData data =>
    match data.kind with
    | .operator | .compoundAssignment => data.operator ≠ none
    | .keyword => True
    | kind => formatter.names.name? kind ≠ none
  | .modifier _ | .access _ | .text _ => True

/-- Every lookup for a placeholder finds something. -/
def Finds (name : String) : Prop :=
  ∃ argument, arguments.get? (Text.foldCase name) = some argument ∧ formatter.Shows argument

/-- The template that a message number is shown with. -/
def chosenTemplate (id : UInt32) : String :=
  (formatter.catalog.template? id).getD "undefined"

end Specification

theorem text_renderTemplate (formatter : Formatter) (id : UInt32) :
    (formatter.renderTemplate id).text = formatter.chosenTemplate id := by
  rw [renderTemplate, chosenTemplate]
  cases formatter.catalog.template? id <;> rfl

theorem text_formatMessage (formatter : Formatter) (diagnostic : Diagnostic) :
    (formatter.formatMessage diagnostic).text =
      (formatter.resolve (formatter.chosenTemplate diagnostic.id) diagnostic.arguments).text := by
  rw [formatMessage, text_renderTemplate]

section Fragments

/-- A stretch of a message. -/
inductive Fragment where
  | given (text : String)
  /-- The word for what a lookup did not find. -/
  | sentinel
deriving DecidableEq, Repr

/-- The fragment that a lookup gives. -/
def Fragment.ofLookup : Option String → Fragment
  | some text => given text
  | none => sentinel

/-- The text of a fragment. -/
def Fragment.text : Fragment → String
  | given text => text
  | sentinel => "undefined"

/-- The fragments of an argument. -/
def argumentFragments (formatter : Formatter) : Argument → List Fragment
  | .token kind => [.ofLookup (formatter.names.name? kind)]
  | .tokenData data =>
    match data.kind with
    | .operator => [.ofLookup (data.operator.map Operator.text)]
    | .compoundAssignment => [.ofLookup (data.operator.map Operator.text), .given "="]
    | .keyword => [.given ("'" ++ data.stringValue ++ "'")]
    | kind => [.ofLookup (formatter.names.name? kind)]
  | .modifier modifier => [.given modifier.keyword]
  | .access modifier => [.given modifier.keyword]
  | .text value => [.given value]

/-- The fragments that a piece of a template becomes. -/
def pieceFragments (formatter : Formatter) (arguments : Arguments) : Piece → List Fragment
  | .literal character => [.given (String.singleton character)]
  | .dollarPair => [.given "$"]
  | .placeholder name =>
    match arguments.get? (Text.foldCase (String.ofList name)) with
    | some argument => formatter.argumentFragments argument
    | none => [.sentinel]

/-- The fragments of the message of a diagnostic. -/
def messageFragments (formatter : Formatter) (diagnostic : Diagnostic) : List Fragment :=
  match formatter.catalog.template? diagnostic.id with
  | some template =>
    (cut template.toList).flatMap (formatter.pieceFragments diagnostic.arguments)
  | none => [.sentinel]

/-- The rendering puts the fragments together, and reports an event for each word among them that
stands for a miss. -/
structure Rendered (rendering : Rendering) (fragments : List Fragment) : Prop where
  text : rendering.text = String.join (fragments.map Fragment.text)
  count : rendering.events.length = fragments.count .sentinel

theorem rendered_token (formatter : Formatter) (kind : Token) :
    Rendered (formatter.renderToken kind) [.ofLookup (formatter.names.name? kind)] := by
  rw [renderToken]
  cases formatter.names.name? kind with
  | none => exact ⟨rfl, rfl⟩
  | some name => exact ⟨rfl, rfl⟩

theorem rendered_operator (data : TokenData) :
    Rendered (renderOperator data) [.ofLookup (data.operator.map Operator.text)] := by
  rw [renderOperator]
  cases data.operator with
  | none => exact ⟨rfl, rfl⟩
  | some operator => exact ⟨by simp [Fragment.ofLookup, Fragment.text], rfl⟩

theorem Rendered.append {first second : Rendering} {some others : List Fragment}
    (one : Rendered first some) (two : Rendered second others) :
    Rendered (first ++ second) (some ++ others) := by
  constructor
  · rw [List.map_append, String.join_append, ← one.text, ← two.text]
    rfl
  · rw [List.count_append, ← one.count, ← two.count, ← List.length_append]
    rfl

theorem rendered_tokenData (formatter : Formatter) (data : TokenData) :
    Rendered (formatter.renderTokenData data) (formatter.argumentFragments (.tokenData data)) := by
  have operator := rendered_operator data
  obtain ⟨kind, held, stringValue⟩ := data
  cases kind with
  | operator => exact operator
  | compoundAssignment =>
    have equals : Rendered { text := "=" } [.given "="] := ⟨rfl, rfl⟩
    exact operator.append equals
  | keyword => exact ⟨by simp [renderTokenData, argumentFragments, Fragment.text], rfl⟩
  | _ => exact formatter.rendered_token _

theorem rendered_argument (formatter : Formatter) (argument : Argument) :
    Rendered (formatter.renderArgument argument) (formatter.argumentFragments argument) := by
  cases argument with
  | tokenData data => exact formatter.rendered_tokenData data
  | token kind => exact formatter.rendered_token kind
  | _ => exact ⟨by simp [renderArgument, argumentFragments, Fragment.text], rfl⟩

theorem rendered_piece (formatter : Formatter) (arguments : Arguments) (piece : Piece) :
    Rendered (formatter.renderPiece arguments piece)
      (formatter.pieceFragments arguments piece) := by
  cases piece with
  | literal character => exact ⟨by simp [renderPiece, pieceFragments, Fragment.text], rfl⟩
  | dollarPair => exact ⟨by simp [renderPiece, pieceFragments, Fragment.text], rfl⟩
  | placeholder name =>
    rw [renderPiece, pieceFragments]
    cases arguments.get? (Text.foldCase (String.ofList name)) with
    | none => exact ⟨rfl, rfl⟩
    | some argument => exact formatter.rendered_argument argument

theorem rendered_pieces (formatter : Formatter) (arguments : Arguments) (pieces : List Piece) :
    Rendered (.join (pieces.map (formatter.renderPiece arguments)))
      (pieces.flatMap (formatter.pieceFragments arguments)) := by
  induction pieces with
  | nil => exact ⟨rfl, rfl⟩
  | cons piece rest ih =>
    have both := (formatter.rendered_piece arguments piece).append ih
    constructor
    · rw [List.flatMap_cons, ← both.text, List.map_cons, Rendering.join, List.map_cons,
        String.join_cons]
      rfl
    · rw [List.flatMap_cons, ← both.count]
      rfl

/-- The word that stands in for a template has no placeholder. -/
theorem cut_undefinedText :
    cut Message.undefinedText.toList = "undefined".toList.map Piece.literal := by
  decide +kernel

theorem resolve_undefinedText (formatter : Formatter) (arguments : Arguments) :
    formatter.resolve Message.undefinedText arguments = { text := "undefined" } := by
  rw [resolve, cut_undefinedText]
  rfl

/-- A message is its fragments, and it reports as many events as words that stand for a miss. -/
theorem rendered_message (formatter : Formatter) (diagnostic : Diagnostic) :
    Rendered (formatter.formatMessage diagnostic) (formatter.messageFragments diagnostic) := by
  rw [formatMessage, messageFragments, renderTemplate]
  cases formatter.catalog.template? diagnostic.id with
  | none =>
    have resolved := formatter.resolve_undefinedText diagnostic.arguments
    exact ⟨congrArg Rendering.text resolved, congrArg (·.events.length + 1) resolved⟩
  | some template =>
    exact formatter.rendered_pieces diagnostic.arguments (cut template.toList)

end Fragments

section Events

variable {formatter : Formatter} {arguments : Arguments} {name : String} {data : TokenData}

theorem shows_tokenData_iff_of_operator (takes : data.kind ∈ [.operator, .compoundAssignment]) :
    formatter.Shows (.tokenData data) ↔ data.operator ≠ none := by
  simp only [List.mem_cons, List.not_mem_nil, or_false] at takes
  rcases takes with same | same <;> simp only [Shows, same]

theorem shows_tokenData_iff_of_plain
    (plain : data.kind ∉ [.operator, .compoundAssignment, .keyword]) :
    formatter.Shows (.tokenData data) ↔ formatter.names.name? data.kind ≠ none := by
  simp only [Shows]
  split <;> simp_all

/-- A placeholder of which every lookup finds something misses nothing. -/
theorem Finds.not_misses (finds : Finds formatter arguments name) (event : Event) :
    ¬ Misses formatter arguments name event := by
  obtain ⟨argument, stored, shows⟩ := finds
  intro misses
  cases misses with
  | argument absent => simp [stored] at absent
  | token found nameless =>
    cases stored.symm.trans found
    exact shows nameless
  | tokenData found plain nameless =>
    cases stored.symm.trans found
    exact (shows_tokenData_iff_of_plain plain).mp shows nameless
  | operator found takes bare =>
    cases stored.symm.trans found
    exact (shows_tokenData_iff_of_operator takes).mp shows bare

/-- What came of a placeholder: every lookup found something and nothing was reported, or a lookup
missed and that alone was reported. -/
inductive Outcome (formatter : Formatter) (arguments : Arguments) (name : String) :
    List Event → Prop where
  | found : Finds formatter arguments name → Outcome formatter arguments name []
  | missed {event : Event} : Misses formatter arguments name event →
      Outcome formatter arguments name [event]

theorem outcome_token {kind : Token}
    (stored : arguments.get? (Text.foldCase name) = some (.token kind)) :
    Outcome formatter arguments name (formatter.renderToken kind).events := by
  rw [renderToken]
  cases named : formatter.names.name? kind with
  | none => exact .missed (.token stored named)
  | some text => exact .found ⟨_, stored, by simp [Shows, named]⟩

theorem outcome_kind (stored : arguments.get? (Text.foldCase name) = some (.tokenData data))
    (plain : data.kind ∉ [.operator, .compoundAssignment, .keyword]) :
    Outcome formatter arguments name (formatter.renderToken data.kind).events := by
  rw [renderToken]
  cases named : formatter.names.name? data.kind with
  | none => exact .missed (.tokenData stored plain named)
  | some text =>
    exact .found ⟨_, stored, (shows_tokenData_iff_of_plain plain).mpr (by simp [named])⟩

theorem outcome_operator (stored : arguments.get? (Text.foldCase name) = some (.tokenData data))
    (takes : data.kind ∈ [.operator, .compoundAssignment]) :
    Outcome formatter arguments name (renderOperator data).events := by
  rw [renderOperator]
  cases held : data.operator with
  | none => exact .missed (.operator stored takes held)
  | some operator =>
    exact .found ⟨_, stored, (shows_tokenData_iff_of_operator takes).mpr (by simp [held])⟩

theorem outcome_tokenData
    (stored : arguments.get? (Text.foldCase name) = some (.tokenData data)) :
    Outcome formatter arguments name (formatter.renderTokenData data).events := by
  obtain ⟨kind, held, stringValue⟩ := data
  cases kind with
  | operator => exact outcome_operator stored (by simp)
  | compoundAssignment =>
    have operator : Outcome formatter arguments name (renderOperator _).events :=
      outcome_operator stored (by simp)
    rwa [← List.append_nil (renderOperator _).events] at operator
  | keyword => exact .found ⟨_, stored, trivial⟩
  | _ => exact outcome_kind stored (by simp)

theorem outcome_argument {argument : Argument}
    (stored : arguments.get? (Text.foldCase name) = some argument) :
    Outcome formatter arguments name (formatter.renderArgument argument).events := by
  cases argument with
  | tokenData data => exact outcome_tokenData stored
  | token kind => exact outcome_token stored
  | _ => exact .found ⟨_, stored, trivial⟩

/-- Each placeholder reports its own miss, if it has one. -/
theorem outcome_placeholder (formatter : Formatter) (arguments : Arguments) (name : List Char) :
    Outcome formatter arguments (String.ofList name)
      (formatter.renderPiece arguments (.placeholder name)).events := by
  rw [renderPiece]
  cases stored : arguments.get? (Text.foldCase (String.ofList name)) with
  | none => exact .missed (.argument stored)
  | some argument => exact outcome_argument stored

theorem Outcome.reports {events later : List Event} {others : List String}
    (outcome : Outcome formatter arguments name events)
    (rest : Reports formatter arguments others later) :
    Reports formatter arguments (name :: others) (events ++ later) := by
  cases outcome with
  | found finds => exact .hit finds.not_misses rest
  | missed misses => exact .miss misses rest

theorem finds_iff : Finds formatter arguments name ↔
    ∀ event, ¬ Misses formatter arguments name event := by
  refine ⟨Finds.not_misses, fun none => ?_⟩
  have outcome := outcome_placeholder formatter arguments name.toList
  rw [String.ofList_toList] at outcome
  generalize (formatter.renderPiece arguments (.placeholder name.toList)).events = events
    at outcome
  cases outcome with
  | found finds => exact finds
  | missed misses => exact absurd misses (none _)

/-- A template reports the misses of its placeholders. -/
theorem reports_pieces (formatter : Formatter) (arguments : Arguments) (pieces : List Piece) :
    Reports formatter arguments (placeholders pieces)
      (pieces.flatMap fun piece => (formatter.renderPiece arguments piece).events) := by
  induction pieces with
  | nil => exact .nil
  | cons piece rest ih =>
    cases piece with
    | literal character => exact ih
    | dollarPair => exact ih
    | placeholder name => exact (outcome_placeholder formatter arguments name).reports ih

/-- Nothing is reported exactly where every lookup finds something. -/
theorem Reports.eq_nil_iff {names : List String} {events : List Event}
    (reports : Reports formatter arguments names events) :
    events = [] ↔ ∀ name ∈ names, Finds formatter arguments name := by
  induction reports with
  | nil => simp
  | miss misses _ _ =>
    refine ⟨fun none => absurd none (by simp), fun all => ?_⟩
    exact absurd misses ((all _ List.mem_cons_self).not_misses _)
  | hit none _ ih => rw [ih, List.forall_mem_cons, and_iff_right (finds_iff.mpr none)]

/-- What is reported is the miss of one of the placeholders. -/
theorem Reports.exists_misses {names : List String} {events : List Event}
    (reports : Reports formatter arguments names events) {event : Event} (member : event ∈ events) :
    ∃ name ∈ names, Misses formatter arguments name event := by
  induction reports with
  | nil => exact absurd member List.not_mem_nil
  | @miss name _ _ _ misses _ ih =>
    rcases List.mem_cons.mp member with rfl | later
    · exact ⟨name, List.mem_cons_self, misses⟩
    · obtain ⟨other, listed, found⟩ := ih later
      exact ⟨other, List.mem_cons_of_mem _ listed, found⟩
  | hit _ _ ih =>
    obtain ⟨other, listed, found⟩ := ih member
    exact ⟨other, List.mem_cons_of_mem _ listed, found⟩

theorem events_formatMessage (formatter : Formatter) (diagnostic : Diagnostic) :
    (formatter.formatMessage diagnostic).events =
      (if formatter.catalog.template? diagnostic.id = none then [.unknownId diagnostic.id]
        else []) ++
      (cut (formatter.chosenTemplate diagnostic.id).toList).flatMap fun piece =>
        (formatter.renderPiece diagnostic.arguments piece).events := by
  rw [formatMessage, renderTemplate, chosenTemplate]
  cases formatter.catalog.template? diagnostic.id with
  | none => exact congrArg (_ :: ·) (List.flatMap_map ..)
  | some template => exact List.flatMap_map ..

/-- Formatting reports the missing template, if there is none, and then the misses of the
placeholders of the template that is shown, each once and in the order of the text. There are as
many events as words in the message that stand for a miss, so none exactly where every lookup finds
something, whatever the templates and arguments spell. -/
theorem events_format (formatter : Formatter) (diagnostic : Diagnostic) :
    ∃ pieces reported,
      Cuts (formatter.chosenTemplate diagnostic.id).toList pieces ∧
      Reports formatter diagnostic.arguments (placeholders pieces) reported ∧
      (formatter.format diagnostic).events =
        (if formatter.catalog.template? diagnostic.id = none then [.unknownId diagnostic.id]
          else []) ++ reported ∧
      (formatter.formatMessage diagnostic).text =
        String.join ((formatter.messageFragments diagnostic).map Fragment.text) ∧
      (formatter.format diagnostic).events.length =
        (formatter.messageFragments diagnostic).count .sentinel ∧
      ((formatter.format diagnostic).events = [] ↔
        formatter.catalog.template? diagnostic.id ≠ none ∧
          ∀ name ∈ placeholders pieces, Finds formatter diagnostic.arguments name) := by
  have reports := formatter.reports_pieces diagnostic.arguments
    (cut (formatter.chosenTemplate diagnostic.id).toList)
  have events := formatter.events_formatMessage diagnostic
  have rendered := formatter.rendered_message diagnostic
  refine ⟨_, _, cuts_cut _, reports, events, rendered.text, rendered.count, ?_⟩
  rw [format, events, List.append_eq_nil_iff, reports.eq_nil_iff]
  refine and_congr_left fun _ => ?_
  split <;> simp_all

/-- A message that spells the word for a miss without having one. -/
example : (format ⟨.ofEntries [(9, "undefined $x")], .standard⟩
    { id := 9, span := ⟨.ofContent "a" "", ⟨1, 0⟩⟩, severity := .error, stage := .parsing,
      arguments := .ofList [("x", .text "undefined")] }).events = [] := by
  decide +kernel

end Events

end Formatter

end DiagnosticReplay
