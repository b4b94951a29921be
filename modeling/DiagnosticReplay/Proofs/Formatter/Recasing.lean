import DiagnosticReplay.Proofs.Diagnostic.Arguments
import DiagnosticReplay.Proofs.Formatter.Resolve

/-! # Names in either case

A placeholder finds its argument in whatever ASCII case the two names are written. Writing a
placeholder of a template in another case leaves every name where it is, because the letters of ASCII
are name characters in both cases, and it folds to the same name. So neither the message nor what is
reported changes, but for the spelling of a name that has no argument. Characters outside ASCII are
not folded, the two among them that can stand in a name neither, although their own case is that of
an ASCII letter: a name with one of them asks for that character at its place.
-/

namespace DiagnosticReplay

open Text

namespace Template

variable {first rest template : List Char} {piece other : Piece}
variable {pieces others : List Piece}

theorem NameCharacter.of_sameLetter {character letter : Char} (same : SameLetter character letter)
    (nameCharacter : NameCharacter character) : NameCharacter letter := by
  have folded : ∀ character : Char, isNameChar character.toLower = isNameChar character :=
    forall_of_ascii (by decide) fun character outside => by rw [toLower_of_outside outside]
  rw [← isNameChar_iff] at nameCharacter ⊢
  rw [← folded letter, ← sameLetter_iff.mp same, folded character, nameCharacter]

/-- The pieces are the same, but for the case of ASCII letters in a name. -/
inductive Piece.Respells : Piece → Piece → Prop where
  | literal (character : Char) : Respells (literal character) (literal character)
  | dollarPair : Respells dollarPair dollarPair
  | placeholder {name spelled : List Char} (recased : Recased name spelled) :
      Respells (placeholder name) (placeholder spelled)

/-- The second template is the first with letters of its placeholder names in another case. -/
def Respells (first second : List Char) : Prop :=
  ∃ pieces, List.Forall₂ Piece.Respells (cut first) pieces ∧ pieces.flatMap Piece.source = second

/-- A name keeps its length, and its characters stay name characters. -/
theorem Piece.FitsBefore.of_respells {later : List Char} (respells : piece.Respells other)
    (fits : piece.FitsBefore rest) (sameHead : later.head? = rest.head?) :
    other.FitsBefore later := by
  cases respells with
  | literal character => exact fun dollar => sameHead ▸ fits dollar
  | dollarPair => trivial
  | @placeholder name spelled recased =>
    obtain ⟨nonempty, all, ends⟩ := fits
    refine ⟨?_, ?_, sameHead ▸ ends⟩
    · rintro rfl
      exact nonempty (List.forall₂_nil_right_iff.mp recased)
    · clear nonempty ends
      induction recased with
      | nil => exact all
      | cons same _ ih =>
        obtain ⟨here, others⟩ := List.forall_mem_cons.mp all
        exact List.forall_mem_cons.mpr ⟨here.of_sameLetter same, ih others⟩

/-- A piece starts with the same character in either case. -/
theorem Piece.Respells.head?_source_append (respells : piece.Respells other)
    (rest later : List Char) : (other.source ++ later).head? = (piece.source ++ rest).head? := by
  cases respells <;> rfl

theorem head?_flatMap_source (same : List.Forall₂ Piece.Respells pieces others) :
    (others.flatMap Piece.source).head? = (pieces.flatMap Piece.source).head? := by
  cases same with
  | nil => rfl
  | cons respells _ => exact respells.head?_source_append _ _

/-- Names in another case are cut at the same places. -/
theorem Cuts.of_respells (cuts : Cuts template pieces)
    (same : List.Forall₂ Piece.Respells pieces others) :
    Cuts (others.flatMap Piece.source) others := by
  induction cuts generalizing others with
  | nil =>
    obtain rfl := List.forall₂_nil_left_iff.mp same
    exact .nil
  | cons fits cuts ih =>
    cases same with
    | cons respells rest =>
      have sameHead := head?_flatMap_source rest
      rw [cuts.flatMap_source] at sameHead
      exact .cons (fits.of_respells respells sameHead) (ih rest)

theorem Respells.forall₂_cut {second : List Char} (respells : Respells first second) :
    List.Forall₂ Piece.Respells (cut first) (cut second) := by
  obtain ⟨pieces, same, rfl⟩ := respells
  rwa [← ((cuts_cut first).of_respells same).eq_cut]

end Template

/-- Each template of the second catalog is that of the first with letters of its placeholder names in
another case. -/
def Catalog.Respells (first second : Catalog) : Prop :=
  ∀ id, Option.Rel (fun template other : String => Template.Respells template.toList other.toList)
    (first.template? id) (second.template? id)

/-- Entries in another case, one by one, make a catalog in another case. -/
theorem Catalog.respells_ofEntries {entries others : List (UInt32 × String)}
    (same : List.Forall₂ (fun entry other : UInt32 × String =>
      entry.1 = other.1 ∧ Template.Respells entry.2.toList other.2.toList) entries others) :
    (ofEntries entries).Respells (ofEntries others) := by
  intro id
  rw [template?, template?, ofEntries, ofEntries, SortedMap.get?_ofList, SortedMap.get?_ofList]
  -- the last entry of a number decides, so both lists are read from their ends
  have reversed := List.rel_reverse same
  generalize entries.reverse = fromEnd, others.reverse = otherFromEnd at reversed
  induction reversed with
  | nil => exact .none
  | @cons entry other _ _ sameEntry _ ih =>
    rw [List.lookup_cons, List.lookup_cons, ← sameEntry.1]
    cases id == entry.1 with
    | false => exact ih
    | true => exact .some sameEntry.2

namespace Rendering

/-- The texts are the same, and the same kinds of events are reported in the same order. -/
structure Alike (one other : Rendering) : Prop where
  text : other.text = one.text
  messages : other.events.map Event.message = one.events.map Event.message

theorem alike_join {parts others : List Rendering} (alike : List.Forall₂ Alike parts others) :
    Alike (.join parts) (.join others) := by
  induction alike with
  | nil => exact ⟨rfl, rfl⟩
  | @cons part other rest others here _ ih =>
    have texts : String.join (others.map Rendering.text) = String.join (rest.map Rendering.text) :=
      ih.text
    have messages : (others.flatMap events).map Event.message =
        (rest.flatMap events).map Event.message := ih.messages
    constructor
    · simp only [join, List.map_cons, String.join_cons, here.text, texts]
    · simp only [join, List.flatMap_cons, List.map_append, here.messages, messages]

end Rendering

namespace Formatter

open Template Diagnostic

variable {names : TokenNames} {first second : Catalog} {arguments : Arguments}
variable {piece other : Piece}

/-- A placeholder in another case asks for the same argument. -/
theorem alike_renderPiece (respells : piece.Respells other) :
    Rendering.Alike (renderPiece ⟨first, names⟩ arguments piece)
      (renderPiece ⟨second, names⟩ arguments other) := by
  cases respells with
  | literal character => exact ⟨rfl, rfl⟩
  | dollarPair => exact ⟨rfl, rfl⟩
  | placeholder recased =>
    rw [renderPiece, renderPiece, recased_iff_foldCase.mp recased]
    split <;> exact ⟨rfl, rfl⟩

theorem alike_formatMessage (respells : first.Respells second) (diagnostic : Diagnostic) :
    Rendering.Alike (formatMessage ⟨first, names⟩ diagnostic)
      (formatMessage ⟨second, names⟩ diagnostic) := by
  have templates := respells diagnostic.id
  simp only [formatMessage, renderTemplate, resolve]
  generalize first.template? diagnostic.id = one, second.template? diagnostic.id = two at templates
  cases templates with
  | none => exact ⟨rfl, rfl⟩
  | @some template other same =>
    have pieces : List.Forall₂ Rendering.Alike
        ((cut template.toList).map (renderPiece ⟨first, names⟩ diagnostic.arguments))
        ((cut other.toList).map (renderPiece ⟨second, names⟩ diagnostic.arguments)) := by
      rw [List.forall₂_map_left_iff, List.forall₂_map_right_iff]
      exact same.forall₂_cut.imp fun _ _ => alike_renderPiece
    have resolved := Rendering.alike_join pieces
    exact ⟨resolved.text, resolved.messages⟩

/-- Neither the case of the names that arguments are given under nor that of the placeholders makes a
difference to the message, or to what is reported. A placeholder finds the last argument given under
its name in some case, so only one in whose name each character outside ASCII has the same place. -/
theorem formatMessage_respelled (names : TokenNames) (respells : first.Respells second)
    {diagnostic : Diagnostic} (fresh : diagnostic.arguments = .empty)
    {calls others : List Given} (same : List.Forall₂ Given.IsRecased calls others) :
    Rendering.Alike (formatMessage ⟨first, names⟩ (diagnostic.withArguments calls))
        (formatMessage ⟨second, names⟩ (diagnostic.withArguments others)) ∧
      ∀ name : String,
        ((∀ call ∈ calls, ¬ call.Meets name) ∧
          renderPiece ⟨first, names⟩ (diagnostic.withArguments calls).arguments
            (.placeholder name.toList) = .ofMiss (.missingArgument name)) ∨
        ∃ before call after, calls = before ++ call :: after ∧
          call.Meets name ∧ (∀ later ∈ after, ¬ later.Meets name) ∧
          (∀ (place : Nat) (character : Char), 0x80 ≤ character.toNat →
            (call.1.toList[place]? = some character ↔ name.toList[place]? = some character)) ∧
          renderPiece ⟨first, names⟩ (diagnostic.withArguments calls).arguments
            (.placeholder name.toList) = renderArgument ⟨first, names⟩ call.2 := by
  constructor
  · rw [← Diagnostic.withArguments_eq_of_isRecased same]
    exact alike_formatMessage respells _
  · intro name
    rw [renderPiece, String.ofList_toList]
    rcases Diagnostic.argument?_withArguments fresh calls name with
      ⟨none, missed⟩ | ⟨before, call, after, split, meets, latest, found⟩
    · rw [Diagnostic.argument?] at missed
      exact .inl ⟨none, by rw [missed]⟩
    · rw [Diagnostic.argument?] at found
      exact .inr ⟨before, call, after, split, meets, latest,
        fun place _ => meets.getElem?_iff place, by rw [found]⟩

/-- Two names that only the Kelvin sign tells apart, although its lower case is a letter of ASCII. -/
def kelvinCalls : List Given :=
  [("Foo", .text "x"), ("\u212aey", .text "k"), ("key", .text "n")]

theorem formatMessage_respelled_kelvinSign :
    let written : Catalog := .ofEntries [(7, "$Foo$$a $\u212aey $mISS")]
    let respelled : Catalog := .ofEntries [(7, "$fOO$$a $\u212aEY $Miss")]
    let bare : Diagnostic := ⟨7, ⟨.ofContent "/a" "", ⟨1, 0⟩⟩, .error, .parsing, .empty⟩
    (formatMessage ⟨respelled, .standard⟩ (bare.withArguments
        [("fOO", .text "x"), ("\u212aEy", .text "k"), ("KEY", .text "n")])).text =
          "x$a k undefined" ∧
      ∃ call ∈ kelvinCalls, call.1.toList[0]? = some '\u212a' ∧
        renderPiece ⟨written, .standard⟩ (bare.withArguments kelvinCalls).arguments
          (.placeholder "\u212aEY".toList) = renderArgument ⟨written, .standard⟩ call.2 := by
  intro written respelled bare
  have template : Template.Respells "$Foo$$a $\u212aey $mISS".toList "$fOO$$a $\u212aEY $Miss".toList := by
    refine ⟨cut "$fOO$$a $\u212aEY $Miss".toList, ?_, by decide +kernel⟩
    have cutWritten : cut "$Foo$$a $\u212aey $mISS".toList =
        [.placeholder "Foo".toList, .dollarPair, .literal 'a', .literal ' ',
          .placeholder "\u212aey".toList, .literal ' ', .placeholder "mISS".toList] := by
      decide +kernel
    have cutRespelled : cut "$fOO$$a $\u212aEY $Miss".toList =
        [.placeholder "fOO".toList, .dollarPair, .literal 'a', .literal ' ',
          .placeholder "\u212aEY".toList, .literal ' ', .placeholder "Miss".toList] := by
      decide +kernel
    rw [cutWritten, cutRespelled]
    exact .cons (.placeholder (by decide)) <| .cons .dollarPair <| .cons (.literal 'a') <|
      .cons (.literal ' ') <| .cons (.placeholder (by decide)) <| .cons (.literal ' ') <|
      .cons (.placeholder (by decide)) .nil
  have respells : written.Respells respelled :=
    Catalog.respells_ofEntries (.cons ⟨rfl, template⟩ .nil)
  have calls : List.Forall₂ Given.IsRecased kelvinCalls
      [("fOO", .text "x"), ("\u212aEy", .text "k"), ("KEY", .text "n")] :=
    .cons ⟨by decide, rfl⟩ <| .cons ⟨by decide, rfl⟩ <| .cons ⟨by decide, rfl⟩ .nil
  have fresh : bare.arguments = .empty := rfl
  obtain ⟨alike, finds⟩ := formatMessage_respelled .standard respells fresh calls
  refine ⟨alike.text.trans (by decide +kernel), ?_⟩
  rcases finds "\u212aEY" with ⟨none, -⟩ | ⟨before, call, after, split, -, -, places, shown⟩
  · exact absurd (by decide) (none ("\u212aey", .text "k") (by decide))
  · exact ⟨call, split ▸ by simp, (places 0 '\u212a' (by decide)).mpr (by decide), shown⟩

end Formatter

end DiagnosticReplay
