import DiagnosticReplay.Message.Template
import DiagnosticReplay.Proofs.Text.Run

/-! # The grammar of templates

A template is a row of pieces, each of which takes as much as it can: a name ends before a character
that could not stand in it, and a dollar sign stands for itself only where neither a second one nor
a name follows. `Cuts` says of any row of pieces whether it is a cut of a text. Every text has a
cut, and no text has two, so `cut` finds the only one.
-/

namespace DiagnosticReplay.Template

open Text

/-- The characters of a name, listed. -/
def NameCharacter (character : Char) : Prop :=
  ('a' ≤ character ∧ character ≤ 'z') ∨ ('A' ≤ character ∧ character ≤ 'Z') ∨
    ('0' ≤ character ∧ character ≤ '9') ∨ character ∈ ['_', '-', '\u017f', '\u212a']

theorem isNameChar_iff (character : Char) :
    isNameChar character = true ↔ NameCharacter character := by
  have ranges : character.isAlphanum =
      ((decide ('A' ≤ character ∧ character ≤ 'Z') ||
        decide ('a' ≤ character) && decide (character ≤ 'z')) ||
        decide ('0' ≤ character) && decide (character ≤ '9')) := rfl
  simp only [isNameChar, NameCharacter, ranges, Bool.or_eq_true, Bool.and_eq_true,
    decide_eq_true_eq, beq_iff_eq, List.mem_cons, List.not_mem_nil, or_false]
  grind

instance : DecidablePred NameCharacter :=
  fun character => decidable_of_iff _ (isNameChar_iff character)

/-- The piece goes as far as it can when the text comes after it. -/
def Piece.FitsBefore (rest : List Char) : Piece → Prop
  | literal character =>
    character = '$' → ∀ next ∈ rest.head?, next ≠ '$' ∧ ¬ NameCharacter next
  | dollarPair => True
  | placeholder name =>
    name ≠ [] ∧ (∀ character ∈ name, NameCharacter character) ∧
      ∀ next ∈ rest.head?, ¬ NameCharacter next

/-- The pieces are a cut of the text: one after the other, without gap or overlap, each as long as
it can be. -/
inductive Cuts : List Char → List Piece → Prop
  | nil : Cuts [] []
  | cons {piece : Piece} {rest : List Char} {pieces : List Piece} (fits : piece.FitsBefore rest)
      (cuts : Cuts rest pieces) : Cuts (piece.source ++ rest) (piece :: pieces)

/-- The pieces of a template hold what the template holds. -/
theorem Cuts.flatMap_source {text : List Char} {pieces : List Piece} (cuts : Cuts text pieces) :
    pieces.flatMap Piece.source = text := by
  induction cuts with
  | nil => rfl
  | cons _ _ ih => rw [List.flatMap_cons, ih]

private theorem endsRun_iff {rest : List Char} :
    EndsRun isNameChar rest ↔ ∀ next ∈ rest.head?, ¬ NameCharacter next := by
  simp only [EndsRun, ← isNameChar_iff, Bool.not_eq_true]

theorem not_nameCharacter_dollar : ¬ NameCharacter '$' := by
  rw [← isNameChar_iff]
  decide

private theorem cut_lone_dollar {rest : List Char}
    (alone : ∀ next ∈ rest.head?, next ≠ '$' ∧ ¬ NameCharacter next) :
    cut ('$' :: rest) = .literal '$' :: cut rest := by
  have noName : rest.takeWhile isNameChar = [] :=
    (endsRun_iff.mpr fun next first => (alone next first).2).takeWhile_eq_nil
  rw [cut]
  · simp only [noName]
  · rintro tail rfl
    exact (alone '$' rfl).1 rfl

private theorem cut_name {name rest : List Char} (nonempty : name ≠ [])
    (all : ∀ character ∈ name, NameCharacter character)
    (ends : ∀ next ∈ rest.head?, ¬ NameCharacter next) :
    cut ('$' :: (name ++ rest)) = .placeholder name :: cut rest := by
  have allTrue : ∀ character ∈ name, isNameChar character = true :=
    fun character member => (isNameChar_iff character).mpr (all character member)
  have taken := takeWhile_run allTrue (endsRun_iff.mpr ends)
  have dropped := dropWhile_run allTrue (endsRun_iff.mpr ends)
  obtain ⟨first, others, rfl⟩ := List.exists_cons_of_ne_nil nonempty
  rw [cut]
  · simp only [taken, dropped]
  · intro tail same
    have dollar : first = '$' := (List.cons.inj same).1
    exact not_nameCharacter_dollar (dollar ▸ all first (List.mem_cons_self ..))

/-- `cut` takes the piece that fits, and then goes on. -/
theorem cut_source_append {piece : Piece} {rest : List Char} (fits : piece.FitsBefore rest) :
    cut (piece.source ++ rest) = piece :: cut rest := by
  cases piece with
  | literal character =>
    by_cases dollar : character = '$'
    · subst dollar
      exact cut_lone_dollar (fits rfl)
    · rw [Piece.source, List.singleton_append, cut]
      · intro tail same
        exact absurd same dollar
      · exact dollar
  | dollarPair => rw [Piece.source, List.cons_append, List.singleton_append, cut]
  | placeholder name => exact cut_name fits.1 fits.2.1 fits.2.2

/-- A text has at most one cut. -/
theorem Cuts.eq_cut {text : List Char} {pieces : List Piece} (cuts : Cuts text pieces) :
    pieces = cut text := by
  induction cuts with
  | nil => simp [cut]
  | cons fits _ ih => rw [cut_source_append fits, ← ih]

/-- A text has a cut. -/
theorem cuts_cut (text : List Char) : Cuts text (cut text) := by
  fun_induction cut text with
  | case1 => exact .nil
  | case2 rest ih => exact @Cuts.cons .dollarPair rest _ trivial ih
  | case3 rest noPair noName ih =>
    refine @Cuts.cons (.literal '$') rest _ ?_ ih
    intro _ next first
    constructor
    · rintro rfl
      obtain ⟨tail, rfl⟩ := List.head?_eq_some_iff.mp first
      exact noPair tail rfl
    · intro nameCharacter
      obtain ⟨tail, rfl⟩ := List.head?_eq_some_iff.mp first
      simp [(isNameChar_iff next).mpr nameCharacter] at noName
  | case4 rest noPair nonempty ih =>
    have fits : (Piece.placeholder (rest.takeWhile isNameChar)).FitsBefore
        (rest.dropWhile isNameChar) :=
      ⟨nonempty,
        fun character member => (isNameChar_iff character).mp (List.mem_takeWhile_imp member),
        endsRun_iff.mp (endsRun_dropWhile isNameChar rest)⟩
    have cuts := Cuts.cons fits ih
    rwa [Piece.source, List.cons_append, List.takeWhile_append_dropWhile] at cuts
  | case5 character rest noPair notDollar ih =>
    exact @Cuts.cons (.literal character) rest _ (fun dollar => absurd dollar notDollar) ih

/-- The cuts of a text are `cut` and nothing else. -/
theorem cuts_iff {text : List Char} {pieces : List Piece} :
    Cuts text pieces ↔ pieces = cut text :=
  ⟨Cuts.eq_cut, fun same => same ▸ cuts_cut text⟩

end DiagnosticReplay.Template
