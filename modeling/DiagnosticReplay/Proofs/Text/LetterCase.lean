import DiagnosticReplay.Text.Ascii
import Mathlib.Data.List.Forall2

/-! # Letters in either case

Folding knows the letters of ASCII alone. Two texts fold to one exactly if each is the other with some
of these letters in the other case, so a character outside ASCII stands in both at the same places.
-/

namespace DiagnosticReplay.Text

/-- The characters are the same, or the two cases of one ASCII letter. -/
def SameLetter (one other : Char) : Prop :=
  other = one ∨ other = one.toLower ∨ other = one.toUpper

/-- The second text is the first with some ASCII letters in another case. -/
def Recased (first second : List Char) : Prop :=
  List.Forall₂ SameLetter first second

instance : DecidableRel SameLetter :=
  fun one other => inferInstanceAs (Decidable (other = one ∨ _))

instance (first second : List Char) : Decidable (Recased first second) :=
  inferInstanceAs (Decidable (List.Forall₂ SameLetter first second))

section Characters

variable {character other one : Char}

/-- What holds of the characters of ASCII and of all others holds of every character. -/
theorem forall_of_ascii {Holds : Char → Prop} (ascii : ∀ code < 0x80, Holds (Char.ofNat code))
    (outside : ∀ character : Char, 0x80 ≤ character.toNat → Holds character) (character : Char) :
    Holds character := by
  rcases Nat.lt_or_ge character.toNat 0x80 with inside | beyond
  · exact Char.ofNat_toNat character ▸ ascii character.toNat inside
  · exact outside character beyond

theorem toLower_of_outside (outside : 0x80 ≤ character.toNat) : character.toLower = character := by
  refine dif_neg fun ⟨_, upper⟩ => ?_
  have code : character.toNat ≤ 90 := upper
  omega

theorem toUpper_of_outside (outside : 0x80 ≤ character.toNat) : character.toUpper = character := by
  refine dif_neg fun ⟨_, lower⟩ => ?_
  have code : character.toNat ≤ 122 := lower
  omega

/-- The two cases of a letter, and how each is reached from the other. -/
theorem letter_cases : ∀ character : Char,
    character.toLower.toLower = character.toLower ∧
      character.toUpper.toLower = character.toLower ∧
      character.toLower.toUpper = character.toUpper ∧
      (character = character.toLower ∨ character = character.toUpper) := by
  refine forall_of_ascii (by decide) fun character outside => ?_
  simp [toLower_of_outside outside, toUpper_of_outside outside]

theorem sameLetter_iff : SameLetter one other ↔ one.toLower = other.toLower := by
  obtain ⟨lowerLower, upperLower, lowerUpper, -⟩ := letter_cases one
  obtain ⟨-, -, otherUpper, cases⟩ := letter_cases other
  constructor
  · rintro (rfl | rfl | rfl)
    · rfl
    · exact lowerLower.symm
    · exact upperLower.symm
  · intro same
    rcases cases with isLower | isUpper
    · exact .inr (.inl (isLower.trans same.symm))
    · exact .inr (.inr (by rw [isUpper, ← otherUpper, ← same, lowerUpper]))

/-- No letter is folded to a character outside ASCII, and no such character is folded. -/
theorem toLower_eq_iff_of_outside (outside : 0x80 ≤ character.toNat) :
    other.toLower = character ↔ other = character := by
  have inside : ∀ code < 0x80, (Char.ofNat code).toLower.toNat < 0x80 := by decide
  rcases Nat.lt_or_ge other.toNat 0x80 with ascii | beyond
  · have folded := inside other.toNat ascii
    rw [Char.ofNat_toNat] at folded
    constructor
    · rintro rfl
      omega
    · rintro rfl
      omega
  · rw [toLower_of_outside beyond]

end Characters

section Texts

variable {first second : List Char}

theorem recased_iff_map : Recased first second ↔
    first.map Char.toLower = second.map Char.toLower := by
  have letters : Recased first second ↔
      List.Forall₂ (fun one other : Char => one.toLower = other.toLower) first second :=
    ⟨List.Forall₂.imp fun _ _ => sameLetter_iff.mp, List.Forall₂.imp fun _ _ => sameLetter_iff.mpr⟩
  rw [letters, ← List.forall₂_eq_eq_eq, List.forall₂_map_left_iff, List.forall₂_map_right_iff]

/-- Texts fold to one exactly if they differ in the case of ASCII letters alone. -/
theorem recased_iff_foldCase : Recased first second ↔
    foldCase (String.ofList first) = foldCase (String.ofList second) := by
  rw [recased_iff_map, foldCase, foldCase, String.ofList_inj, String.toList_ofList,
    String.toList_ofList]

theorem foldCase_eq_iff {one other : String} :
    foldCase one = foldCase other ↔ Recased one.toList other.toList := by
  rw [recased_iff_foldCase, String.ofList_toList, String.ofList_toList]

/-- A character outside ASCII stays where it is. -/
theorem Recased.getElem?_iff (recased : Recased first second) (place : Nat) {character : Char}
    (outside : 0x80 ≤ character.toNat) :
    first[place]? = some character ↔ second[place]? = some character := by
  have folded (text : List Char) : (text.map Char.toLower)[place]? = some character ↔
      text[place]? = some character := by
    rw [List.getElem?_map, Option.map_eq_some_iff]
    simp [toLower_eq_iff_of_outside outside]
  rw [← folded first, recased_iff_map.mp recased, folded second]

end Texts

end DiagnosticReplay.Text
