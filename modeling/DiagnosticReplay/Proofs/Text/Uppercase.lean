import DiagnosticReplay.Text.Uppercase
import Mathlib.Data.List.Nodup
import Mathlib.Data.List.Pairwise

/-! # Capital letters

A table lists each character at most once and every shift leads to a character, so a character has one
upper case. An upper case of a single code point has no other upper case of a single code point,
as no run covers where another one leads to. What follows for a text is that its capital settles at
once, and that nothing of it changes but the first character, where that has a single code point for
its upper case.
-/

namespace DiagnosticReplay.Text

/-- The tables give the character the upper case `upper`: the longer one that is listed for it, or else
the code point that its run leads to, or else the character itself. -/
inductive IsUpperCase (character : Char) : List Char → Prop where
  | expanded {upper : List Char} (listed : (character, upper) ∈ expansions) :
      IsUpperCase character upper
  | shifted {run : CaseRun} {upper : Char} (unlisted : ∀ longer, (character, longer) ∉ expansions)
      (member : run ∈ caseRuns) (covers : run.covers character.toNat)
      (leads : (upper.toNat : Int) = character.toNat + run.shift) : IsUpperCase character [upper]
  | own (unlisted : ∀ longer, (character, longer) ∉ expansions)
      (uncovered : ∀ run ∈ caseRuns, ¬run.covers character.toNat) :
      IsUpperCase character [character]

namespace CaseRun

/-- The first code point that the run leads to. -/
def leadsFrom (run : CaseRun) : Nat := (run.first + run.shift).toNat

/-- The last code point that the run leads to. -/
def leadsTo (run : CaseRun) : Nat := (run.last + run.shift).toNat

/-- The code points that the run leads to are characters. -/
def Lands (run : CaseRun) : Prop :=
  0 ≤ run.first + run.shift ∧
    (run.leadsTo < 0xd800 ∨ 0xdfff < run.leadsFrom ∧ run.leadsTo < 0x110000)

/-- The later run starts past the end of the run. -/
def Precedes (run later : CaseRun) : Prop :=
  run.last < later.first ∧ later.first ≤ later.last

/-- One of the two runs starts past the end of the other. -/
def Apart (run other : CaseRun) : Prop :=
  run.last < other.first ∨ other.last < run.first

/-- What the run leads to and what the other covers are of different parity. -/
def isBetween (run other : CaseRun) : Bool :=
  (run.stride.beq 2 || run.first.beq run.last) && other.stride.beq 2 &&
    ((run.leadsFrom + other.first) % 2).beq 1

/-- Where the run leads to the range of the other, it leads to the places between those that the other
covers. The check is made for every two runs, so it compares as the kernel does. -/
def avoids (run other : CaseRun) : Bool :=
  bif other.first.ble run.leadsTo then !run.leadsFrom.ble other.last || run.isBetween other else true

instance : DecidablePred Lands :=
  fun _ => inferInstanceAs (Decidable (_ ∧ _))

instance : DecidableRel Precedes :=
  fun _ _ => inferInstanceAs (Decidable (_ ∧ _))

instance : IsTrans CaseRun Precedes :=
  ⟨fun _ _ _ ⟨before, starts⟩ ⟨after, later⟩ => ⟨by omega, later⟩⟩

instance : Std.Symm Apart :=
  ⟨fun _ _ => Or.symm⟩

@[simp] theorem covers_iff {run : CaseRun} {code : Nat} :
    run.covers code = true ↔
      run.first ≤ code ∧ code ≤ run.last ∧ (code - run.first) % run.stride = 0 := by
  simp [covers, and_assoc]

variable {run other : CaseRun} {code shown : Nat}

/-- A run leads from each place that it covers to a character. -/
theorem Lands.isValidChar (lands : run.Lands) (covers : run.covers code) :
    (code + run.shift).toNat.isValidChar ∧ ((code + run.shift).toNat : Int) = code + run.shift := by
  obtain ⟨above, below, -⟩ := covers_iff.mp covers
  obtain ⟨least, range⟩ := lands
  simp only [leadsFrom, leadsTo] at range
  refine ⟨?_, by omega⟩
  rw [Nat.isValidChar]
  omega

/-- Where a run leads to, the runs that it avoids cover nothing. -/
theorem Lands.not_covers (lands : run.Lands) (avoids : run.avoids other) (covers : run.covers code)
    (leads : (shown : Int) = code + run.shift) : ¬other.covers shown := by
  rw [covers_iff] at covers ⊢
  obtain ⟨above, below, inStep⟩ := covers
  have least := lands.1
  rintro ⟨aboveOther, belowOther, inStepOther⟩
  have reaches : other.first ≤ run.leadsTo := by rw [leadsTo]; omega
  have starts : run.leadsFrom ≤ other.last := by rw [leadsFrom]; omega
  rw [CaseRun.avoids, Nat.ble_eq_true_of_le reaches, Nat.ble_eq_true_of_le starts] at avoids
  simp only [cond_true, Bool.not_true, Bool.false_or, isBetween, Bool.or_eq_true, Bool.and_eq_true,
    Nat.beq_eq, leadsFrom] at avoids
  obtain ⟨⟨steps | only, stepsOther⟩, between⟩ := avoids
  · rw [steps] at inStep
    rw [stepsOther] at inStepOther
    omega
  · rw [stepsOther] at inStepOther
    omega

end CaseRun

section Table

open CaseRun

theorem isChain_caseRuns : caseRuns.IsChain Precedes := by
  decide +kernel

theorem lands_caseRuns : ∀ run ∈ caseRuns, run.Lands := by
  decide +kernel

theorem avoids_caseRuns : caseRuns.all fun run => caseRuns.all run.avoids := by
  decide +kernel

theorem isChain_expansions : (expansions.map Prod.fst).IsChain (· < ·) := by
  decide +kernel

theorem length_of_expansions : ∀ listed ∈ expansions, 1 < listed.2.length := by
  decide +kernel

/-- At most one run covers a code point. -/
theorem eq_of_covers {run other : CaseRun} {code : Nat} (member : run ∈ caseRuns)
    (memberOther : other ∈ caseRuns) (covers : run.covers code) (coversOther : other.covers code) :
    run = other := by
  have apart : caseRuns.Pairwise Apart :=
    (List.isChain_iff_pairwise.mp isChain_caseRuns).imp fun precedes => .inl precedes.1
  by_contra differ
  obtain ⟨above, below, -⟩ := covers_iff.mp covers
  obtain ⟨aboveOther, belowOther, -⟩ := covers_iff.mp coversOther
  rcases apart.forall member memberOther differ with before | after <;> omega

/-- At most one expansion is listed for a character. -/
theorem eq_of_expanded {character : Char} {upper other : List Char}
    (listed : (character, upper) ∈ expansions) (listedOther : (character, other) ∈ expansions) :
    upper = other := by
  have distinct : (expansions.map Prod.fst).Nodup :=
    (List.isChain_iff_pairwise.mp isChain_expansions).imp Char.ne_of_lt
  exact congrArg Prod.snd (List.inj_on_of_nodup_map distinct listed listedOther rfl)

end Table

section Character

variable {character shown : Char} {upper other : List Char}

/-- What the tables give is found in them. -/
theorem isUpperCase_upperCase (character : Char) : IsUpperCase character (upperCase character) := by
  rw [upperCase]
  cases listed : expansions.lookup character with
  | some upper =>
    obtain ⟨before, after, same, -⟩ := List.lookup_eq_some_iff.mp listed
    exact .expanded (same ▸ List.mem_append_cons_self)
  | none =>
    have unlisted (longer : List Char) : (character, longer) ∉ expansions := fun member => by
      simpa using List.lookup_eq_none_iff.mp listed _ member
    cases found : caseRuns.find? (·.covers character.toNat) with
    | none => exact .own unlisted (List.find?_eq_none.mp found)
    | some run =>
      have member := List.mem_of_find?_eq_some found
      have covers : run.covers character.toNat := by simpa using List.find?_some found
      obtain ⟨valid, leads⟩ := (lands_caseRuns run member).isValidChar covers
      have lands : (Char.ofNat (character.toNat + run.shift).toNat).toNat =
          (character.toNat + run.shift).toNat := by
        rw [Char.ofNat, dif_pos valid]
        rfl
      exact .shifted unlisted member covers (by rw [lands, leads])

/-- A character has one upper case at most. -/
theorem IsUpperCase.unique (first : IsUpperCase character upper)
    (second : IsUpperCase character other) : upper = other := by
  cases first with
  | expanded listed =>
    cases second with
    | expanded listedOther => exact eq_of_expanded listed listedOther
    | shifted unlisted => exact absurd listed (unlisted _)
    | own unlisted => exact absurd listed (unlisted _)
  | shifted unlisted member covers leads =>
    cases second with
    | expanded listed => exact absurd listed (unlisted _)
    | shifted _ memberOther coversOther leadsOther =>
      obtain rfl := eq_of_covers member memberOther covers coversOther
      rw [Char.toNat_inj.mp (Int.ofNat_inj.mp (leads.trans leadsOther.symm))]
    | own _ uncovered => exact absurd covers (uncovered _ member)
  | own unlisted uncovered =>
    cases second with
    | expanded listed => exact absurd listed (unlisted _)
    | shifted _ member covers => exact absurd covers (uncovered _ member)
    | own => rfl

/-- Every character has one upper case. -/
theorem isUpperCase_iff : IsUpperCase character upper ↔ upper = upperCase character :=
  ⟨fun isUpper => isUpper.unique (isUpperCase_upperCase character),
    fun same => same ▸ isUpperCase_upperCase character⟩

theorem IsUpperCase.length_pos (isUpper : IsUpperCase character upper) : 0 < upper.length := by
  cases isUpper with
  | expanded listed => exact Nat.zero_lt_of_lt (length_of_expansions _ listed)
  | shifted => exact Nat.one_pos
  | own => exact Nat.one_pos

/-- An upper case of a single code point is its own upper case, or has a longer one. -/
theorem IsUpperCase.settles (isUpper : IsUpperCase character [shown])
    (above : IsUpperCase shown upper) : upper = [shown] ∨ 1 < upper.length := by
  cases above with
  | expanded listed => exact .inr (length_of_expansions _ listed)
  | own => exact .inl rfl
  | shifted _ member covers _ =>
    cases isUpper with
    | expanded listed => exact absurd (length_of_expansions _ listed) (Nat.lt_irrefl 1)
    | own _ uncovered => exact absurd covers (uncovered _ member)
    | shifted _ memberBelow coversBelow leads =>
      have avoids := List.all_eq_true.mp (List.all_eq_true.mp avoids_caseRuns _ memberBelow) _ member
      exact absurd covers ((lands_caseRuns _ memberBelow).not_covers avoids coversBelow leads)

/-- A character becomes its upper case if that is a single code point, and stays if there are more. -/
theorem capital_cases (character : Char) :
    upperCase character = [capital character] ∨
      1 < (upperCase character).length ∧ capital character = character := by
  have length := (isUpperCase_upperCase character).length_pos
  rw [capital]
  cases shown : upperCase character with
  | nil => simp [shown] at length
  | cons single rest =>
    cases rest with
    | nil => exact .inl rfl
    | cons second rest => exact .inr ⟨by simp, rfl⟩

@[simp] theorem capital_capital (character : Char) :
    capital (capital character) = capital character := by
  rcases capital_cases character with single | ⟨-, kept⟩
  · have settled := (isUpperCase_iff.mpr single.symm).settles (isUpperCase_upperCase _)
    rcases capital_cases (capital character) with again | ⟨-, kept⟩
    · rw [again] at settled
      simpa using settled
    · exact kept
  · rw [kept, kept]

end Character

section Capital

theorem toList_capitalize (text : String) :
    (capitalize text).toList = text.toList.modifyHead capital := by
  rw [capitalize]
  cases text.toList with
  | nil => rfl
  | cons first rest => rw [String.toList_ofList, List.modifyHead_cons]

/-- The capital of a text differs from it in the first character at most. That one has one upper case:
it becomes that if it is a single code point, and stays if it is more. The capital is its own
capital. -/
theorem capitalize_settles (text : String) :
    (text = "" ∧ capitalize text = "" ∨
      ∃ first shown rest upper, text.toList = first :: rest ∧
        (capitalize text).toList = shown :: rest ∧
        (∀ other, IsUpperCase first other ↔ other = upper) ∧
        (upper = [shown] ∨ 1 < upper.length ∧ shown = first)) ∧
      (capitalize text).length = text.length ∧
      capitalize (capitalize text) = capitalize text := by
  have shown := toList_capitalize text
  refine ⟨?_, ?_, ?_⟩
  · cases chars : text.toList with
    | nil =>
      rw [chars, List.modifyHead_nil] at shown
      exact .inl ⟨String.toList_eq_nil_iff.mp chars, String.toList_eq_nil_iff.mp shown⟩
    | cons first rest =>
      rw [chars, List.modifyHead_cons] at shown
      exact .inr ⟨first, capital first, rest, upperCase first, rfl, shown,
        fun _ => isUpperCase_iff, capital_cases first⟩
  · rw [← String.length_toList, ← String.length_toList, shown, List.length_modifyHead]
  · apply String.toList_inj.mp
    rw [toList_capitalize, shown, List.modifyHead_modifyHead]
    congr 1
    exact funext capital_capital

example : capitalize "ǆemal" = "Ǆemal" ∧ upperCase 'ß' = ['S', 'S'] ∧ capitalize "ßx" = "ßx" := by
  decide +kernel

end Capital

end DiagnosticReplay.Text
