import DiagnosticReplay.Proofs.Json.NumberValue
import DiagnosticReplay.Proofs.Record.NumberFields
import DiagnosticReplay.Proofs.Replay.Faults
import DiagnosticReplay.Proofs.Replay.Rewriting

/-! # Numbers are loaded exactly or refused

A number of a record comes into the diagnostic as it is written: only a row of digits is loaded, and
only if the field can hold what it denotes. Any other number is refused, and the error tells an
integer of 64 bits, a floating point number and a number too large for one apart. Numbers close to
the least that is too large can be taken for either, as scaling them rounds more than once.
-/

namespace DiagnosticReplay

open Json Record Decimal Binary64

/-- The number that stands in a diagnostic for the field of its record. -/
def Record.NumberField.ofDiagnostic (field : NumberField) (diagnostic : Diagnostic) : UInt32 :=
  match field with
  | id => diagnostic.id
  | line => diagnostic.span.position.line
  | column => diagnostic.span.position.column

namespace Replay

/-- The number of a token comes into one of the diagnostics exactly, or it is refused. -/
structure TakesNumber (field : NumberField) (index : Nat) (literal : NumberLiteral)
    (token : List Char) (origin : String) (result : Load Loaded) : Prop where
  loads : ∀ value : UInt32,
    (∃ loaded diagnostic, result = .ok loaded ∧
      loaded.collection.diagnostics[index]? = some diagnostic ∧
      field.ofDiagnostic diagnostic = value) ↔ IsNumeral token value.toNat
  refuses : (∀ value : UInt32, ¬IsNumeral token value.toNat) →
    ∃ error, result = .error (.invalid origin error) ∧ RefusesNumber literal token error

section Records

variable {origin : String} {field : NumberField} {value : UInt32} {record : Entry}

theorem isSound_set (sound : record.IsSound) : (field.set value record).IsSound := by
  cases field <;> exact ⟨sound.distinct, sound.operators⟩

/-- The number of a field is loaded as it is. -/
theorem ofDiagnostic_of_loadsAs {diagnostic : Diagnostic}
    (loadsAs : LoadsAs origin (field.set value record) diagnostic) :
    field.ofDiagnostic diagnostic = value := by
  obtain ⟨number, isLoaded⟩ := loadsAs
  rw [loadEntry_keeps isLoaded]
  cases field <;> rfl

/-- If a document could be loaded, it can be with another number in a field. -/
theorem exists_loadText_of_set (origin : String) {before after : List Entry} {text : String}
    (sound : ∀ entry ∈ before ++ record :: after, entry.IsSound)
    (isRead : ofText text = .ok (before ++ field.set value record :: after)) :
    ∃ loaded diagnostic, loadText origin text = .ok loaded ∧
      loaded.collection.diagnostics[before.length]? = some diagnostic ∧
      field.ofDiagnostic diagnostic = value := by
  rw [List.forall_mem_append, List.forall_mem_cons] at sound
  obtain ⟨earlier, this, later⟩ := sound
  have soundAnew : ∀ entry ∈ before ++ field.set value record :: after, entry.IsSound :=
    List.forall_mem_append.mpr ⟨earlier, List.forall_mem_cons.mpr ⟨isSound_set this, later⟩⟩
  obtain ⟨loaded, isLoaded⟩ : ∃ loaded, loadText origin text = .ok loaded := by
    rw [exists_loadText_eq_ok_iff isRead]
    exact fun entry member => exists_loadRecord_eq_ok_iff.mpr (soundAnew entry member)
  obtain ⟨entries, same, each⟩ := loadText_eq_ok isLoaded
  obtain rfl := Except.ok.inj (isRead.symm.trans same)
  have within : before.length < loaded.collection.diagnostics.length := by
    rw [← each.length_eq, List.length_append, List.length_cons]
    omega
  have isDiagnostic := List.getElem?_eq_getElem within
  have isRecord : (before ++ field.set value record :: after)[before.length]? =
      some (field.set value record) := by simp
  have loadsAs := related_of_forall₂ each isRecord isDiagnostic
  exact ⟨loaded, _, isLoaded, isDiagnostic, ofDiagnostic_of_loadsAs loadsAs⟩

end Records

section Verdicts

variable {field : NumberField} {index : Nat} {literal : NumberLiteral} {token : List Char}
  {origin : String}

theorem TakesNumber.of_loaded {value : UInt32} {loaded : Loaded} {diagnostic : Diagnostic}
    (only : ∀ other : UInt32, IsNumeral token other.toNat ↔ value = other)
    (isDiagnostic : loaded.collection.diagnostics[index]? = some diagnostic)
    (holds : field.ofDiagnostic diagnostic = value) :
    TakesNumber field index literal token origin (.ok loaded) where
  loads := by
    intro other
    rw [only]
    constructor
    · rintro ⟨again, sameDiagnostic, sameLoaded, isSame, rfl⟩
      obtain rfl := Except.ok.inj sameLoaded
      obtain rfl := Option.some.inj (isDiagnostic.symm.trans isSame)
      exact holds.symm
    · rintro rfl
      exact ⟨loaded, diagnostic, rfl, isDiagnostic, holds⟩
  refuses := fun none => absurd ((only value).mpr rfl) (none value)

theorem TakesNumber.of_refused {error : ReadError}
    (none : ∀ value : UInt32, ¬IsNumeral token value.toNat)
    (refuses : RefusesNumber literal token error) :
    TakesNumber field index literal token origin (.error (.invalid origin error)) where
  loads := by
    intro value
    constructor
    · rintro ⟨loaded, diagnostic, isOk, -⟩
      cases isOk
    · exact fun numeral => absurd numeral (none value)
  refuses := fun _ => ⟨error, rfl, refuses⟩

end Verdicts

/-- If a document is loaded, then it takes every number in place of a number of one of its
records. -/
theorem loadText_takesNumber (origin : String) {field : NumberField} {index : Nat} {held node
    changed : Node} {literal : NumberLiteral} {token : List Char} {sample text : String}
    {loaded : Loaded} (spelled : literal.Spells token)
    (replaces : ReplacesNumber field index held (.number literal) node changed)
    (spelledSample : node.Spells sample.toList) (spelledText : changed.Spells text.toList)
    (isLoaded : loadText origin sample = .ok loaded) :
    TakesNumber field index literal token origin (loadText origin text) := by
  obtain ⟨entries, isRead, each⟩ := loadText_eq_ok isLoaded
  have sound : ∀ entry ∈ entries, entry.IsSound := fun entry member =>
    exists_loadRecord_eq_ok_iff.mp
      ((exists_loadText_eq_ok_iff isRead).mp ⟨loaded, isLoaded⟩ entry member)
  obtain ⟨before, record, after, rfl, rfl, isReadAnew⟩ :=
    ofText_replaced replaces spelledSample spelledText isRead
  have isNumeral (value : UInt32) :
      (Node.number literal).readUInt32 = .ok value ↔ IsNumeral token value.toNat :=
    Node.readUInt32_eq_ok_iff spelled
  cases isNumber : (Node.number literal).readUInt32 with
  | ok value =>
    rw [isNumber] at isReadAnew
    obtain ⟨reloaded, diagnostic, isReloaded, isDiagnostic, holds⟩ :=
      exists_loadText_of_set origin sound isReadAnew
    rw [isReloaded]
    refine .of_loaded (fun other => ?_) isDiagnostic holds
    rw [← isNumeral, isNumber, Except.ok.injEq]
  | error error =>
    rw [isNumber] at isReadAnew
    have refused : loadText origin text = .error (.invalid origin error) := by
      rw [loadText, isReadAnew]
      rfl
    rw [refused]
    refine .of_refused (fun value => ?_) (Node.refusesNumber_of_readUInt32 spelled isNumber)
    rw [← isNumeral, isNumber]
    intro isOk
    cases isOk

section Lines

/-- A document with one record, whose line is a number. -/
def lineDocument (line : NumberLiteral) : Node :=
  .map (membersOf [("diagnostics", .list (.item (.map (membersOf [("id", .number (.ofNat 0)),
    ("filePath", sampleText "/a"), ("line", .number line), ("column", .number (.ofNat 0))]))
    .closed))])

/-- The line of a document is replaced. -/
theorem replacesNumber_lineDocument (held line : NumberLiteral) :
    ReplacesNumber .line 0 (.number held) (.number line) (lineDocument held)
      (lineDocument line) := by
  refine .within (.map (.here (denotes_unescaped _))) (.list .here) (.map ?_)
  exact .later (.later (.here (denotes_unescaped _)))

def firstLineText : String :=
  "\x7b\"diagnostics\":[\x7b\"id\":0,\"filePath\":\"/a\",\"line\":1,\"column\":0\x7d]\x7d"

def longLineText : String :=
  "\x7b\"diagnostics\":[\x7b\"id\":0,\"filePath\":\"/a\",\"line\":4294967296,\"column\":0\x7d]\x7d"

set_option maxRecDepth 4000 in
/-- The least integer that the field cannot hold is refused. -/
theorem loadText_takesNumber_longLine :
    loadText "d.json" longLineText =
      .error (.invalid "d.json" (.mismatch (.wrongInteger 4294967296 .uint32))) := by
  have spelled : NumberLiteral.Spells (.ofNat 4294967296) (Nat.toDigits 10 4294967296) :=
    .plain rfl (NumberLiteral.spellsUnsigned_ofNat _)
  have spelledFirst : (lineDocument (.ofNat 1)).Spells firstLineText.toList :=
    Node.spells_iff.mpr ⟨ofText_of_spelled rfl (by with_unfolding_all rfl), rfl⟩
  have spelledLong : (lineDocument (.ofNat 4294967296)).Spells longLineText.toList :=
    Node.spells_iff.mpr ⟨ofText_of_spelled rfl (by with_unfolding_all rfl), rfl⟩
  have one : (loadText "d.json" firstLineText).map (·.collection.size) = .ok 1 := by
    decide +kernel
  obtain ⟨loaded, isLoaded, -⟩ := Result.map_eq_ok_iff.mp one
  have numeral : IsNumeral (Nat.toDigits 10 4294967296) 4294967296 :=
    ⟨(NumberLiteral.whole_toDigits _).toDigits, Nat.ofDigitChars_ten_toDigits⟩
  obtain ⟨error, refused, reason⟩ := (loadText_takesNumber "d.json" spelled
    (replacesNumber_lineDocument _ _) spelledFirst spelledLong isLoaded).refuses (by
      intro value held
      have same := held.denotes.symm.trans numeral.denotes
      have small := value.toNat_lt
      omega)
  rw [refused, reason.wrongInteger 4294967296 (.plain numeral) (by rw [IsLong]; omega)]

/-- The greatest floating point number. -/
def greatestNumber : Binary64 :=
  ⟨significandLimit - 1, greatestExponent⟩

/-- A number not greater than the greatest floating point number. -/
def smallLine : NumberLiteral :=
  ⟨false, "17976931348623156225".toList, none, some ⟨false, "289".toList⟩⟩

/-- A number greater than all that are rounded to a floating point number. -/
def largeLine : NumberLiteral :=
  ⟨false, "179769313486231599".toList, none, some ⟨false, "291".toList⟩⟩

def smallLineText : String :=
  "\x7b\"diagnostics\":[\x7b\"id\":0,\"filePath\":\"/a\",\"line\":17976931348623156225e289,\"column\":0\x7d]\x7d"

def largeLineText : String :=
  "\x7b\"diagnostics\":[\x7b\"id\":0,\"filePath\":\"/a\",\"line\":179769313486231599e291,\"column\":0\x7d]\x7d"

theorem magnitude_of_exponent {whole : List Char} {exponent : ExponentLiteral} {power : Nat}
    (isPower : NumberLiteral.exponentValue exponent = power) :
    (NumberLiteral.mk false whole none (some exponent)).magnitude =
      (Nat.ofDigitChars 10 whole 0 * 10 ^ power : Nat) := by
  rw [NumberLiteral.magnitude, Option.getD_none, List.append_nil, Option.map_some, Option.getD_some,
    isPower, List.length_nil, Nat.cast_zero, sub_zero, zpow_natCast, Nat.cast_mul, Nat.cast_pow]
  rfl

theorem smallLine_magnitude_le : smallLine.magnitude ≤ greatestNumber.value := by
  have isPower : NumberLiteral.exponentValue ⟨false, "289".toList⟩ = (289 : Nat) := by decide
  have most : greatestNumber.value = ((significandLimit - 1) * 2 ^ 971 : Nat) := by
    rw [Nat.cast_mul, Nat.cast_pow]
    rfl
  have natural : Nat.ofDigitChars 10 "17976931348623156225".toList 0 * 10 ^ 289 ≤
      (significandLimit - 1) * 2 ^ 971 := by decide +kernel
  rw [smallLine, magnitude_of_exponent isPower, most]
  exact Nat.cast_le.mpr natural

theorem le_largeLine_magnitude : magnitudeLimit ≤ largeLine.magnitude := by
  have isPower : NumberLiteral.exponentValue ⟨false, "291".toList⟩ = (291 : Nat) := by decide
  have least : magnitudeLimit = (2 ^ 1024 : Nat) := by
    rw [magnitudeLimit, Nat.cast_pow]
    rfl
  have natural : 2 ^ 1024 ≤ Nat.ofDigitChars 10 "179769313486231599".toList 0 * 10 ^ 291 := by
    decide +kernel
  rw [largeLine, magnitude_of_exponent isPower, least]
  exact Nat.cast_le.mpr natural

set_option maxRecDepth 4000 in
/-- Scaling rounds a number that is not too large up to one that is, and another down. -/
theorem loadText_nearLimit :
    (lineDocument smallLine).Spells smallLineText.toList ∧
    smallLine.magnitude ≤ greatestNumber.value ∧
    loadText "test.json" smallLineText = .error (.invalid "test.json" (.fault .malformed)) ∧
    (lineDocument largeLine).Spells largeLineText.toList ∧
    magnitudeLimit ≤ largeLine.magnitude ∧
    ∃ magnitude, loadText "test.json" largeLineText = .error (.invalid "test.json"
      (.mismatch (.wrongType (.number (.floating false magnitude)) .uint32))) := by
  have spelledSmall : (lineDocument smallLine).Spells smallLineText.toList :=
    Node.spells_iff.mpr ⟨ofText_of_spelled rfl (by with_unfolding_all rfl), rfl⟩
  have spelledLarge : (lineDocument largeLine).Spells largeLineText.toList :=
    Node.spells_iff.mpr ⟨ofText_of_spelled rfl (by with_unfolding_all rfl), rfl⟩
  have small : Result.failure? (loadText "test.json" smallLineText) =
      some (.invalid "test.json" (.fault .malformed)) := by decide +kernel
  have large : Result.failure? (loadText "test.json" largeLineText) =
      some (.invalid "test.json" (.mismatch
        (.wrongType (.number (.floating false greatestNumber)) .uint32))) := by
    decide +kernel
  exact ⟨spelledSmall, smallLine_magnitude_le, Result.failure?_eq_some_iff.mp small, spelledLarge,
    le_largeLine_magnitude, greatestNumber, Result.failure?_eq_some_iff.mp large⟩

end Lines

end Replay

end DiagnosticReplay
