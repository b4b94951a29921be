import DiagnosticReplay.Location
import DiagnosticReplay.Proofs.Text.Split

/-! # Characters of a file URI

Segments are taken whole, cut short at a slash, or put behind one, so a URI is made of encoded
segments, of slashes, and of drives. `KeptByReading` lists what a property of texts must bear for
that, and then it holds of every URI. One such property is what all characters of a text have in
common: an encoded character is printable ASCII that need not be encoded, so no URI holds a blank.
-/

namespace DiagnosticReplay

namespace Text

namespace PercentEncoding

/-- A printable character of ASCII that stands in a path as it is. -/
def PathCharacter (character : Char) : Prop :=
  0x20 < character.toNat ∧ character.toNat < 0x7f ∧ character ∉ reserved

instance (character : Char) : Decidable (PathCharacter character) :=
  inferInstanceAs (Decidable (_ ∧ _ ∧ _))

theorem pathCharacter_upperHexDigit {value : Nat} (bound : value < 16) :
    PathCharacter (upperHexDigit value) := by
  decide +revert

/-- A byte that need not be encoded is a character of a path. -/
theorem pathCharacter_of_not_mustEncode {byte : UInt8} (asItIs : mustEncode byte = false) :
    PathCharacter (Char.ofNat byte.toNat) := by
  have printable : ∀ code < 0x7f, 0x20 ≤ code → Char.ofNat code ∉ reserved →
      PathCharacter (Char.ofNat code) := by decide
  simp only [mustEncode, Bool.or_eq_false_iff, decide_eq_false_iff_not, UInt8.lt_iff_toNat_lt,
    UInt8.le_iff_toNat_le, List.contains_eq_mem, Nat.not_lt, Nat.not_le] at asItIs
  obtain ⟨⟨low, high⟩, notReserved⟩ := asItIs
  exact printable byte.toNat high low notReserved

theorem pathCharacter_of_mem_encodeByte {byte : UInt8} {character : Char}
    (member : character ∈ encodeByte byte) : PathCharacter character := by
  have bound := byte.toNat_lt
  rw [encodeByte] at member
  split at member
  · simp only [List.mem_cons, List.not_mem_nil, or_false] at member
    rcases member with rfl | rfl | rfl
    · decide
    · exact pathCharacter_upperHexDigit (by omega)
    · exact pathCharacter_upperHexDigit (by omega)
  · rename_i asItIs
    obtain rfl := List.mem_singleton.mp member
    exact pathCharacter_of_not_mustEncode (Bool.eq_false_iff.mpr asItIs)

theorem pathCharacter_of_mem_encode {text : List Char} {character : Char}
    (member : character ∈ encode text) : PathCharacter character := by
  obtain ⟨source, _, inSource⟩ := List.mem_flatMap.mp member
  obtain ⟨byte, _, inByte⟩ := List.mem_flatMap.mp inSource
  exact pathCharacter_of_mem_encodeByte inByte

end PercentEncoding

end Text

namespace FileUri

open Text

/-- A property of texts that reading a path keeps: the text so far is put together from parts, cut
before a slash, and looked at from some place on. Where a drive is noticed, the few characters up to
its mark come apart. -/
structure KeptByReading (Holds : List Char → Prop) : Prop where
  slash : Holds ['/']
  colon : Holds [':']
  append {first second : List Char} : Holds first → Holds second → Holds (first ++ second)
  beforeSlash {first second : List Char} : Holds (first ++ '/' :: second) → Holds first
  rest {first second : List Char} : Holds (first ++ second) → Holds second
  apart {text : List Char} {mark : Char} : Holds text → text.length ≤ 3 → mark ∈ text →
    mark ∈ [':', '|'] → ∀ character ∈ text, Holds [character]

theorem isDrive_iff {separators text : List Char} : isDrive separators text = true ↔
    ∃ letter mark, text = [letter, mark] ∧ letter.isAlpha = true ∧ mark ∈ separators := by
  match text with
  | [] | [_] | _ :: _ :: _ :: _ => simp [isDrive]
  | [letter, mark] => simp [isDrive, and_assoc]

/-- A text up to its last slash is empty or a cut behind a slash. -/
theorem uptoLastSlash_cases (text : List Char) : uptoLastSlash text = [] ∨
    ∃ stem rest, text = stem ++ '/' :: rest ∧ uptoLastSlash text = stem ++ ['/'] := by
  rw [uptoLastSlash]
  cases cut : text.reverse.dropWhile (· != '/') with
  | nil => exact .inl rfl
  | cons last stem =>
    have slash : last = '/' := by
      have outside := List.head?_dropWhile_not (· != '/') text.reverse
      simpa [cut] using outside
    subst slash
    have backwards : text.reverse.takeWhile (· != '/') ++ '/' :: stem = text.reverse := by
      rw [← cut, List.takeWhile_append_dropWhile]
    refine .inr ⟨stem.reverse, (text.reverse.takeWhile (· != '/')).reverse, ?_, ?_⟩
    · simpa using (congrArg List.reverse backwards).symm
    · rw [List.reverse_cons]

namespace KeptByReading

variable {Holds : List Char → Prop} {text before segment stretch : List Char}

theorem empty (kept : KeptByReading Holds) : Holds [] :=
  @KeptByReading.rest Holds kept ['/'] [] kept.slash

/-- The property of every character that a text may have is kept. -/
theorem ofCharacters {Allowed : Char → Prop} (slash : Allowed '/') (colon : Allowed ':') :
    KeptByReading fun text => ∀ character ∈ text, Allowed character where
  slash := by simpa using slash
  colon := by simpa using colon
  append first second := List.forall_mem_append.mpr ⟨first, second⟩
  beforeSlash whole := (List.forall_mem_append.mp whole).1
  rest whole := (List.forall_mem_append.mp whole).2
  apart whole _ _ _ character member := by simpa using whole character member

theorem ofSingles (kept : KeptByReading Holds) (singles : ∀ character ∈ text, Holds [character]) :
    Holds text := by
  induction text with
  | nil => exact kept.empty
  | cons character rest ih =>
    obtain ⟨first, others⟩ := List.forall_mem_cons.mp singles
    exact kept.append first (ih others)

theorem dropLast (kept : KeptByReading Holds) (slash : text.getLast? = some '/')
    (holds : Holds text) : Holds text.dropLast := by
  obtain ⟨stem, rfl⟩ := List.getLast?_eq_some_iff.mp slash
  rw [List.dropLast_concat]
  exact kept.beforeSlash holds

theorem closeSegment (kept : KeptByReading Holds) (holds : Holds before) :
    Holds (FileUri.closeSegment before) := by
  rw [FileUri.closeSegment]
  split
  · exact holds
  · exact kept.append holds kept.slash

theorem uptoLastSlash (kept : KeptByReading Holds) (holds : Holds text) :
    Holds (FileUri.uptoLastSlash text) := by
  rcases uptoLastSlash_cases text with nothing | ⟨stem, rest, rfl, upto⟩
  · exact nothing ▸ kept.empty
  · exact upto ▸ kept.append (kept.beforeSlash holds) kept.slash

theorem removeSegment (kept : KeptByReading Holds) (holds : Holds before) :
    Holds (FileUri.removeSegment before) := by
  rw [FileUri.removeSegment]
  generalize isClosed : (if endsInSlash before then _ else before : List Char) = closed
  have start : Holds closed := by
    rw [← isClosed]
    split
    · rename_i slash
      split
      · split
        · exact holds
        · exact kept.dropLast (eq_of_beq slash) holds
      · exact holds
    · exact holds
  split
  · exact start
  · split
    · split
      · exact start
      · exact kept.uptoLastSlash start
    · exact start

theorem takeSegment (kept : KeptByReading Holds) (holds : Holds before)
    (segmentHolds : Holds segment) (slash : Bool) : Holds (FileUri.takeSegment before segment slash) := by
  have ending : Holds (if slash then ['/'] else []) := by
    cases slash
    · exact kept.empty
    · exact kept.slash
  rw [FileUri.takeSegment]
  split
  · split
    · exact kept.closeSegment (kept.removeSegment holds)
    · exact kept.removeSegment holds
  · split
    · exact kept.closeSegment holds
    · split
      · rename_i drive
        obtain ⟨letter, mark, rfl, -, isMark⟩ := isDrive_iff.mp (Bool.and_eq_true_iff.mp drive).2
        have letterHolds : Holds [letter] :=
          kept.apart segmentHolds (by simp) (by simp) isMark letter (by simp)
        exact kept.append (kept.append (kept.append holds letterHolds) kept.colon) ending
      · exact kept.append (kept.append holds segmentHolds) ending

/-- The property holds of what stands before a segment and of what was read of the segment. -/
structure HoldsApart (Holds : List Char → Prop) (read : List Char × Nat) : Prop where
  before : Holds (read.1.take read.2)
  segment : Holds (read.1.drop read.2)
  inside : read.2 ≤ read.1.length

theorem HoldsApart.whole {read : List Char × Nat} (kept : KeptByReading Holds)
    (apart : HoldsApart Holds read) : Holds read.1 := by
  rw [← List.take_append_drop read.2 read.1]
  exact kept.append apart.before apart.segment

theorem HoldsApart.append {more : List Char} {place : Nat} (kept : KeptByReading Holds)
    (apart : HoldsApart Holds (text, place)) (holds : Holds more) :
    HoldsApart Holds (text ++ more, place) where
  before := by
    rw [List.take_append_of_le_length apart.inside]
    exact apart.before
  segment := by
    rw [List.drop_append_of_le_length apart.inside]
    exact kept.append apart.segment holds
  inside := Nat.le_trans apart.inside (List.prefix_append _ _).length_le

theorem HoldsApart.ofSingles {place : Nat} (kept : KeptByReading Holds)
    (singles : ∀ character ∈ text, Holds [character]) (inside : place ≤ text.length) :
    HoldsApart Holds (text, place) where
  before := kept.ofSingles fun character member => singles character (List.mem_of_mem_take member)
  segment := kept.ofSingles fun character member => singles character (List.mem_of_mem_drop member)
  inside := inside

theorem readStretch (kept : KeptByReading Holds) {read : List Char × Nat}
    (apart : HoldsApart Holds read) (encoded : Holds (PercentEncoding.encode stretch)) :
    HoldsApart Holds (FileUri.readStretch read stretch) := by
  have whole := HoldsApart.whole kept apart
  obtain ⟨text, place⟩ := read
  rw [FileUri.readStretch]
  split
  · exact apart
  · split
    · rename_i drive
      obtain ⟨letter, mark, tail, -, isMark⟩ := isDrive_iff.mp drive
      -- The place moves by one into the drive, so the cut is among the first four characters.
      have length : (text.drop 1).length = 2 := by simp [tail]
      have short : text.length ≤ 3 := by
        rw [List.length_drop] at length
        omega
      have inDrive : mark ∈ text := List.mem_of_mem_drop (tail ▸ by simp : mark ∈ text.drop 1)
      have singles : ∀ character ∈ text ++ ['/'], Holds [character] :=
        List.forall_mem_append.mpr ⟨kept.apart whole short inDrive (List.mem_append_left _ isMark), by
          simpa using kept.slash⟩
      have bound : place + 1 ≤ (text ++ ['/']).length := by simpa using apart.inside
      have closed : HoldsApart Holds (text ++ ['/'], place + 1) := .ofSingles kept singles bound
      simpa using closed.append kept encoded
    · exact apart.append kept encoded

theorem foldl_readStretch (kept : KeptByReading Holds) {stretches : List (List Char)}
    {read : List Char × Nat} (apart : HoldsApart Holds read)
    (encoded : ∀ stretch ∈ stretches, Holds (PercentEncoding.encode stretch)) :
    HoldsApart Holds (stretches.foldl FileUri.readStretch read) := by
  induction stretches generalizing read with
  | nil => exact apart
  | cons stretch rest ih =>
    obtain ⟨first, others⟩ := List.forall_mem_cons.mp encoded
    exact ih (kept.readStretch apart first) others

theorem readSegment (kept : KeptByReading Holds) (holds : Holds before)
    (encoded : ∀ stretch ∈ splitWhere isDropped segment, Holds (PercentEncoding.encode stretch))
    (slash : Bool) : Holds (FileUri.readSegment before segment slash) := by
  have start : HoldsApart Holds (before, before.length) :=
    ⟨by simpa using holds, by simpa using kept.empty, Nat.le_refl _⟩
  have apart := kept.foldl_readStretch start encoded
  exact kept.takeSegment apart.before apart.segment slash

theorem readSegments (kept : KeptByReading Holds) {segments : List (List Char)}
    (holds : Holds before)
    (encoded : ∀ segment ∈ segments, ∀ stretch ∈ splitWhere isDropped segment,
      Holds (PercentEncoding.encode stretch)) :
    Holds (FileUri.readSegments before segments) := by
  fun_induction FileUri.readSegments before segments with
  | case1 => exact holds
  | case2 before segment => exact kept.readSegment holds (encoded segment List.mem_cons_self) false
  | case3 before segment rest _ ih =>
    obtain ⟨first, others⟩ := List.forall_mem_cons.mp encoded
    exact ih (kept.readSegment holds first true) others

/-- A property that reading keeps holds of a URI, if it holds of the scheme and of the encoding of
every text without slashes that is made of characters of the path. -/
theorem ofPath (kept : KeptByReading Holds) (path : List Char) (scheme : Holds "file:///".toList)
    (encoded : ∀ stretch, (∀ character ∈ stretch, character ∈ path ∧ isSlash character = false) →
      Holds (PercentEncoding.encode stretch)) :
    Holds (FileUri.ofPath path) := by
  have whole : Holds (encodePath path) := by
    refine kept.readSegments kept.empty fun segment inPath stretch inSegment => ?_
    exact encoded stretch fun character member =>
      of_mem_splitWhere inPath (of_mem_splitWhere inSegment member).1
  rw [← List.takeWhile_append_dropWhile (p := (· == '/')) (l := encodePath path)] at whole
  exact kept.append scheme (kept.rest whole)

end KeptByReading

end FileUri

namespace Location

open Text

theorem relativePath_suffix (text : List Char) : relativePath text <:+ text := by
  unfold relativePath
  split
  · exact List.suffix_cons _ _
  · exact List.suffix_refl _

/-- A property that reading keeps holds of a URI as it is shown. -/
theorem holds_uriOf {Holds : List Char → Prop} (kept : FileUri.KeptByReading Holds) (path : String)
    (scheme : Holds "file:///".toList)
    (encoded : ∀ stretch, (∀ character ∈ stretch,
      character ∈ path.toList ∧ FileUri.isSlash character = false) →
      Holds (PercentEncoding.encode stretch)) :
    Holds (uriOf path).toList := by
  have whole := kept.ofPath (relativePath path.toList) scheme fun stretch made =>
    encoded stretch fun character member =>
      ⟨(relativePath_suffix _).subset (made character member).1, (made character member).2⟩
  rw [uriOf, String.toList_ofList, withoutFinalSlash]
  split
  · rename_i slash
    exact kept.dropLast slash whole
  · exact whole

/-- A URI as it is shown is made of characters that stand in a path as they are. -/
theorem pathCharacter_of_mem_uriOf {path : String} {character : Char}
    (member : character ∈ (uriOf path).toList) : PercentEncoding.PathCharacter character := by
  have kept : FileUri.KeptByReading fun text => ∀ c ∈ text, PercentEncoding.PathCharacter c :=
    .ofCharacters (by decide) (by decide)
  exact holds_uriOf kept path (by simp [PercentEncoding.PathCharacter, PercentEncoding.reserved])
    (fun _ _ _ => PercentEncoding.pathCharacter_of_mem_encode) character member

/-- No URI holds a blank. -/
theorem blank_not_mem_uriOf (path : String) : ' ' ∉ (uriOf path).toList := by
  intro member
  exact absurd (pathCharacter_of_mem_uriOf member) (by decide)

end Location

end DiagnosticReplay
