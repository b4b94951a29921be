import DiagnosticReplay.Proofs.FileUri.Characters
import DiagnosticReplay.Proofs.Text.Escapes
import DiagnosticReplay.Proofs.Text.Run
import DiagnosticReplay.Proofs.Text.Split

/-! # Plain paths

A plain path has none of the characters that the reading of a path treats in a way of their own, so
only its slashes and its dots matter. Its segments are kept one after the other, empty ones too. A
`.` segment is left out, and a `..` segment takes the segment kept last along, unless that is the
only one. What is kept is encoded as it stands, so the encoded path is the encoding of a path that
can be told without looking at an encoded text.
-/

namespace DiagnosticReplay.FileUri

open Text PercentEncoding

/-- The characters that are read in a way of their own. -/
def specialCharacters : List Char := ['%', '\\', ':', '|', '\t', '\n', '\r']

/-- The text has no special character. -/
def Plain (text : List Char) : Prop :=
  ∀ character ∈ text, character ∉ specialCharacters

instance (text : List Char) : Decidable (Plain text) :=
  List.decidableBAll (· ∉ specialCharacters) text

/-- The text has no special character but percent signs. -/
def PlainButPercent (text : List Char) : Prop :=
  ∀ character ∈ text, character ∈ specialCharacters → character = '%'

instance (text : List Char) : Decidable (PlainButPercent text) :=
  List.decidableBAll (fun character => character ∈ specialCharacters → character = '%') text

/-- A text without special characters and without a slash. -/
structure PlainSegment (segment : List Char) : Prop where
  plain : Plain segment
  whole : '/' ∉ segment

/-- The segment goes up to the segment before it. -/
abbrev goesUp (segment : List Char) : Prop := segment = ['.', '.']

/-- The segment stays where it is. -/
abbrev stays (segment : List Char) : Prop := segment = ['.']

/-- The segments that are kept before a `..` is taken, last one first, and after it. The only segment
is never taken along. -/
def parent : List (List Char) → List (List Char)
  | _ :: last :: earlier => last :: earlier
  | kept => kept

/-- Take a segment to those that are kept, last one first. -/
def keep (kept : List (List Char)) (segment : List Char) : List (List Char) :=
  if goesUp segment then parent kept
  else if stays segment then kept
  else segment :: kept

/-- The text of segments that each have their slash. -/
def closed (segments : List (List Char)) : List Char :=
  segments.flatMap (· ++ ['/'])

/-- The text of the kept segments and a last one without its slash. A last segment of dots leaves no
text of its own. -/
def finish (kept : List (List Char)) (last : List Char) : List Char :=
  if goesUp last ∨ stays last then closed (keep kept last).reverse else closed kept.reverse ++ last

/-- A path without its dot segments. -/
def resolve (path : List Char) : List Char :=
  let segments := splitWhere (· == '/') path
  finish (segments.dropLast.foldl keep []) (segments.getLast?.getD [])

variable {text path segment last : List Char} {kept segments : List (List Char)}

section Characters

theorem Plain.not_mem (plain : Plain text) {character : Char}
    (special : character ∈ specialCharacters) : character ∉ text :=
  fun member => plain character member special

theorem Plain.butPercent (plain : Plain text) : PlainButPercent text :=
  fun character member special => absurd special (plain character member)

theorem PlainButPercent.not_mem (plain : PlainButPercent text) {character : Char}
    (special : character ∈ specialCharacters) (other : character ≠ '%') : character ∉ text :=
  fun member => other (plain character member special)

theorem startsWithDrive_eq_false (noColon : ':' ∉ text) (noBar : '|' ∉ text) :
    startsWithDrive text = false := by
  match text with
  | [] | [_] => rfl
  | letter :: mark :: rest =>
    have colon : mark ≠ ':' := fun same => noColon (same ▸ by simp)
    have bar : mark ≠ '|' := fun same => noBar (same ▸ by simp)
    simp [startsWithDrive, colon, bar]

theorem isDrive_eq_false {separators : List Char} (absent : ∀ mark ∈ separators, mark ∉ text) :
    isDrive separators text = false := by
  match text with
  | [] | [_] | _ :: _ :: _ :: _ => rfl
  | [letter, mark] =>
    have none : mark ∉ separators := fun member => absent mark member (by simp)
    simp [isDrive, none]

theorem plainDots_cons {character : Char} (ordinary : character ≠ '%') (rest : List Char) :
    plainDots (character :: rest) = character :: plainDots rest := by
  rw [plainDots]
  · rintro _ rfl _
    exact ordinary rfl
  · rintro _ rfl _
    exact ordinary rfl

/-- Without percent signs a dot is a dot. -/
theorem plainDots_of_not_mem (plain : '%' ∉ text) : plainDots text = text := by
  induction text with
  | nil => rfl
  | cons character rest ih =>
    rw [plainDots_cons fun same => plain (same ▸ List.mem_cons_self),
      ih fun member => plain (List.mem_cons_of_mem _ member)]

/-- What encoding writes for bytes other than the percent sign is no dot. -/
theorem plainDots_flatMap_encodeByte_append {bytes : List UInt8}
    (others : ∀ byte ∈ bytes, byte.toNat ≠ 0x25) (rest : List Char) :
    plainDots (bytes.flatMap encodeByte ++ rest) =
      bytes.flatMap encodeByte ++ plainDots rest := by
  have digit : ∀ value < 16, upperHexDigit value ≠ '%' := by decide
  have dot : ∀ high < 16, ∀ low < 16, upperHexDigit high = '2' →
      upperHexDigit low = 'e' ∨ upperHexDigit low = 'E' → 16 * high + low = 0x2e := by decide
  induction bytes with
  | nil => rfl
  | cons byte bytes ih =>
    obtain ⟨other, following⟩ := List.forall_mem_cons.mp others
    rw [List.flatMap_cons, List.append_assoc, List.append_assoc, ← ih following]
    rcases encodeByte_cases other with ⟨written, -, ordinary⟩ |
      ⟨high, low, one, two, sum, noDot, written⟩
    · rw [written, List.singleton_append, plainDots_cons ordinary, List.singleton_append]
    · rw [written, List.cons_append, List.cons_append, List.singleton_append, plainDots,
        plainDots_cons (digit high one), plainDots_cons (digit low two)]
      · rfl
      all_goals
        intro tail _ same
        injection same with first following
        injection following with second _
        refine noDot (sum ▸ dot high one low two first ?_)
        simp [second]

/-- The dots of an encoded text are those of the text. -/
theorem plainDots_encode (text : List Char) : plainDots (encode text) = encode (plainDots text) := by
  have two : '2' ≠ '%' ∧ encodeChar '2' = ['2'] := by decide
  have lower : 'e' ≠ '%' ∧ encodeChar 'e' = ['e'] := by decide
  have upper : 'E' ≠ '%' ∧ encodeChar 'E' = ['E'] := by decide
  have dot : encodeChar '.' = ['.'] := by decide
  fun_induction plainDots text with
  | case1 rest ih => simp [encode_cons, two, lower, dot, plainDots, ih]
  | case2 rest ih => simp [encode_cons, two, upper, dot, plainDots, ih]
  | case3 character rest notLower notUpper ih =>
    by_cases percent : character = '%'
    · subst percent
      have noDot {last : Char} (ordinary : last ≠ '%') (others : List Char)
          (same : encode rest = '2' :: last :: others) : ∃ tail, rest = '2' :: last :: tail := by
        obtain ⟨tail, rfl, -, following⟩ := (encode_eq_cons_iff two.1).mp same
        obtain ⟨last, rfl, -⟩ := (encode_eq_cons_iff ordinary).mp following
        exact ⟨last, rfl⟩
      rw [encode_cons, encode_cons, encodeChar_percent, List.singleton_append,
        List.singleton_append, plainDots, ih]
      · intro others _ same
        obtain ⟨tail, same⟩ := noDot lower.1 others same
        exact notLower tail rfl same
      · intro others _ same
        obtain ⟨tail, same⟩ := noDot upper.1 others same
        exact notUpper tail rfl same
    · have others : ∀ byte ∈ String.utf8EncodeChar character, byte.toNat ≠ 0x25 := by
        have plain : '%' ∉ [character] := by simpa using Ne.symm percent
        simpa using percent_not_mem_bytes plain
      rw [encode_cons, encode_cons, encodeChar, plainDots_flatMap_encodeByte_append others, ih]
  | case4 => rfl

theorem plainDots_encode_eq_iff {dots : List Char} (noPercent : '%' ∉ dots)
    (asTheyAre : encode dots = dots) : plainDots (encode text) = dots ↔ plainDots text = dots := by
  rw [plainDots_encode]
  constructor
  · intro same
    have plain : '%' ∉ plainDots text := by
      intro member
      refine noPercent (same ▸ List.mem_flatMap.mpr ⟨'%', member, ?_⟩)
      exact encodeChar_percent ▸ List.mem_singleton_self _
    exact encode_inj plain noPercent (same.trans asTheyAre.symm)
  · rintro same
    rw [same, asTheyAre]

end Characters

section Slashes

theorem endsInSlash_append_slash (stem : List Char) : endsInSlash (stem ++ ['/']) = true := by
  simp [endsInSlash]

theorem closeSegment_append_slash (stem : List Char) :
    closeSegment (stem ++ ['/']) = stem ++ ['/'] := by
  rw [closeSegment, endsInSlash_append_slash, Bool.or_true, if_pos rfl]

theorem afterLastSlash?_of_whole (whole : '/' ∉ text) : afterLastSlash? text = none := by
  rw [afterLastSlash?, if_neg]
  simpa using whole

/-- A segment without a slash, read backwards, is a run that ends at the slash before it. -/
theorem takeWhile_reverse (stem : List Char) (whole : '/' ∉ segment) :
    (stem ++ '/' :: segment).reverse.takeWhile (· != '/') = segment.reverse ∧
      (stem ++ '/' :: segment).reverse.dropWhile (· != '/') = '/' :: stem.reverse := by
  have backwards : (stem ++ '/' :: segment).reverse = segment.reverse ++ '/' :: stem.reverse := by
    simp
  have ordinary : ∀ character ∈ segment.reverse, (character != '/') = true := by
    intro character member
    exact bne_iff_ne.mpr fun same => whole (same ▸ List.mem_reverse.mp member)
  have ends : EndsRun (· != '/') ('/' :: stem.reverse) := endsRun_cons.mpr (by decide)
  rw [backwards]
  exact ⟨takeWhile_run ordinary ends, dropWhile_run ordinary ends⟩

theorem afterLastSlash?_append (stem : List Char) (whole : '/' ∉ segment) :
    afterLastSlash? (stem ++ '/' :: segment) = some segment := by
  rw [afterLastSlash?, if_pos (by simp), (takeWhile_reverse stem whole).1, List.reverse_reverse]

theorem uptoLastSlash_append (stem : List Char) (whole : '/' ∉ segment) :
    uptoLastSlash (stem ++ '/' :: segment) = stem ++ ['/'] := by
  rw [uptoLastSlash, (takeWhile_reverse stem whole).2, List.reverse_cons, List.reverse_reverse]

/-- The only segment of a text is not removed. -/
theorem removeSegment_only (whole : '/' ∉ segment) (noColon : ':' ∉ segment) :
    removeSegment (segment ++ ['/']) = segment ++ ['/'] := by
  have drive : isDrive [':'] (segment ++ ['/']) = false :=
    isDrive_eq_false (by simpa using noColon)
  have noSegment : isDrive [':'] [] = false := rfl
  simp [removeSegment, endsInSlash_append_slash, afterLastSlash?_of_whole whole, drive, noSegment,
    afterLastSlash?_append segment (List.not_mem_nil (a := '/')),
    uptoLastSlash_append segment (List.not_mem_nil (a := '/'))]

/-- The last segment after another one is removed. -/
theorem removeSegment_later {stem : List Char} (whole : '/' ∉ segment)
    (noColon : ':' ∉ stem ++ '/' :: segment) (noBar : '|' ∉ segment) :
    removeSegment (stem ++ '/' :: segment ++ ['/']) = stem ++ ['/'] := by
  have later : ':' ∉ segment := fun member => noColon (by simp [member])
  have drive : isDrive [':'] (stem ++ '/' :: segment) = false :=
    isDrive_eq_false (by simpa using noColon)
  have ownDrive : isDrive [':'] segment = false := isDrive_eq_false (by simpa using later)
  have noStart : startsWithDrive segment = false := startsWithDrive_eq_false later noBar
  have filled : (stem ++ '/' :: segment).isEmpty = false := by simp
  simp only [removeSegment, endsInSlash_append_slash, List.dropLast_concat, if_true,
    afterLastSlash?_append stem whole, noStart, filled, drive, ownDrive, Bool.or_self,
    Bool.false_eq_true, if_false, uptoLastSlash_append stem whole]

end Slashes

section Run

theorem closed_append (first second : List (List Char)) :
    closed (first ++ second) = closed first ++ closed second :=
  List.flatMap_append

theorem closed_reverse_cons (segment : List Char) (kept : List (List Char)) :
    closed (segment :: kept).reverse = closed kept.reverse ++ segment ++ ['/'] := by
  rw [List.reverse_cons, closed_append, List.append_assoc]
  simp [closed]

/-- The text of kept segments is empty or ends in a slash. -/
theorem closeSegment_encode_closed (kept : List (List Char)) :
    closeSegment (encode (closed kept.reverse)) = encode (closed kept.reverse) := by
  cases kept with
  | nil => rfl
  | cons last earlier =>
    rw [closed_reverse_cons, encode_append]
    exact closeSegment_append_slash _

theorem PlainSegment.not_mem_encode (segment : PlainSegment text) :
    '/' ∉ encode text ∧ ':' ∉ encode text ∧ '|' ∉ encode text :=
  ⟨PercentEncoding.not_mem_encode segment.whole (by decide),
    PercentEncoding.not_mem_encode (segment.plain.not_mem (by decide)) (by decide),
    PercentEncoding.not_mem_encode (segment.plain.not_mem (by decide)) (by decide)⟩

theorem colon_not_mem_encode_closed (plain : ∀ segment ∈ kept, PlainSegment segment) :
    ':' ∉ encode (closed kept.reverse) := by
  refine PercentEncoding.not_mem_encode ?_ (by decide)
  intro member
  obtain ⟨segment, inKept, inSegment⟩ := List.mem_flatMap.mp member
  have plainSegment := plain segment (List.mem_reverse.mp inKept)
  rcases List.mem_append.mp inSegment with colon | slash
  · exact plainSegment.plain.not_mem (by decide) colon
  · exact absurd slash (by decide)

theorem removeSegment_encode_closed (plain : ∀ segment ∈ kept, PlainSegment segment) :
    removeSegment (encode (closed kept.reverse)) = encode (closed (parent kept).reverse) := by
  have ended (segment : List Char) (before : List (List Char)) :
      encode (closed (segment :: before).reverse) =
        encode (closed before.reverse) ++ encode segment ++ ['/'] := by
    rw [closed_reverse_cons, encode_append, encode_append]
    rfl
  match kept with
  | [] => rfl
  | [only] =>
    obtain ⟨whole, noColon, -⟩ := (plain only (by simp)).not_mem_encode
    have text : encode (closed [only].reverse) = encode only ++ ['/'] := ended only []
    exact text ▸ removeSegment_only whole noColon
  | last :: second :: earlier =>
    obtain ⟨whole, -, noBar⟩ := (plain last (by simp)).not_mem_encode
    let stem := encode (closed earlier.reverse) ++ encode second
    have text : encode (closed (last :: second :: earlier).reverse) =
        stem ++ '/' :: encode last ++ ['/'] := by
      rw [ended last, ended second, List.append_assoc stem]
      rfl
    have noColon := colon_not_mem_encode_closed plain
    rw [text] at noColon
    rw [text, removeSegment_later whole (mt (List.mem_append_left _) noColon) noBar, parent,
      ended second]

theorem parent_suffix (kept : List (List Char)) : parent kept <:+ kept := by
  match kept with
  | [] | [_] => exact List.suffix_refl _
  | last :: _ :: _ => exact List.suffix_cons last _

/-- Only segments that are no dots are kept. -/
theorem forall_keep {Kept : List Char → Prop} (held : ∀ other ∈ kept, Kept other)
    (holds : ¬goesUp segment → ¬stays segment → Kept segment) :
    ∀ other ∈ keep kept segment, Kept other := by
  rw [keep]
  split
  · exact fun other member => held other ((parent_suffix kept).subset member)
  · rename_i notUp
    split
    · exact held
    · rename_i notStay
      exact List.forall_mem_cons.mpr ⟨holds notUp notStay, held⟩

theorem forall_foldl_keep {Kept : List Char → Prop} (held : ∀ other ∈ kept, Kept other)
    (holds : ∀ segment ∈ segments, ¬goesUp segment → ¬stays segment → Kept segment) :
    ∀ other ∈ segments.foldl keep kept, Kept other := by
  induction segments generalizing kept with
  | nil => exact held
  | cons segment rest ih =>
    obtain ⟨first, others⟩ := List.forall_mem_cons.mp holds
    exact ih (forall_keep held first) others

/-- A segment is taken as a whole if nothing in it is dropped and no drive stands before it. -/
theorem readSegment_of_plain (plain : PlainButPercent segment) {before : List Char}
    (noColon : ':' ∉ before) (slash : Bool) :
    readSegment before segment slash = takeSegment before (encode segment) slash := by
  have undropped : ∀ character ∈ segment, isDropped character = false := by
    intro character member
    have ordinary := plain character member
    cases dropped : isDropped character with
    | false => rfl
    | true =>
      simp only [isDropped, Bool.or_eq_true, beq_iff_eq] at dropped
      rcases dropped with (rfl | rfl) | rfl
      all_goals exact absurd (ordinary (by decide)) (by decide)
  have noDrive : isDrive [':'] before.tail = false :=
    isDrive_eq_false (by simpa using fun member => noColon (List.mem_of_mem_tail member))
  rw [readSegment, splitWhere_of_plain undropped]
  cases segment with
  | nil => simp [readStretch]
  | cons character rest => simp [readStretch, noDrive]

/-- A segment that is no dots and no drive is put behind the text. -/
theorem takeSegment_of_ordinary (plain : PlainButPercent segment)
    (notUp : plainDots segment ≠ ['.', '.']) (notStay : plainDots segment ≠ ['.'])
    (before : List Char) (slash : Bool) : takeSegment before (encode segment) slash =
      before ++ encode segment ++ if slash then ['/'] else [] := by
  have up : plainDots (encode segment) ≠ ['.', '.'] :=
    mt (plainDots_encode_eq_iff (by decide) (by decide)).mp notUp
  have stay : plainDots (encode segment) ≠ ['.'] :=
    mt (plainDots_encode_eq_iff (by decide) (by decide)).mp notStay
  have noDrive : isDrive [':', '|'] (encode segment) = false := by
    have absent : ∀ mark ∈ [':', '|'], mark ∈ specialCharacters ∧ mark ≠ '%' ∧
        mark ∉ escapeCharacters :=
      List.forall_mem_cons.mpr ⟨by decide, List.forall_mem_singleton.mpr (by decide)⟩
    refine isDrive_eq_false fun mark member => ?_
    obtain ⟨special, other, foreign⟩ := absent mark member
    exact PercentEncoding.not_mem_encode (plain.not_mem special other) foreign
  rw [takeSegment, if_neg up, if_neg stay, noDrive, Bool.and_false, if_neg Bool.false_ne_true]

/-- Taking a plain segment keeps it or follows its dots. -/
theorem takeSegment_encode (plain : PlainSegment segment)
    (plainKept : ∀ other ∈ kept, PlainSegment other) (slash : Bool) :
    takeSegment (encode (closed kept.reverse)) (encode segment) slash =
      if goesUp segment ∨ stays segment then encode (closed (keep kept segment).reverse)
      else encode (closed kept.reverse ++ segment) ++ if slash then ['/'] else [] := by
  have asItIs : plainDots segment = segment :=
    plainDots_of_not_mem (plain.plain.not_mem (by decide))
  have up : plainDots (encode segment) = ['.', '.'] ↔ goesUp segment := by
    rw [plainDots_encode_eq_iff (by decide) (by decide), asItIs]
  have stay : plainDots (encode segment) = ['.'] ↔ stays segment := by
    rw [plainDots_encode_eq_iff (by decide) (by decide), asItIs]
  rw [keep]
  by_cases goes : goesUp segment
  · have dots : goesUp segment ∨ stays segment := .inl goes
    rw [takeSegment, if_pos (up.mpr goes), if_pos dots, if_pos goes,
      removeSegment_encode_closed plainKept]
    dsimp only
    rw [closeSegment_encode_closed, ite_self]
  · rw [if_neg goes]
    by_cases dot : stays segment
    · have dots : goesUp segment ∨ stays segment := .inr dot
      rw [takeSegment, if_neg (mt up.mp goes), if_pos (stay.mpr dot), if_pos dots, if_pos dot,
        closeSegment_encode_closed]
    · have ordinary : ¬(goesUp segment ∨ stays segment) := not_or.mpr ⟨goes, dot⟩
      rw [takeSegment_of_ordinary plain.plain.butPercent (by rwa [asItIs]) (by rwa [asItIs]),
        if_neg ordinary, encode_append]

/-- A segment with its slash is kept, or its dots are followed. -/
theorem readSegment_closed (plain : PlainSegment segment)
    (plainKept : ∀ other ∈ kept, PlainSegment other) :
    readSegment (encode (closed kept.reverse)) segment true =
      encode (closed (keep kept segment).reverse) := by
  rw [readSegment_of_plain plain.plain.butPercent (colon_not_mem_encode_closed plainKept),
    takeSegment_encode plain plainKept]
  split
  · rfl
  · rename_i ordinary
    obtain ⟨notUp, notStay⟩ := not_or.mp ordinary
    rw [keep, if_neg notUp, if_neg notStay, closed_reverse_cons]
    simp [encode_cons]

/-- The last segment, without a slash, finishes the path. -/
theorem readSegment_last (plain : PlainSegment last)
    (plainKept : ∀ other ∈ kept, PlainSegment other) :
    readSegment (encode (closed kept.reverse)) last false = encode (finish kept last) := by
  rw [readSegment_of_plain plain.plain.butPercent (colon_not_mem_encode_closed plainKept),
    takeSegment_encode plain plainKept, finish]
  split
  · rfl
  · simp

/-- Segments that each have their slash are kept one after the other. -/
theorem foldl_readSegment (plain : ∀ segment ∈ segments, PlainSegment segment)
    (plainKept : ∀ other ∈ kept, PlainSegment other) :
    segments.foldl (fun before segment => readSegment before segment true)
        (encode (closed kept.reverse)) = encode (closed (segments.foldl keep kept).reverse) := by
  induction segments generalizing kept with
  | nil => rfl
  | cons segment rest ih =>
    obtain ⟨first, others⟩ := List.forall_mem_cons.mp plain
    rw [List.foldl_cons, List.foldl_cons, readSegment_closed first plainKept]
    exact ih others (forall_keep plainKept fun _ _ => first)

theorem readSegments_append_singleton (before : List Char) (segments : List (List Char))
    (last : List Char) :
    readSegments before (segments ++ [last]) =
      readSegment (segments.foldl (fun before segment => readSegment before segment true) before)
        last false := by
  induction segments generalizing before with
  | nil => rfl
  | cons segment rest ih =>
    have following : rest ++ [last] ≠ [] := List.append_ne_nil_of_right_ne_nil _ (by simp)
    rw [List.cons_append, readSegments, ih, List.foldl_cons]
    exact following

theorem splitWhere_isSlash (plain : PlainButPercent path) :
    splitWhere isSlash path = splitWhere (· == '/') path := by
  apply splitWhere_congr
  intro character member
  have noBackslash : character ≠ '\\' :=
    fun same => plain.not_mem (by decide) (by decide) (same ▸ member)
  simp [isSlash, noBackslash]

theorem plainSegment_of_mem_splitWhere (plain : Plain path)
    (member : segment ∈ splitWhere (· == '/') path) : PlainSegment segment where
  plain character inSegment := plain character (of_mem_splitWhere member inSegment).1
  whole inSegment := absurd (of_mem_splitWhere member inSegment).2 (by decide)

/-- A path is made of segments that each have their slash, and a last one. -/
theorem exists_segments (path : List Char) : ∃ segments last,
    splitWhere (· == '/') path = segments ++ [last] ∧ closed segments ++ last = path := by
  induction path with
  | nil => exact ⟨[], [], rfl, rfl⟩
  | cons character rest ih =>
    obtain ⟨segments, last, split, rfl⟩ := ih
    rw [splitWhere, split]
    by_cases slash : character = '/'
    · subst slash
      exact ⟨[] :: segments, last, rfl, rfl⟩
    · rw [beq_false_of_ne slash, if_neg Bool.false_ne_true]
      cases segments with
      | nil => exact ⟨[], character :: last, rfl, rfl⟩
      | cons first segments => exact ⟨(character :: first) :: segments, last, rfl, rfl⟩

theorem resolve_eq_finish (split : splitWhere (· == '/') path = segments ++ [last]) :
    resolve path = finish (segments.foldl keep []) last := by
  simp [resolve, split]

/-- A plain path is encoded as what its dot segments leave of it. -/
theorem encodePath_of_plain (plain : Plain path) : encodePath path = encode (resolve path) := by
  obtain ⟨segments, last, split, -⟩ := exists_segments path
  have each : ∀ segment ∈ segments ++ [last], PlainSegment segment :=
    fun segment member => plainSegment_of_mem_splitWhere plain (split ▸ member)
  obtain ⟨plainSegments, plainLast⟩ := List.forall_mem_append.mp each
  have run := foldl_readSegment plainSegments (List.forall_mem_nil PlainSegment)
  have plainKept := forall_foldl_keep (List.forall_mem_nil PlainSegment)
    fun segment member _ _ => plainSegments segment member
  calc encodePath path
      = readSegment (segments.foldl (fun before segment => readSegment before segment true)
          (encode (closed [].reverse))) last false := by
        rw [encodePath, splitWhere_isSlash plain.butPercent, split, readSegments_append_singleton]
        rfl
    _ = encode (finish (segments.foldl keep []) last) := by
        rw [run, readSegment_last (plainLast last List.mem_cons_self) plainKept]
    _ = encode (resolve path) := by rw [resolve_eq_finish split]

/-- Without dot segments every segment is kept. -/
theorem foldl_keep_of_undotted (undotted : ∀ segment ∈ segments, ¬goesUp segment ∧ ¬stays segment) :
    segments.foldl keep kept = segments.reverse ++ kept := by
  induction segments generalizing kept with
  | nil => rfl
  | cons segment rest ih =>
    obtain ⟨⟨notUp, notStay⟩, others⟩ := List.forall_mem_cons.mp undotted
    rw [List.foldl_cons, keep, if_neg notUp, if_neg notStay, ih others, List.reverse_cons,
      List.append_assoc, List.singleton_append]

/-- A path without dot segments stays as it is. -/
theorem resolve_of_undotted
    (undotted : ∀ segment ∈ splitWhere (· == '/') path, ¬goesUp segment ∧ ¬stays segment) :
    resolve path = path := by
  obtain ⟨segments, last, split, text⟩ := exists_segments path
  rw [split] at undotted
  obtain ⟨others, ending⟩ := List.forall_mem_append.mp undotted
  have ordinary := not_or.mpr (ending last List.mem_cons_self)
  rw [resolve_eq_finish split, finish, if_neg ordinary, foldl_keep_of_undotted others,
    List.append_nil, List.reverse_reverse, text]

theorem mem_of_mem_closed {character : Char} (member : character ∈ closed segments) :
    character = '/' ∨ ∃ segment ∈ segments, character ∈ segment := by
  obtain ⟨segment, inSegments, inClosed⟩ := List.mem_flatMap.mp member
  rcases List.mem_append.mp inClosed with inSegment | slash
  · exact .inr ⟨segment, inSegments, inSegment⟩
  · exact .inl (List.mem_singleton.mp slash)

/-- Dot segments bring no character of their own in, but for a slash. -/
theorem mem_of_mem_resolve {character : Char} (member : character ∈ resolve path) :
    character = '/' ∨ character ∈ path := by
  obtain ⟨segments, last, split, -⟩ := exists_segments path
  have each : ∀ segment ∈ segments ++ [last], ∀ other ∈ segment, other ∈ path :=
    fun segment inPath other inSegment => (of_mem_splitWhere (split ▸ inPath) inSegment).1
  obtain ⟨own, ending⟩ := List.forall_mem_append.mp each
  have kept : ∀ segment ∈ segments.foldl keep [], ∀ other ∈ segment, other ∈ path :=
    forall_foldl_keep (by simp) fun segment inSegments _ _ => own segment inSegments
  have finished : ∀ segment ∈ keep (segments.foldl keep []) last, ∀ other ∈ segment, other ∈ path :=
    forall_keep kept fun _ _ => ending last List.mem_cons_self
  rw [resolve_eq_finish split, finish] at member
  split at member
  · refine (mem_of_mem_closed member).imp_right ?_
    rintro ⟨segment, inKept, inSegment⟩
    exact finished segment (List.mem_reverse.mp inKept) character inSegment
  · rcases List.mem_append.mp member with inClosed | inLast
    · refine (mem_of_mem_closed inClosed).imp_right ?_
      rintro ⟨segment, inKept, inSegment⟩
      exact kept segment (List.mem_reverse.mp inKept) character inSegment
    · exact .inr (ending last List.mem_cons_self character inLast)

end Run

end DiagnosticReplay.FileUri
