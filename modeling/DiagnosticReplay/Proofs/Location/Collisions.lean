import DiagnosticReplay.Proofs.Location.Decoding

/-! # Paths that share a URI

A percent sign in a path is not encoded. A path without dot components that is written with one slash
in front and none at its end is therefore taken into its URI letter by letter, with what must not
stand in a URI escaped, and a name that spells an escape is not told from the name that the escape is
written for. Two such paths share a URI exactly if they are read as the same bytes, so a file whose
name spells no escape shares its URI with no other file of that kind.
-/

namespace DiagnosticReplay

open Text PercentEncoding

namespace FileUri

variable {path before segment last : List Char} {segments : List (List Char)}

/-- The segment is no dots, whether or not they are encoded. -/
def Undotted (segment : List Char) : Prop :=
  plainDots segment ≠ ['.'] ∧ plainDots segment ≠ ['.', '.']

instance (segment : List Char) : Decidable (Undotted segment) :=
  inferInstanceAs (Decidable (_ ∧ _))

theorem readSegment_of_undotted (plain : PlainButPercent segment) (undotted : Undotted segment)
    (noColon : ':' ∉ before) (slash : Bool) : readSegment before segment slash =
      before ++ encode segment ++ if slash then ['/'] else [] := by
  rw [readSegment_of_plain plain noColon,
    takeSegment_of_ordinary plain undotted.2 undotted.1 before slash]

/-- Segments that are no dots are put one behind the other. -/
theorem foldl_readSegment_of_undotted (plain : ∀ segment ∈ segments, PlainButPercent segment)
    (undotted : ∀ segment ∈ segments, Undotted segment) (noColon : ':' ∉ before) :
    ':' ∉ before ++ encode (closed segments) ∧
      segments.foldl (fun before segment => readSegment before segment true) before =
        before ++ encode (closed segments) := by
  induction segments generalizing before with
  | nil => simpa [closed] using noColon
  | cons segment rest ih =>
    obtain ⟨plainFirst, plainRest⟩ := List.forall_mem_cons.mp plain
    obtain ⟨first, others⟩ := List.forall_mem_cons.mp undotted
    have absent : ':' ∉ encode segment :=
      PercentEncoding.not_mem_encode (plainFirst.not_mem (by decide) (by decide)) (by decide)
    have text : before ++ encode (closed (segment :: rest)) =
        before ++ encode segment ++ ['/'] ++ encode (closed rest) := by
      simp [closed, encode_cons]
    rw [text, List.foldl_cons, readSegment_of_undotted plainFirst first noColon true]
    exact ih plainRest others (by simp [noColon, absent])

/-- A path without dot segments is encoded as it stands. -/
theorem encodePath_of_undotted (plain : PlainButPercent path)
    (undotted : ∀ segment ∈ splitWhere (· == '/') path, Undotted segment) :
    encodePath path = encode path := by
  obtain ⟨segments, last, split, text⟩ := exists_segments path
  have each : ∀ segment ∈ segments ++ [last], PlainButPercent segment := by
    intro segment member character inSegment
    exact plain character (of_mem_splitWhere (split ▸ member) inSegment).1
  rw [split] at undotted
  obtain ⟨undottedSegments, undottedLast⟩ := List.forall_mem_append.mp undotted
  obtain ⟨plainSegments, plainLast⟩ := List.forall_mem_append.mp each
  obtain ⟨noColon, run⟩ := foldl_readSegment_of_undotted plainSegments undottedSegments
    (List.not_mem_nil (a := ':'))
  calc encodePath path
      = readSegment (segments.foldl (fun before segment => readSegment before segment true) [])
          last false := by
        rw [encodePath, splitWhere_isSlash plain, split, readSegments_append_singleton]
    _ = encode (closed segments) ++ encode last := by
        rw [run, readSegment_of_undotted (plainLast last List.mem_cons_self)
          (undottedLast last List.mem_cons_self) noColon]
        simp
    _ = encode path := by rw [← encode_append, text]

end FileUri

namespace Location

open FileUri

variable {path : String}

/-- A path that is taken into its URI as it stands: it has one slash in front and none at its end, no
character that ends a segment, is dropped or marks a drive, and no dot component, encoded or not. -/
structure Verbatim (path : String) : Prop where
  plain : PlainButPercent path.toList
  rooted : path.toList.head? = some '/'
  single : (relativePath path.toList).head? ≠ some '/'
  unclosed : path.toList.getLast? ≠ some '/'
  undotted : ∀ component ∈ splitAt '/' path, Undotted component.toList

instance (path : String) : Decidable (Verbatim path) :=
  decidable_of_iff (PlainButPercent path.toList ∧ path.toList.head? = some '/' ∧
      (relativePath path.toList).head? ≠ some '/' ∧ path.toList.getLast? ≠ some '/' ∧
      ∀ component ∈ splitAt '/' path, Undotted component.toList)
    ⟨fun ⟨plain, rooted, single, unclosed, undotted⟩ => ⟨plain, rooted, single, unclosed, undotted⟩,
      fun ⟨plain, rooted, single, unclosed, undotted⟩ => ⟨plain, rooted, single, unclosed, undotted⟩⟩

/-- The URI of a path that is taken as it stands. -/
theorem uriOf_of_verbatim (verbatim : Verbatim path) :
    (uriOf path).toList = "file://".toList ++ encode path.toList := by
  obtain ⟨rest, rooted⟩ := List.head?_eq_some_iff.mp verbatim.rooted
  have relative : relativePath path.toList = rest := by rw [rooted]; rfl
  have plain : PlainButPercent rest :=
    fun character member => verbatim.plain character (rooted ▸ List.mem_cons_of_mem _ member)
  have undotted : ∀ segment ∈ splitWhere (· == '/') rest, Undotted segment := by
    intro segment member
    have component := verbatim.undotted _ (mem_splitAt_of_relativePath (relative.symm ▸ member))
    rwa [String.toList_ofList] at component
  have ends : EndsRun (· == '/') rest := by
    intro next first
    exact beq_false_of_ne fun same => verbatim.single (relative.symm ▸ same ▸ first)
  have scheme : "file:///".toList = "file://".toList ++ ['/'] := by simp
  have whole : FileUri.ofPath rest = "file://".toList ++ encode path.toList := by
    unfold FileUri.ofPath
    rw [encodePath_of_undotted plain undotted, dropWhile_slash_encode, ends.dropWhile_eq_self,
      rooted, encode_cons, encodeChar_slash, scheme, List.append_assoc]
  have filled : encode path.toList ≠ [] := by
    rw [rooted]
    exact mt encode_eq_nil_iff.mp (List.cons_ne_nil _ _)
  have closed : withoutFinalSlash path.toList = path.toList := if_neg verbatim.unclosed
  rw [uriOf, String.toList_ofList, relative, whole, withoutFinalSlash_append _ filled,
    withoutFinalSlash_encode, closed]

/-- Paths that are taken as they stand share a URI exactly if they are read as the same bytes, with
every escape that encoding writes standing for its byte. So two of them that spell no escape have one
URI only if they are the same. -/
theorem uri_eq_iff_of_verbatim (one other : Source.Span) (verbatim : Verbatim one.script.path)
    (otherVerbatim : Verbatim other.script.path) :
    ((ofSpan one).uri = (ofSpan other).uri ↔
        unescape one.script.path.toList = unescape other.script.path.toList) ∧
      (SpellsNoEscape one.script.path.toList → SpellsNoEscape other.script.path.toList →
        (ofSpan one).uri = (ofSpan other).uri → one.script.path = other.script.path) := by
  have encodings : (ofSpan one).uri = (ofSpan other).uri ↔
      encode one.script.path.toList = encode other.script.path.toList := by
    rw [← String.toList_inj]
    change (uriOf one.script.path).toList = (uriOf other.script.path).toList ↔ _
    rw [uriOf_of_verbatim verbatim, uriOf_of_verbatim otherVerbatim, List.append_cancel_left_eq]
  refine ⟨encodings.trans encode_eq_encode_iff, fun spellsNone otherSpellsNone same => ?_⟩
  exact String.toList_inj.mp
    (encode_inj_of_spellsNoEscape spellsNone otherSpellsNone (encodings.mp same))

/-- The first place of a script that is known by its path alone. -/
def firstPlace (path : String) : Source.Span where
  script := .ofContent path ""
  position := ⟨1, 0⟩

/-- A percent sign that spells no escape tells names apart, and one that does may not. -/
theorem uri_eq_iff_of_verbatim_percentSigns :
    (ofSpan (firstPlace "/é%/100%2f")).uri ≠ (ofSpan (firstPlace "/é%/100%2F")).uri ∧
      (ofSpan (firstPlace "/é%/a%23b")).uri = (ofSpan (firstPlace "/é%/a#b")).uri := by
  have lower : Verbatim "/é%/100%2f" := by decide +kernel
  have upper : Verbatim "/é%/100%2F" := by decide +kernel
  have spelled : Verbatim "/é%/a%23b" := by decide +kernel
  have written : Verbatim "/é%/a#b" := by decide +kernel
  constructor
  · intro same
    have paths := (uri_eq_iff_of_verbatim (firstPlace "/é%/100%2f") (firstPlace "/é%/100%2F")
      lower upper).2 (by decide +kernel) (by decide +kernel) same
    exact absurd paths (by decide)
  · exact (uri_eq_iff_of_verbatim (firstPlace "/é%/a%23b") (firstPlace "/é%/a#b")
      spelled written).1.mpr (by decide +kernel)

/-- Two different files have one URI. -/
theorem uri_not_injective_on_verbatim :
    Verbatim "/a%20b" ∧ Verbatim "/a b" ∧
      (ofSpan (firstPlace "/a%20b")).uri = (ofSpan (firstPlace "/a b")).uri ∧
      "/a%20b" ≠ "/a b" := by
  decide +kernel

end Location

end DiagnosticReplay
