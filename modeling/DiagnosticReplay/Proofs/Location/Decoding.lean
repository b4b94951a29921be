import DiagnosticReplay.Proofs.FileUri.Segments
import DiagnosticReplay.Location

/-! # Paths read back from URIs

Between a path and its URI a slash is taken off the front, the path is encoded, and a slash is taken
off the end. Encoding leaves slashes in their places, so the URI of a plain path is the encoding of a
path behind the scheme, and what that path is can be told without looking at the encoding. A plain
path without dot components loses nothing but the two slashes: decoding its URI gives it back.
-/

namespace DiagnosticReplay

open Text PercentEncoding

namespace Text.PercentEncoding

variable {text : List Char} {character : Char}

theorem slash_not_mem_encodeChar (other : character ≠ '/') : '/' ∉ encodeChar character := by
  have absent : '/' ∉ encode [character] :=
    not_mem_encode (by simpa using other.symm) (by decide)
  simpa [encode_cons] using absent

/-- The slashes in front of an encoded text are those in front of the text. -/
theorem dropWhile_slash_encode (text : List Char) :
    (encode text).dropWhile (· == '/') = encode (text.dropWhile (· == '/')) := by
  induction text with
  | nil => rfl
  | cons character rest ih =>
    by_cases slash : character = '/'
    · subst slash
      simpa [encode_cons] using ih
    · obtain ⟨first, others, written⟩ := List.exists_cons_of_ne_nil (encodeChar_ne_nil character)
      have ordinary : first ≠ '/' := by
        intro same
        exact slash_not_mem_encodeChar slash (written ▸ same ▸ List.mem_cons_self)
      simp [encode_cons, written, slash, ordinary]

end Text.PercentEncoding

namespace Location

open FileUri

variable {path : String} {text : List Char}

theorem withoutFinalSlash_append (before : List Char) (filled : text ≠ []) :
    withoutFinalSlash (before ++ text) = before ++ withoutFinalSlash text := by
  obtain ⟨stem, last, rfl⟩ := (List.eq_nil_or_concat text).resolve_left filled
  simp only [withoutFinalSlash, List.concat_eq_append, ← List.append_assoc, List.getLast?_concat,
    List.dropLast_concat]
  split
  · rfl
  · rw [List.append_assoc]

theorem withoutFinalSlash_of_not_mem (absent : '/' ∉ text) : withoutFinalSlash text = text := by
  rw [withoutFinalSlash, if_neg]
  exact fun last => absent (List.mem_of_getLast? last)

/-- The slash at the end of an encoded text is the one at the end of the text. -/
theorem withoutFinalSlash_encode (text : List Char) :
    withoutFinalSlash (encode text) = encode (withoutFinalSlash text) := by
  rcases List.eq_nil_or_concat text with rfl | ⟨before, character, rfl⟩
  · rfl
  · have written : encode [character] = encodeChar character := List.append_nil _
    rw [List.concat_eq_append, encode_append, written,
      withoutFinalSlash_append _ (encodeChar_ne_nil character),
      withoutFinalSlash_append _ (List.cons_ne_nil character []), encode_append]
    by_cases slash : character = '/'
    · subst slash
      rfl
    · rw [withoutFinalSlash_of_not_mem (slash_not_mem_encodeChar slash),
        withoutFinalSlash_of_not_mem (by simpa using Ne.symm slash), written]

/-- The path that the URI of a plain path encodes. -/
def uriPath (path : String) : List Char :=
  withoutFinalSlash ('/' :: (resolve (relativePath path.toList)).dropWhile (· == '/'))

/-- The URI of a plain path is the scheme and the encoding of a path. -/
theorem uriOf_of_plain (plain : Plain path.toList) :
    (uriOf path).toList = "file://".toList ++ encode (uriPath path) := by
  have plainRelative : Plain (relativePath path.toList) :=
    fun character member => plain character ((relativePath_suffix _).subset member)
  have whole : FileUri.ofPath (relativePath path.toList) = "file://".toList ++
      encode ('/' :: (resolve (relativePath path.toList)).dropWhile (· == '/')) := by
    have scheme : "file:///".toList = "file://".toList ++ ['/'] := by simp
    unfold FileUri.ofPath
    rw [encodePath_of_plain plainRelative, dropWhile_slash_encode, encode_cons, encodeChar_slash,
      scheme, List.append_assoc]
  have filled : encode ('/' :: (resolve (relativePath path.toList)).dropWhile (· == '/')) ≠ [] :=
    mt encode_eq_nil_iff.mp (List.cons_ne_nil _ _)
  rw [uriOf, String.toList_ofList, whole, withoutFinalSlash_append _ filled,
    withoutFinalSlash_encode, uriPath]

theorem withoutFinalSlash_subset (text : List Char) : withoutFinalSlash text ⊆ text := by
  rw [withoutFinalSlash]
  split
  · exact List.dropLast_subset text
  · exact List.Subset.refl text

theorem percent_not_mem_uriPath (plain : Plain path.toList) : '%' ∉ uriPath path := by
  intro member
  rcases List.mem_cons.mp (withoutFinalSlash_subset _ member) with slash | later
  · exact absurd slash (by decide)
  · rcases mem_of_mem_resolve ((List.dropWhile_suffix _).subset later) with slash | inPath
    · exact absurd slash (by decide)
    · exact plain.not_mem (by decide) ((relativePath_suffix _).subset inPath)

/-- A path as it is read back: without the slash in front and the slash at the end. -/
def trimmed (path : String) : String :=
  String.ofList (withoutFinalSlash (relativePath path.toList))

/-- A plain path without dot components that goes on with a name after the slash in front. -/
structure Direct (path : String) : Prop where
  plain : Plain path.toList
  filled : relativePath path.toList ≠ []
  single : (relativePath path.toList).head? ≠ some '/'
  undotted : ∀ component ∈ splitAt '/' path, component ≠ "." ∧ component ≠ ".."

/-- The segments of a path are components of the path, whether or not it starts with a slash. -/
theorem mem_splitAt_of_relativePath {segment : List Char}
    (member : segment ∈ splitWhere (· == '/') (relativePath path.toList)) :
    String.ofList segment ∈ splitAt '/' path := by
  refine List.mem_map_of_mem ?_
  revert member
  unfold relativePath
  split
  · rename_i rest text
    rw [text]
    exact List.mem_cons_of_mem _
  · exact id

theorem Direct.uriPath_eq (direct : Direct path) : uriPath path = '/' :: (trimmed path).toList := by
  have undotted : ∀ segment ∈ splitWhere (· == '/') (relativePath path.toList),
      ¬goesUp segment ∧ ¬stays segment := by
    intro segment member
    obtain ⟨notStay, notUp⟩ := direct.undotted _ (mem_splitAt_of_relativePath member)
    constructor
    · rintro rfl
      exact notUp rfl
    · rintro rfl
      exact notStay rfl
  have ends : EndsRun (· == '/') (relativePath path.toList) := by
    intro next first
    exact beq_false_of_ne fun same => direct.single (same ▸ first)
  rw [uriPath, resolve_of_undotted undotted, ends.dropWhile_eq_self, trimmed,
    String.toList_ofList]
  exact withoutFinalSlash_append ['/'] direct.filled

theorem uriOf_of_direct (direct : Direct path) :
    (uriOf path).toList = "file:///".toList ++ encode (trimmed path).toList := by
  have scheme : "file:///".toList = "file://".toList ++ ['/'] := by simp
  rw [uriOf_of_plain direct.plain, direct.uriPath_eq, encode_cons, encodeChar_slash, scheme,
    List.append_assoc]

theorem Direct.percent_not_mem (direct : Direct path) : '%' ∉ (trimmed path).toList := by
  have absent := percent_not_mem_uriPath direct.plain
  rw [direct.uriPath_eq] at absent
  exact fun member => absent (List.mem_cons_of_mem _ member)

/-- The URI of a direct path gives the path back, but for a slash at either end. So two such paths
with one URI differ in nothing else. -/
theorem decode_uri_of_direct (span : Source.Span) (direct : Direct span.script.path) :
    (∃ encoded, (ofSpan span).uri.toList = "file:///".toList ++ encoded ∧
      (decode encoded).toByteArray = (trimmed span.script.path).toUTF8) ∧
    ∀ other : Source.Span, Direct other.script.path → (ofSpan other).uri = (ofSpan span).uri →
      trimmed other.script.path = trimmed span.script.path := by
  constructor
  · refine ⟨encode (trimmed span.script.path).toList, uriOf_of_direct direct, ?_⟩
    rw [toByteArray_decode_encode direct.percent_not_mem, String.ofList_toList]
  · intro other otherDirect same
    have lists : "file:///".toList ++ encode (trimmed other.script.path).toList =
        "file:///".toList ++ encode (trimmed span.script.path).toList := by
      rw [← uriOf_of_direct otherDirect, ← uriOf_of_direct direct]
      exact congrArg String.toList same
    exact String.toList_inj.mp (encode_inj otherDirect.percent_not_mem direct.percent_not_mem
      (List.append_cancel_left lists))

/-- A place in a script whose path has an empty component, reserved characters and characters of
several bytes. -/
def reservedNames : Source.Span where
  script := .ofContent "/é //#1?/日本/" ""
  position := ⟨1, 0⟩

theorem decode_uri_of_direct_reservedNames :
    Direct reservedNames.script.path ∧
      (ofSpan reservedNames).uri = "file:///%C3%A9%20//%231%3F/%E6%97%A5%E6%9C%AC" ∧
      ∃ encoded, (ofSpan reservedNames).uri.toList = "file:///".toList ++ encoded ∧
        (decode encoded).toByteArray = "é //#1?/日本".toUTF8 := by
  have direct : Direct reservedNames.script.path :=
    ⟨by decide +kernel, by decide +kernel, by decide +kernel, by decide +kernel⟩
  have same : trimmed reservedNames.script.path = "é //#1?/日本" := by decide +kernel
  exact ⟨direct, by decide +kernel, same ▸ (decode_uri_of_direct reservedNames direct).1⟩

end Location

end DiagnosticReplay
