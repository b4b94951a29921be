import DiagnosticReplay.Proofs.FileUri.Characters
import DiagnosticReplay.Proofs.Location.Decoding
import DiagnosticReplay.Proofs.Text.Escapes

/-! # Clean URIs

Whatever a path holds, its URI can be printed and quoted: it starts with the scheme and goes on in
printable ASCII without blanks, quotes and brackets. Where segments are removed and slashes are
dropped, the text is cut at a slash, and where a drive comes apart no percent sign is near, so no
escape is ever cut through.
-/

namespace DiagnosticReplay

open Text PercentEncoding

namespace FileUri

/-- Reading a path cuts through no escape. -/
theorem KeptByReading.escapesComplete : KeptByReading EscapesComplete where
  slash := escapesComplete_of_not_mem (by decide)
  colon := escapesComplete_of_not_mem (by decide)
  append := EscapesComplete.append
  beforeSlash whole := whole.before (by decide)
  rest := EscapesComplete.suffix
  apart {text mark} whole short member isMark := by
    have marks : ∀ mark ∈ [':', '|'], mark ∉ escapeDigits ∧ mark ≠ '%' :=
      List.forall_mem_cons.mpr ⟨by decide, List.forall_mem_singleton.mpr (by decide)⟩
    have noDigit := marks mark isMark
    -- A percent sign would need the other two characters for its digits.
    have noPercent : '%' ∉ text := by
      intro percent
      obtain ⟨before, after, rfl⟩ := List.append_of_mem percent
      obtain ⟨high, low, rest, rfl, isHigh, isLow⟩ := whole after (List.suffix_append before _)
      simp only [List.length_append, List.length_cons] at short
      obtain rfl : before = [] := List.length_eq_zero_iff.mp (by omega)
      obtain rfl : rest = [] := List.length_eq_zero_iff.mp (by omega)
      simp only [List.nil_append, List.mem_cons, List.not_mem_nil, or_false] at member
      rcases member with rfl | rfl | rfl
      · exact noDigit.2 rfl
      · exact noDigit.1 isHigh
      · exact noDigit.1 isLow
    intro character inText
    refine escapesComplete_of_not_mem ?_
    simpa using fun same : '%' = character => noPercent (same ▸ inText)

end FileUri

namespace Location

open FileUri

/-- The characters of ASCII that can be printed and stand in no URI. -/
def uncleanCharacters : List Char :=
  [' ', '"', '#', '<', '>', '?', '\x60', '\x7b', '\x7d', '\\']

/-- The text starts with the scheme and goes on in printable characters that need no quoting. -/
structure Clean (uri : String) : Prop where
  scheme : "file://".toList <+: uri.toList
  printable : ∀ character ∈ uri.toList, '!' ≤ character ∧ character ≤ '~'
  unquoted : ∀ character ∈ uri.toList, character ∉ uncleanCharacters

theorem scheme_prefix_uriOf (path : String) : "file://".toList <+: (uriOf path).toList := by
  have scheme : "file:///".toList = "file://".toList ++ ['/'] := by simp
  have shown : (uriOf path).toList = withoutFinalSlash (FileUri.ofPath (relativePath path.toList)) :=
    String.toList_ofList
  unfold FileUri.ofPath at shown
  rw [scheme, List.append_assoc, List.singleton_append,
    withoutFinalSlash_append "file://".toList (List.cons_ne_nil '/' _)] at shown
  rw [shown]
  exact List.prefix_append _ _

/-- Both kinds of slash end a segment, so a backslash is never encoded. -/
theorem backslash_not_mem_uriOf (path : String) : '\\' ∉ (uriOf path).toList := by
  have kept : KeptByReading fun text => ∀ character ∈ text, character ≠ '\\' :=
    .ofCharacters (by decide) (by decide)
  have absent := holds_uriOf kept path (by simp) fun stretch made character member => by
    rintro rfl
    rcases mem_of_mem_encode member with inStretch | foreign
    · exact absurd (made '\\' inStretch).2 (by decide)
    · exact absurd foreign (by decide)
  exact fun member => absent '\\' member rfl

theorem clean_uriOf (path : String) : Clean (uriOf path) where
  scheme := scheme_prefix_uriOf path
  printable character member := by
    obtain ⟨low, high, -⟩ := pathCharacter_of_mem_uriOf member
    exact ⟨low, Nat.le_of_lt_succ high⟩
  unquoted character member unclean := by
    obtain ⟨-, -, notReserved⟩ := pathCharacter_of_mem_uriOf member
    have known : ∀ other ∈ uncleanCharacters, other ∈ reserved ∨ other = '\\' := by
      simp [uncleanCharacters, reserved]
    rcases known character unclean with isReserved | rfl
    · exact notReserved isReserved
    · exact backslash_not_mem_uriOf path member

theorem escapesComplete_uriOf {path : String} (plain : '%' ∉ path.toList) :
    EscapesComplete (uriOf path).toList := by
  refine holds_uriOf .escapesComplete path (escapesComplete_of_not_mem (by simp)) ?_
  intro stretch made
  exact escapesComplete_encode fun member => plain (made '%' member).1

/-- The URI of every path is clean, and if the path has no percent sign, then every percent sign of
the URI has its two digits. -/
theorem uri_clean (span : Source.Span) : Clean (ofSpan span).uri ∧
    ('%' ∉ span.script.path.toList → EscapesComplete (ofSpan span).uri.toList) :=
  ⟨clean_uriOf span.script.path, escapesComplete_uriOf⟩

/-- A path with a drive that a dropped character ends, an escape before a segment that is removed, and
a name outside ASCII at the end. -/
theorem uri_clean_driveAndDots :
    '%' ∉ "\\c:\tx/<é>/..\\日本\\".toList ∧
      uriOf "\\c:\tx/<é>/..\\日本\\" = "file:///c:/x/%E6%97%A5%E6%9C%AC" ∧
      EscapesComplete (uriOf "\\c:\tx/<é>/..\\日本\\").toList := by
  have plain : '%' ∉ "\\c:\tx/<é>/..\\日本\\".toList := by decide +kernel
  exact ⟨plain, by decide +kernel,
    (uri_clean ⟨.ofContent "\\c:\tx/<é>/..\\日本\\" "", ⟨1, 0⟩⟩).2 plain⟩

end Location

end DiagnosticReplay
