import DiagnosticReplay.Proofs.Location.Decoding

/-! # Dot components

A `..` component of a path leaves the component entered last. Reading a path into a URI follows the
same rule on the segments it keeps, with two differences: the first segment that is kept is never
left, and an empty segment can be left although it is no component of its own. So the URI denotes the
file of the path as long as no `..` meets either of the two. If a name is kept first, a single one
that does is not made up for by anything that follows.
-/

namespace DiagnosticReplay.Location

open Text PercentEncoding FileUri

/-- Enter a component of a path. An empty component and `.` enter nothing, and `..` leaves the
component entered last, if there is one. -/
def enter (entered : List (List Char)) (component : List Char) : List (List Char) :=
  if goesUp component then entered.tail
  else if stays component ∨ component = [] then entered
  else component :: entered

/-- The components that are entered when a path is followed from the root. -/
def normalForm (text : List Char) : List (List Char) :=
  ((splitWhere (· == '/') text).foldl enter []).reverse

/-- Decoded, the path of a file URI has the normal form of the given path. -/
def Denotes (uri path : String) : Prop :=
  ∃ (encoded : List Char) (decoded : String), uri.toList = "file://".toList ++ encoded ∧
    (decode encoded).toByteArray = decoded.toUTF8 ∧
    normalForm decoded.toList = normalForm path.toList

/-- The components of a path, less the slash in front. -/
def components (path : String) : List (List Char) :=
  splitWhere (· == '/') (relativePath path.toList)

/-- The segments that are no empty ones. -/
def names (segments : List (List Char)) : List (List Char) :=
  segments.filter (· ≠ [])

/-- If the segment goes up, then no segment is kept, or the one kept last is a name that stands after
another segment. -/
def LeavesName (kept : List (List Char)) (segment : List Char) : Prop :=
  goesUp segment → kept = [] ∨ kept.head? ≠ some [] ∧ 2 ≤ kept.length

/-- Each of the segments leaves a name if it goes up. -/
def TakesBack (kept : List (List Char)) : List (List Char) → Prop
  | [] => True
  | segment :: rest => LeavesName kept segment ∧ TakesBack (keep kept segment) rest

/-- The first component that is no dots, and so the first segment that is kept. -/
def firstKept? (path : String) : Option (List Char) :=
  (components path).find? fun component => ¬(goesUp component ∨ stays component)

instance (kept : List (List Char)) (segment : List Char) : Decidable (LeavesName kept segment) :=
  inferInstanceAs (Decidable (goesUp segment → _))

instance decidableTakesBack : (kept segments : List (List Char)) →
    Decidable (TakesBack kept segments)
  | _, [] => inferInstanceAs (Decidable True)
  | kept, segment :: rest =>
    have := decidableTakesBack (keep kept segment) rest
    inferInstanceAs (Decidable (LeavesName kept segment ∧ TakesBack (keep kept segment) rest))

variable {path : String} {text segment last : List Char}
variable {kept entered segments rest : List (List Char)}

section NormalForm

@[simp] theorem enter_nil (entered : List (List Char)) : enter entered [] = entered := by
  simp [enter]

theorem normalForm_cons_slash (text : List Char) : normalForm ('/' :: text) = normalForm text := by
  simp [normalForm, splitWhere]

theorem normalForm_dropWhile_slash (text : List Char) :
    normalForm (text.dropWhile (· == '/')) = normalForm text := by
  induction text with
  | nil => rfl
  | cons character rest ih =>
    by_cases slash : character = '/'
    · subst slash
      rw [List.dropWhile_cons_of_pos (by simp), ih, normalForm_cons_slash]
    · rw [List.dropWhile_cons_of_neg (by simpa using slash)]

theorem normalForm_append_slash (text : List Char) :
    normalForm (text ++ ['/']) = normalForm text := by
  have parts : splitWhere (· == '/') (text ++ ['/']) = splitWhere (· == '/') text ++ [[]] :=
    splitWhere_append_cons '/' text []
  rw [normalForm, parts, List.foldl_append, List.foldl_cons, List.foldl_nil, enter_nil, normalForm]

theorem normalForm_withoutFinalSlash (text : List Char) :
    normalForm (withoutFinalSlash text) = normalForm text := by
  rw [withoutFinalSlash]
  split
  · rename_i slash
    obtain ⟨stem, rfl⟩ := List.getLast?_eq_some_iff.mp slash
    rw [List.dropLast_concat, normalForm_append_slash]
  · rfl

theorem normalForm_relativePath (text : List Char) :
    normalForm (relativePath text) = normalForm text := by
  unfold relativePath
  split
  · rw [normalForm_cons_slash]
  · rfl

/-- A component that is taken for what it is: it has no slash, and it is no dots. -/
structure Ordinary (component : List Char) : Prop where
  whole : '/' ∉ component
  notUp : ¬goesUp component
  notStay : ¬stays component

theorem foldl_enter_of_ordinary (ordinary : ∀ segment ∈ segments, Ordinary segment) :
    segments.foldl enter entered = (names segments).reverse ++ entered := by
  induction segments generalizing entered with
  | nil => rfl
  | cons segment rest ih =>
    obtain ⟨⟨-, notUp, notStay⟩, others⟩ := List.forall_mem_cons.mp ordinary
    rw [List.foldl_cons, ih others, enter, if_neg notUp]
    by_cases empty : segment = []
    · simp [names, empty]
    · simp [names, empty, notStay]

/-- Segments are found again in the text that closes each of them. -/
theorem splitWhere_closed (whole : ∀ segment ∈ segments, '/' ∉ segment) (lastWhole : '/' ∉ last) :
    splitWhere (· == '/') (closed segments ++ last) = segments ++ [last] := by
  induction segments with
  | nil => exact splitWhere_of_not_mem lastWhole
  | cons segment rest ih =>
    obtain ⟨first, others⟩ := List.forall_mem_cons.mp whole
    have text : closed (segment :: rest) ++ last = segment ++ '/' :: (closed rest ++ last) := by
      simp [closed]
    rw [text, splitWhere_append_cons, splitWhere_of_not_mem first, ih others]
    rfl

/-- Following ordinary segments enters the names among them. -/
theorem normalForm_closed (ordinary : ∀ segment ∈ segments, Ordinary segment)
    (lastOrdinary : Ordinary last) :
    normalForm (closed segments ++ last) = names (segments ++ [last]) := by
  have all : ∀ segment ∈ segments ++ [last], Ordinary segment :=
    List.forall_mem_append.mpr ⟨ordinary, List.forall_mem_singleton.mpr lastOrdinary⟩
  have parts := splitWhere_closed (fun segment member => (ordinary segment member).whole)
    lastOrdinary.whole
  rw [normalForm, parts, foldl_enter_of_ordinary all, List.append_nil, List.reverse_reverse]

/-- Following what the dot segments leave of a path enters the names that are kept. -/
theorem normalForm_resolve (text : List Char) :
    normalForm (resolve text) =
      (names ((splitWhere (· == '/') text).foldl keep [])).reverse := by
  obtain ⟨segments, last, split, -⟩ := exists_segments text
  have each : ∀ segment ∈ segments ++ [last], '/' ∉ segment := by
    intro segment member slash
    exact absurd (of_mem_splitWhere (split ▸ member) slash).2 (by decide)
  obtain ⟨whole, lastWhole⟩ := List.forall_mem_append.mp each
  have kept : ∀ segment ∈ segments.foldl keep [], Ordinary segment :=
    forall_foldl_keep (by simp) fun segment member => .mk (whole segment member)
  have finished : ∀ segment ∈ keep (segments.foldl keep []) last, Ordinary segment :=
    forall_keep kept (.mk (lastWhole last List.mem_cons_self))
  rw [resolve_eq_finish split, split, List.foldl_append, List.foldl_cons, List.foldl_nil, finish,
    names, ← List.filter_reverse]
  split
  · -- The dots leave no last segment, so an empty one stands there.
    have empty : Ordinary [] := ⟨by simp, by simp, by simp⟩
    have text := normalForm_closed
      (fun segment member => finished segment (List.mem_reverse.mp member)) empty
    simpa [names] using text
  · rename_i plain
    obtain ⟨notUp, notStay⟩ := not_or.mp plain
    rw [normalForm_closed (fun segment member => kept segment (List.mem_reverse.mp member))
      ⟨lastWhole last List.mem_cons_self, notUp, notStay⟩, keep, if_neg notUp, if_neg notStay,
      List.reverse_cons, names]

end NormalForm

section Stacks

@[simp] theorem names_cons_nil (kept : List (List Char)) : names ([] :: kept) = names kept := by
  simp [names]

theorem names_cons_of_ne_nil (filled : segment ≠ []) (kept : List (List Char)) :
    names (segment :: kept) = segment :: names kept := by
  simp [names, filled]

theorem length_names_cons_le (segment : List Char) (kept : List (List Char)) :
    (names (segment :: kept)).length ≤ (names kept).length + 1 := by
  by_cases empty : segment = []
  · simp [empty]
  · simp [names_cons_of_ne_nil empty]

/-- The names that are kept are the components entered, if they were before. -/
theorem enter_names (leaves : LeavesName kept segment) :
    enter (names kept) segment = names (keep kept segment) := by
  rw [enter, keep]
  by_cases up : goesUp segment
  · rw [if_pos up, if_pos up]
    rcases leaves up with rfl | ⟨filled, two⟩
    · rfl
    · rcases kept with _ | ⟨name, _ | ⟨second, earlier⟩⟩
      · exact absurd two (by decide)
      · exact absurd two (by simp)
      · have named : name ≠ [] := fun empty => filled (congrArg some empty)
        rw [names_cons_of_ne_nil named, List.tail_cons, parent]
  · rw [if_neg up, if_neg up]
    by_cases stay : stays segment
    · rw [if_pos (.inl stay), if_pos stay]
    · by_cases empty : segment = []
      · simp [empty]
      · rw [if_neg (not_or.mpr ⟨stay, empty⟩), if_neg stay, names_cons_of_ne_nil empty]

theorem TakesBack.foldl_enter (back : TakesBack kept segments) :
    segments.foldl enter (names kept) = names (segments.foldl keep kept) := by
  induction segments generalizing kept with
  | nil => rfl
  | cons segment rest ih =>
    obtain ⟨leaves, later⟩ := back
    rw [List.foldl_cons, enter_names leaves, ih later, List.foldl_cons]

/-- The first segment that was kept is a name. -/
def StartsNamed (kept : List (List Char)) : Prop :=
  ∃ name, kept.getLast? = some name ∧ name ≠ []

theorem StartsNamed.keep (named : StartsNamed kept) (segment : List Char) :
    StartsNamed (keep kept segment) := by
  obtain ⟨name, bottom, filled⟩ := named
  refine ⟨name, ?_, filled⟩
  rw [FileUri.keep]
  split
  · rcases kept with _ | ⟨_, _ | ⟨second, earlier⟩⟩
    · exact bottom
    · exact bottom
    · simpa [parent] using bottom
  · split
    · exact bottom
    · rw [List.getLast?_cons, bottom, Option.getD_some]

theorem StartsNamed.length_names_pos (named : StartsNamed kept) : 0 < (names kept).length := by
  obtain ⟨name, bottom, filled⟩ := named
  apply List.length_pos_of_mem (a := name)
  simpa [names, filled] using List.mem_of_getLast? bottom

/-- There are more names kept than components entered. -/
structure Behind (kept entered : List (List Char)) : Prop where
  named : StartsNamed kept
  fewer : entered.length < (names kept).length

/-- Nothing that follows makes up for a component that was left too many. -/
theorem Behind.step (behind : Behind kept entered) (segment : List Char) :
    Behind (keep kept segment) (enter entered segment) := by
  have named := behind.named.keep segment
  obtain ⟨-, fewer⟩ := behind
  refine ⟨named, ?_⟩
  rw [enter]
  unfold FileUri.keep at named ⊢
  by_cases up : goesUp segment
  · rw [if_pos up] at named
    rw [if_pos up, if_pos up, List.length_tail]
    rcases kept with _ | ⟨last, _ | ⟨second, earlier⟩⟩
    · exact Nat.lt_of_le_of_lt (Nat.sub_le _ _) fewer
    · exact Nat.lt_of_le_of_lt (Nat.sub_le _ _) fewer
    · have positive := named.length_names_pos
      have most := length_names_cons_le last (second :: earlier)
      rw [parent] at positive ⊢
      omega
  · rw [if_neg up, if_neg up]
    by_cases stay : stays segment
    · rw [if_pos stay, if_pos (.inl stay)]
      exact fewer
    · rw [if_neg stay]
      by_cases empty : segment = []
      · simpa [empty] using fewer
      · rw [if_neg (not_or.mpr ⟨stay, empty⟩), names_cons_of_ne_nil empty]
        exact Nat.succ_lt_succ fewer

theorem Behind.foldl (behind : Behind kept entered) :
    Behind (segments.foldl keep kept) (segments.foldl enter entered) := by
  induction segments generalizing kept entered with
  | nil => exact behind
  | cons segment rest ih => exact ih (behind.step segment)

/-- A `..` that leaves no name takes a component back that stays kept. -/
theorem behind_of_not_leavesName (named : StartsNamed kept) (stuck : ¬LeavesName kept segment) :
    Behind (keep kept segment) (enter (names kept) segment) := by
  refine ⟨named.keep segment, ?_⟩
  obtain ⟨up, blocked⟩ := Classical.not_imp.mp stuck
  have positive := named.length_names_pos
  rw [enter, if_pos up, FileUri.keep, if_pos up, List.length_tail]
  obtain ⟨filled, noName⟩ := not_or.mp blocked
  rcases kept with _ | ⟨last, _ | ⟨second, earlier⟩⟩
  · exact absurd rfl filled
  · exact Nat.sub_lt positive Nat.one_pos
  · have empty : last = [] := by simpa using noName
    subst empty
    rw [names_cons_nil] at positive ⊢
    rw [parent]
    omega

theorem StartsNamed.takesBack (named : StartsNamed kept)
    (same : segments.foldl enter (names kept) = names (segments.foldl FileUri.keep kept)) :
    TakesBack kept segments := by
  induction segments generalizing kept with
  | nil => trivial
  | cons segment rest ih =>
    rw [List.foldl_cons, List.foldl_cons] at same
    by_cases leaves : LeavesName kept segment
    · refine ⟨leaves, ih (named.keep segment) ?_⟩
      rw [← enter_names leaves, same]
    · have behind : Behind (rest.foldl FileUri.keep (FileUri.keep kept segment))
          (rest.foldl enter (enter (names kept) segment)) :=
        (behind_of_not_leavesName named leaves).foldl
      have fewer := behind.fewer
      rw [same] at fewer
      exact absurd fewer (Nat.lt_irrefl _)

/-- Dots in front of the first segment that is kept do nothing. -/
theorem takesBack_of_foldl_enter
    (first : segments.find? (fun segment => ¬(goesUp segment ∨ stays segment)) ≠ some [])
    (same : segments.foldl enter [] = names (segments.foldl keep [])) : TakesBack [] segments := by
  induction segments with
  | nil => trivial
  | cons segment rest ih =>
    refine ⟨fun _ => .inl rfl, ?_⟩
    rw [List.foldl_cons, List.foldl_cons] at same
    by_cases dots : goesUp segment ∨ stays segment
    · have nothing : keep [] segment = [] ∧ enter [] segment = [] := by
        rcases dots with rfl | rfl <;> exact ⟨rfl, rfl⟩
      rw [List.find?_cons_of_neg (by simpa only [decide_eq_true_eq, not_not] using dots)] at first
      rw [nothing.1, nothing.2] at same
      rw [nothing.1]
      exact ih first same
    · have filled : segment ≠ [] := by
        rw [List.find?_cons_of_pos (by simpa only [decide_eq_true_eq] using dots)] at first
        exact fun empty => first (congrArg some empty)
      obtain ⟨notUp, notStay⟩ := not_or.mp dots
      have one : keep [] segment = [segment] := by
        rw [keep, if_neg notUp, if_neg notStay]
      have entered : enter [] segment = names [segment] := by
        rw [← one, ← enter_names fun up => absurd up notUp]
        rfl
      rw [one, entered] at same
      rw [one]
      exact StartsNamed.takesBack ⟨segment, rfl, filled⟩ same

end Stacks

section Denoting

/-- The URI of a plain path denotes its file if the names that are kept are the components entered. -/
theorem denotes_uriOf_iff (plain : Plain path.toList) :
    Denotes (uriOf path) path ↔
      (components path).foldl enter [] = names ((components path).foldl keep []) := by
  have followed : normalForm path.toList = ((components path).foldl enter []).reverse := by
    rw [← normalForm_relativePath, normalForm, components]
  have kept : normalForm (uriPath path) = (names ((components path).foldl keep [])).reverse := by
    rw [uriPath, normalForm_withoutFinalSlash, normalForm_cons_slash, normalForm_dropWhile_slash,
      normalForm_resolve, components]
  rw [Denotes, followed, uriOf_of_plain plain]
  constructor
  · rintro ⟨encoded, decoded, text, bytes, same⟩
    obtain rfl := List.append_cancel_left text
    rw [toByteArray_decode_encode (percent_not_mem_uriPath plain)] at bytes
    obtain rfl : String.ofList (uriPath path) = decoded := String.toByteArray_inj.mp bytes
    rw [String.toList_ofList, kept] at same
    exact (List.reverse_inj.mp same).symm
  · intro same
    refine ⟨encode (uriPath path), String.ofList (uriPath path), rfl,
      toByteArray_decode_encode (percent_not_mem_uriPath plain), ?_⟩
    rw [String.toList_ofList, kept, same]

/-- The URI denotes the file of the path if every `..` component takes a name back that is not the
first one kept. When a name is kept first, it denotes the file only then. -/
theorem denotes_uri_of_takesBack (span : Source.Span) (plain : Plain span.script.path.toList) :
    (TakesBack [] (components span.script.path) → Denotes (ofSpan span).uri span.script.path) ∧
      (firstKept? span.script.path ≠ some [] → Denotes (ofSpan span).uri span.script.path →
        TakesBack [] (components span.script.path)) := by
  constructor
  · intro back
    exact (denotes_uriOf_iff plain).mpr back.foldl_enter
  · intro first denotes
    exact takesBack_of_foldl_enter first ((denotes_uriOf_iff plain).mp denotes)

/-- A place in a script whose path goes up from a second component and, before that, from the root. -/
def upFromSecond : Source.Span where
  script := .ofContent "/../a/./b c/../é//d" ""
  position := ⟨1, 0⟩

theorem denotes_uri_of_takesBack_upFromSecond :
    Plain upFromSecond.script.path.toList ∧
      TakesBack [] (components upFromSecond.script.path) ∧
      (ofSpan upFromSecond).uri = "file:///a/%C3%A9//d" ∧
      Denotes (ofSpan upFromSecond).uri upFromSecond.script.path := by
  have plain : Plain upFromSecond.script.path.toList := by decide +kernel
  have back : TakesBack [] (components upFromSecond.script.path) := by decide +kernel
  exact ⟨plain, back, by decide +kernel, (denotes_uri_of_takesBack upFromSecond plain).1 back⟩

/-- A place in a script whose path goes up from its first component. -/
def upFromFirst : Source.Span where
  script := .ofContent "/x/../y" ""
  position := ⟨1, 0⟩

/-- The first component stays in the URI although `..` leaves it. -/
theorem not_denotes_uri_upFromFirst :
    Plain upFromFirst.script.path.toList ∧
      normalForm upFromFirst.script.path.toList = ["y".toList] ∧
      (ofSpan upFromFirst).uri = "file:///x/y" ∧
      ¬Denotes (ofSpan upFromFirst).uri upFromFirst.script.path := by
  have plain : Plain upFromFirst.script.path.toList := by decide +kernel
  have behind : (components upFromFirst.script.path).foldl enter [] ≠
      names ((components upFromFirst.script.path).foldl keep []) := by decide +kernel
  exact ⟨plain, by decide +kernel, by decide +kernel, mt (denotes_uriOf_iff plain).mp behind⟩

end Denoting

end DiagnosticReplay.Location
