import DiagnosticReplay.Proofs.Replay.Faults

/-! # The order of arguments

The arguments of a record stand in a map, and nothing says in which order the map is walked. It makes
no difference to the records that are accepted: two neighbours that are both attached have names that
differ in more than case, so they can change places, and any order can be reached from any other by
such changes. Only which fault is blamed hangs on the order, and where a record has faults of one name
or of one operator alone, there is only one to blame.
-/

namespace DiagnosticReplay

namespace Record

/-- An order in which the arguments of a record can be met. -/
structure Entry.Order (entry : Entry) where
  arguments : List (String × ArgumentEntry)
  perm : arguments.Perm entry.arguments.entries

namespace Entry

/-- The order by the exact names. -/
def ascending (entry : Entry) : entry.Order :=
  ⟨entry.arguments.entries, .refl _⟩

/-- Two arguments have different names that fold to one. -/
structure Clash (entry : Entry) (one other : String × ArgumentEntry) : Prop where
  first : one ∈ entry.arguments.entries
  second : other ∈ entry.arguments.entries
  differ : one.1 ≠ other.1
  same : Text.foldCase one.1 = Text.foldCase other.1

/-- An argument gives an operator by a text that no operator has. -/
structure Misspells (entry : Entry) (argument : String × ArgumentEntry) (text : String) : Prop where
  member : argument ∈ entry.arguments.entries
  given : argument.2.operatorText? = some text
  unknown : ∀ operator : Operator, operator.text ≠ text

/-- The record has one fault alone, which the error names. -/
inductive OnlyFault (origin : String) (entry : Entry) : LoadError → Prop where
  /-- Some names fold to one, whatever their number, and no others fold alike. -/
  | sharedName {one other : String × ArgumentEntry} (clash : entry.Clash one other)
      (only : ∀ first second, entry.Clash first second →
        Text.foldCase first.1 = Text.foldCase one.1)
      (spelled : ∀ argument text, ¬entry.Misspells argument text) :
      OnlyFault origin entry (.duplicateArgument origin entry.id (Text.foldCase one.1))
  /-- One argument gives an unknown operator. -/
  | unknownOperator {argument : String × ArgumentEntry} {text : String}
      (misspells : entry.Misspells argument text)
      (only : ∀ other given, entry.Misspells other given → other = argument)
      (apart : ∀ one other, ¬entry.Clash one other) :
      OnlyFault origin entry (.unknownOperator origin text)

variable {entry : Entry} {origin : String} {error : LoadError}

/-- What a record is blamed for is a clash of two arguments, or an operator that one misspells. -/
theorem blames_iff : entry.Blames origin error ↔
    (∃ one other, entry.Clash one other ∧
      error = .duplicateArgument origin entry.id (Text.foldCase one.1)) ∨
    ∃ argument text, entry.Misspells argument text ∧ error = .unknownOperator origin text := by
  have listed {name : String} {value : ArgumentEntry} :
      entry.arguments.get? name = some value ↔ (name, value) ∈ entry.arguments.entries :=
    (SortedMap.mem_entries_iff entry.arguments).symm
  constructor
  · intro blames
    cases blames with
    | unknownOperator held given unknown =>
      exact .inr ⟨_, _, ⟨listed.mp held, given, Operator.ofText?_eq_none_iff.mp unknown⟩, rfl⟩
    | duplicateArgument differ first second same =>
      exact .inl ⟨_, _, ⟨listed.mp first, listed.mp second, differ, same⟩, rfl⟩
  · rintro (⟨one, other, clash, rfl⟩ | ⟨argument, text, misspells, rfl⟩)
    · exact .duplicateArgument clash.differ (listed.mpr clash.first) (listed.mpr clash.second)
        clash.same
    · exact .unknownOperator (listed.mpr misspells.member) misspells.given
        (Operator.ofText?_eq_none_iff.mpr misspells.unknown)

theorem OnlyFault.blames (fault : entry.OnlyFault origin error) : entry.Blames origin error := by
  cases fault with
  | sharedName clash => exact blames_iff.mpr (.inl ⟨_, _, clash, rfl⟩)
  | unknownOperator misspells => exact blames_iff.mpr (.inr ⟨_, _, misspells, rfl⟩)

/-- A record with one fault can be blamed for nothing else. -/
theorem OnlyFault.eq_of_blames (fault : entry.OnlyFault origin error) {other : LoadError}
    (blames : entry.Blames origin other) : other = error := by
  cases fault with
  | sharedName _ only spelled =>
    rcases blames_iff.mp blames with ⟨one, two, clash, rfl⟩ | ⟨argument, text, misspells, -⟩
    · rw [only one two clash]
    · exact absurd misspells (spelled argument text)
  | unknownOperator misspells only apart =>
    rcases blames_iff.mp blames with ⟨one, two, clash, -⟩ | ⟨argument, text, another, rfl⟩
    · exact absurd clash (apart one two)
    · obtain rfl := only argument text another
      rw [Option.some.inj (another.given.symm.trans misspells.given)]

end Entry

end Record

namespace Replay

variable {origin : String} {diagnostic result : Diagnostic}

/-- Two neighbours can change places. -/
theorem attachAll_swap_eq_ok {one other : String × Record.ArgumentEntry}
    {rest : List (String × Record.ArgumentEntry)}
    (attached : attachAll origin diagnostic (one :: other :: rest) = .ok result) :
    attachAll origin diagnostic (other :: one :: rest) = .ok result := by
  obtain ⟨isFree, value, isValue, following⟩ := attachAll_cons_eq_ok_iff.mp attached
  obtain ⟨otherIsFree, held, isHeld, attachedRest⟩ := attachAll_cons_eq_ok_iff.mp following
  rw [Diagnostic.argument?_withArgument] at otherIsFree
  split at otherIsFree
  · simp at otherIsFree
  · rename_i differ
    refine attachAll_cons_eq_ok_iff.mpr ⟨otherIsFree, held, isHeld, ?_⟩
    refine attachAll_cons_eq_ok_iff.mpr ⟨?_, value, isValue, ?_⟩
    · rw [Diagnostic.argument?_withArgument, if_neg (Ne.symm differ), isFree]
    · rwa [Diagnostic.withArgument_comm differ]

/-- Every order of the same arguments gives the same diagnostic, if any order gives one. -/
theorem attachAll_eq_ok_of_perm {first second : List (String × Record.ArgumentEntry)}
    (perm : first.Perm second) (attached : attachAll origin diagnostic first = .ok result) :
    attachAll origin diagnostic second = .ok result := by
  induction perm generalizing diagnostic with
  | nil => exact attached
  | cons argument _ ih =>
    obtain ⟨isFree, value, isValue, following⟩ := attachAll_cons_eq_ok_iff.mp attached
    exact attachAll_cons_eq_ok_iff.mpr ⟨isFree, value, isValue, ih following⟩
  | swap one other rest => exact attachAll_swap_eq_ok attached
  | trans _ _ first second => exact second (first attached)

/-- The diagnostic of a record whose arguments are attached in some order. -/
def loadInOrder (origin : String) (script : Source.Script) {entry : Record.Entry}
    (order : entry.Order) : Load Diagnostic :=
  attachAll origin (bareDiagnostic script entry) order.arguments

/-- Loading meets the arguments by their exact names, which is one of the orders. -/
theorem loadEntry_eq_loadInOrder (origin : String) (script : Source.Script) (entry : Record.Entry) :
    loadEntry origin script entry = loadInOrder origin script entry.ascending :=
  rfl

/-- Two orders of the arguments of a record accept it as the same diagnostic, with the same arguments
and so the same line, or both refuse it; and a record with one fault alone is refused for that fault
in both. -/
theorem loadInOrder_independent (origin : String) (script : Source.Script) {entry : Record.Entry}
    (first second : entry.Order) :
    (∀ diagnostic, loadInOrder origin script first = .ok diagnostic ↔
      loadInOrder origin script second = .ok diagnostic) ∧
    ∀ error, entry.OnlyFault origin error →
      loadInOrder origin script first = .error error ∧
        loadInOrder origin script second = .error error := by
  have perm : first.arguments.Perm second.arguments := first.perm.trans second.perm.symm
  refine ⟨fun diagnostic => ⟨attachAll_eq_ok_of_perm perm, attachAll_eq_ok_of_perm perm.symm⟩,
    fun error fault => ?_⟩
  have refused (order : entry.Order) : loadInOrder origin script order = .error error := by
    cases loaded : loadInOrder origin script order with
    | ok diagnostic => exact absurd (isSound_of_attachAll order.perm loaded) fault.blames.not_isSound
    | error other => rw [fault.eq_of_blames (blames_of_attachAll order.perm loaded)]
  exact ⟨refused first, refused second⟩

/-- A record that gives one placeholder three times, in different case. -/
def thriceGiven : Record.Entry where
  id := 135
  filePath := "/a"
  line := 1
  column := 0
  arguments := .ofList [("gotN", .text "1"), ("expectedN", .text "2"), ("GOTN", .token .semicolon),
    ("gotn", .text "3")]

/-- The order opposite to that of the exact names. -/
def thriceGivenDescending : thriceGiven.Order :=
  ⟨thriceGiven.arguments.entries.reverse, List.reverse_perm _⟩

theorem loadInOrder_independent_thriceGiven :
    let error := LoadError.duplicateArgument "d.json" 135 "gotn"
    let script := Source.Script.ofContent "/a" ""
    thriceGiven.OnlyFault "d.json" error ∧
      loadInOrder "d.json" script thriceGiven.ascending = .error error ∧
      loadInOrder "d.json" script thriceGivenDescending = .error error := by
  intro error script
  have clash : thriceGiven.Clash ("GOTN", .token .semicolon) ("gotN", .text "1") :=
    ⟨by decide +kernel, by decide +kernel, by decide, by decide⟩
  have folded : ∀ first ∈ thriceGiven.arguments.entries,
      ∀ second ∈ thriceGiven.arguments.entries, first.1 ≠ second.1 →
        Text.foldCase first.1 = Text.foldCase second.1 →
          Text.foldCase first.1 = Text.foldCase "GOTN" := by decide +kernel
  have plain : ∀ argument ∈ thriceGiven.arguments.entries,
      argument.2.operatorText? = none := by decide +kernel
  have fault : thriceGiven.OnlyFault "d.json" error := by
    refine .sharedName clash (fun first second other =>
      folded first other.first second other.second other.differ other.same) ?_
    rintro argument text ⟨member, given, -⟩
    exact absurd given (by simp [plain argument member])
  exact ⟨fault, (loadInOrder_independent "d.json" script thriceGiven.ascending
    thriceGivenDescending).2 error fault⟩

end Replay

end DiagnosticReplay
