import DiagnosticReplay.FileTree
import DiagnosticReplay.Proofs.Program.Composition

/-! # Runs over a tree of files

A path that goes down only reads the file at its place in the tree, however it is spelled, and it
reads nothing if no file is there. So what a run over the files of a tree prints is decided by the
documents at the places that it was given, and a run that was given another place prints nothing.
-/

namespace DiagnosticReplay

namespace FileTree

/-- A path that can be looked up, starts at the tree, never goes back up, and ends in a name. -/
structure Descends (path : String) : Prop where
  whole : '\x00' ∉ path.toList
  short : path.utf8ByteSize ≤ longestPath
  relative : (components path).head? ≠ some ""
  down : ".." ∉ components path
  named : ∀ last, (components path).getLast? = some last → stays last = false

/-- No file of the tree lies below another one. -/
def FilesEnd (tree : FileTree) : Prop :=
  ∀ place bytes, tree.nodes.lookup place = some (.file bytes) →
    ∀ node ∈ tree.nodes, place <+: node.1 → node.1 = place

variable {tree : FileTree} {here before : List String} {bytes : ByteArray}

theorem components_ne_nil (path : String) : components path ≠ [] := by
  rw [components, Text.splitAt, ne_eq, List.map_eq_nil_iff]
  exact Text.splitWhere_ne_nil _ _

theorem node?_eq_file_iff :
    tree.node? here = some (.file bytes) ↔ tree.nodes.lookup here = some (.file bytes) := by
  rw [node?]
  cases tree.nodes.lookup here with
  | some node => rfl
  | none =>
    dsimp only
    split <;> simp

/-- What lies above a file is a directory. -/
theorem node?_of_above (filesEnd : tree.FilesEnd) {below : List String} (isBelow : below ≠ [])
    (held : tree.nodes.lookup (here ++ below) = some (.file bytes)) :
    tree.node? here = some .directory := by
  obtain ⟨earlier, later, split, -⟩ := List.lookup_eq_some_iff.mp held
  have member : (here ++ below, .file bytes) ∈ tree.nodes := split ▸ List.mem_append_cons_self
  have isPrefix : here <+: here ++ below := List.prefix_append here below
  rw [node?]
  cases found : tree.nodes.lookup here with
  | none =>
    have above : (tree.nodes.any fun node => here.isPrefixOf node.1) = true :=
      List.any_eq_true.mpr ⟨_, member, List.isPrefixOf_iff_prefix.mpr isPrefix⟩
    dsimp only
    rw [above, Bool.or_true, if_pos rfl]
  | some node =>
    cases node with
    | directory => rfl
    | file other =>
      have same := filesEnd here other found _ member isPrefix
      exact absurd (List.append_right_eq_self.mp same) isBelow

section Ways

variable {component last : String}

theorem follow_of_stays (stay : stays component = true) (rest : List String) :
    tree.follow here .directory (component :: rest) = tree.follow here .directory rest := by
  rw [follow, if_pos stay]

theorem follow_of_name (name : stays component = false) (isDown : component ≠ "..")
    (rest : List String) :
    tree.follow here .directory (component :: rest) =
      (tree.node? (here ++ [component])).elim (.error (missing component)) fun found =>
        tree.follow (here ++ [component]) found rest := by
  rw [follow, if_neg (by simp [name]), if_neg (by simp [isDown]), if_neg isDown]
  dsimp only
  cases tree.node? (here ++ [component]) <;> rfl

/-- No way goes on from a file. -/
theorem follow_file (tree : FileTree) (here : List String) (bytes : ByteArray)
    (before : List String) (last : String) :
    tree.follow here (.file bytes) (before ++ [last]) = .error .notDirectory := by
  cases before <;> rfl

/-- The way down to a name ends at a file exactly if the tree holds it at the place that the names on
the way make up. -/
theorem follow_eq_file_iff (filesEnd : tree.FilesEnd) (name : stays last = false)
    (down : ∀ component ∈ before ++ [last], component ≠ "..") :
    tree.follow here .directory (before ++ [last]) = .ok (.file bytes) ↔
      tree.nodes.lookup (here ++ (before ++ [last]).filter (!stays ·)) = some (.file bytes) := by
  induction before generalizing here with
  | nil =>
    have isDown := down last (List.mem_singleton_self last)
    rw [List.nil_append, follow_of_name name isDown, List.filter_cons_of_pos (by simp [name]),
      List.filter_nil, ← node?_eq_file_iff]
    cases tree.node? (here ++ [last]) <;> simp [follow]
  | cons component before ih =>
    obtain ⟨isDown, downRest⟩ := List.forall_mem_cons.mp down
    rw [List.cons_append]
    cases stay : stays component with
    | true => rw [follow_of_stays stay, List.filter_cons_of_neg (by simp [stay]), ih downRest]
    | false =>
      rw [follow_of_name stay isDown, List.filter_cons_of_pos (by simp [stay]),
        List.append_cons here component ((before ++ [last]).filter (!stays ·))]
      -- a file further down makes a directory of the place that this component leads to
      have above (held : tree.nodes.lookup (here ++ [component] ++
          (before ++ [last]).filter (!stays ·)) = some (.file bytes)) :
          tree.node? (here ++ [component]) = some .directory :=
        node?_of_above filesEnd (by simp [name]) held
      cases found : tree.node? (here ++ [component]) with
      | none => exact iff_of_false nofun fun held => by cases found.symm.trans (above held)
      | some node =>
        cases node with
        | directory => exact ih downRest
        | file other =>
          rw [Option.elim_some, follow_file]
          exact iff_of_false nofun fun held => by cases found.symm.trans (above held)

end Ways

theorem locate_of_descends (tree : FileTree) {path : String} (descends : Descends path) :
    tree.locate path = tree.follow [] .directory (components path) := by
  have relative := descends.relative
  rw [locate, if_neg (by simpa using descends.whole), if_neg (Nat.not_lt.mpr descends.short)]
  split
  · rename_i empty
    exact absurd (congrArg List.head? empty) relative
  · rename_i absolute
    exact absurd (congrArg List.head? absolute) relative
  · rfl

/-- A path that goes down reads exactly the file that the tree holds at its place. -/
theorem read_eq_ok_iff (filesEnd : tree.FilesEnd) {path : String} (descends : Descends path) :
    tree.read path = .ok bytes ↔ tree.nodes.lookup (place path) = some (.file bytes) := by
  obtain ⟨before, last, split⟩ : ∃ before last, components path = before ++ [last] :=
    (List.eq_nil_or_concat' _).resolve_left (components_ne_nil path)
  have name : stays last = false := descends.named last (by rw [split]; simp)
  have down : ∀ component ∈ before ++ [last], component ≠ ".." := fun component member same =>
    descends.down (split ▸ same ▸ member)
  rw [place, split, ← List.nil_append ((before ++ [last]).filter (!stays ·)),
    ← follow_eq_file_iff filesEnd name down, read, locate_of_descends tree descends, split]
  cases tree.follow [] .directory (before ++ [last]) with
  | error failure => simp
  | ok node => cases node <;> simp

/-- Components that stay where they are make no difference. -/
example : ((ofNodes [("a/b.json", .file ⟨#[0x7b]⟩)]).read "./a//b.json").toOption.map (·.data) =
    some #[0x7b] := by
  decide +kernel

/-- The tree holds a document of some records at the place of a path that goes down. -/
structure HoldsRecords (tree : FileTree) (path : String) (entries : List Record.Entry) : Prop where
  descends : Descends path
  held : ∃ bytes content, tree.nodes.lookup (place path) = some (.file bytes) ∧
    String.fromUTF8? bytes = some content ∧ Record.ofText content = .ok entries

end FileTree

namespace Program

/-- The world in which the files are those of a tree. -/
def World.inTree (world : World) (tree : FileTree) : World :=
  { world with contents := tree.read }

section Trees

variable {world : World} {tree : FileTree} {files : List String} {quiet : Bool}
  (filesEnd : tree.FilesEnd) (runs : (world.inTree tree).RunsOver files quiet)

include filesEnd

theorem records_inTree {file : String} {entries : List Record.Entry}
    (holds : tree.HoldsRecords file entries) : (world.inTree tree).Records file entries := by
  obtain ⟨bytes, content, held, decoded, read⟩ := holds.held
  exact ⟨bytes, content, (FileTree.read_eq_ok_iff filesEnd holds.descends).mpr held, decoded, read⟩

include runs

/-- A run over the files of a tree prints the diagnostics of the documents at their places, whatever
else the tree holds. -/
theorem run_inTree {held : List (List Record.Entry)} {diagnostics : List Diagnostic}
    (holds : List.Forall₂ tree.HoldsRecords files held)
    (each : held.flatten.map Record.Entry.diagnostic? = diagnostics.map some) :
    run (world.inTree tree) = .printing quiet diagnostics :=
  run_of_records runs (holds.imp fun _ _ => records_inTree filesEnd) each

/-- A run that was given a path to no file of the tree prints nothing but an error. -/
theorem run_inTree_of_missing {file : String} (member : file ∈ files)
    (descends : FileTree.Descends file)
    (missing : ∀ bytes, tree.nodes.lookup (FileTree.place file) ≠ some (.file bytes)) :
    ∃ error, run (world.inTree tree) =
      { exitCode := inputFailureCode, notices := [.failure error] } := by
  cases result : files.mapM (world.inTree tree).loadFile with
  | error error =>
    exact ⟨error, run_of_error runs.parsed rfl runs.named runs.unlogged result⟩
  | ok loadeds =>
    obtain ⟨loaded, -, isLoaded⟩ :=
      exists_right_of_forall₂ (Result.mapM_eq_ok_iff.mp result) member
    obtain ⟨bytes, -, -, found, -⟩ := holds_of_loadFile isLoaded
    exact absurd ((FileTree.read_eq_ok_iff filesEnd descends).mp found) (missing bytes)

end Trees

end Program

end DiagnosticReplay
