import DiagnosticReplay.Proofs.Json.Node
import DiagnosticReplay.Proofs.Json.Scanning
import DiagnosticReplay.Json.Reader

/-! # What was built

While a tree is built, the open frames and the place in them stand for the lexemes that were taken.
Each step that goes on takes one lexeme more, and a step that stops early leaves a fault in the tree
or something after it. A tree without faults therefore has just the lexemes that it was built from,
and a text is written as a node exactly if the node is its tree and can be passed over.
-/

namespace DiagnosticReplay.Json

open Lexeme

section Passing

variable {fault : Fault}

@[simp] theorem Node.skip_string_iff {literal : StringLiteral} :
    (Node.string literal).skip = .ok () ↔ literal.ending = .closed := by
  obtain ⟨parts, ending⟩ := literal
  cases ending <;> simp [Node.skip, Read.fault]

@[simp] theorem Node.skip_damaged (beginning : Beginning) :
    (Node.damaged beginning fault).skip ≠ .ok () := by
  cases beginning <;> simp [Node.skip, Read.fault]

@[simp] theorem Node.skip_absent : (Node.absent fault).skip ≠ .ok () := by
  simp [Node.skip, Read.fault]

@[simp] theorem Items.skip_broken : (Items.broken fault).skip ≠ .ok () := by
  simp [Items.skip, Read.fault]

@[simp] theorem Items.skip_item_iff {head : Node} {rest : Items} :
    (Items.item head rest).skip = .ok () ↔ head.skip = .ok () ∧ rest.skip = .ok () := by
  rw [Items.skip, Result.bind_unit_eq_ok_iff]

@[simp] theorem Members.skip_broken : (Members.broken fault).skip ≠ .ok () := by
  simp [Members.skip, Read.fault]

@[simp] theorem Members.skip_dangling : (Members.dangling fault).skip ≠ .ok () := by
  simp [Members.skip, Read.fault]

@[simp] theorem Members.skip_member_iff {key : StringLiteral} {value : Node} {rest : Members} :
    (Members.member key value rest).skip = .ok () ↔
      key.ending = .closed ∧ value.skip = .ok () ∧ rest.skip = .ok () := by
  obtain ⟨parts, ending⟩ := key
  cases ending <;> simp [Members.skip, Read.fault, Result.bind_unit_eq_ok_iff]

theorem Items.skip_foldl {items : List Node} {ending : Items}
    (passed : (items.foldl (fun rest item => Items.item item rest) ending).skip = .ok ()) :
    ending.skip = .ok () := by
  induction items generalizing ending with
  | nil => exact passed
  | cons item items ih => exact (Items.skip_item_iff.mp (ih passed)).2

theorem Members.skip_foldl {members : List (StringLiteral × Node)} {ending : Members}
    (passed : (members.foldl (fun rest pair => Members.member pair.1 pair.2 rest) ending).skip =
      .ok ()) : ending.skip = .ok () := by
  induction members generalizing ending with
  | nil => exact passed
  | cons member members ih => exact (Members.skip_member_iff.mp (ih passed)).2.2

/-- A tree that breaks off can be passed over only if it does so outside all frames, at a node
without faults. -/
theorem Node.skip_breakOff {frames : List Frame} {node : Node}
    (passed : (Node.breakOff fault frames node).skip = .ok ()) :
    frames = [] ∧ node.skip = .ok () := by
  induction frames generalizing node with
  | nil => exact ⟨rfl, passed⟩
  | cons frame outer ih =>
    exfalso
    cases frame with
    | list items => exact Items.skip_broken (Items.skip_foldl (ih passed).2)
    | map members key => exact Members.skip_broken (Members.skip_foldl (ih passed).2)

theorem Node.skip_breakOffWithoutKey {frames : List Frame}
    {members : List (StringLiteral × Node)} :
    (Node.breakOffWithoutKey fault frames members).skip ≠ .ok () := by
  intro passed
  have ending := Members.skip_foldl (Node.skip_breakOff passed).2
  split at ending
  · exact Members.skip_broken ending
  · exact Members.skip_dangling ending

end Passing

section Rows

/-- The lexemes of an open list up to the place of its next item; the newest item comes first. -/
def itemsRow : List Node → List Lexeme
  | [] => [.openList]
  | node :: items => itemsRow items ++ (node.lexemes ++ [.comma])

/-- The lexemes of an open map up to the place of its next key; the newest member comes first. -/
def membersRow : List (StringLiteral × Node) → List Lexeme
  | [] => [.openMap]
  | (key, node) :: members =>
    membersRow members ++ (.string key :: .colon :: (node.lexemes ++ [.comma]))

/-- The lexemes of an open frame up to the place of the value that it waits for. -/
def Frame.row : Frame → List Lexeme
  | .list items => itemsRow items
  | .map members key => membersRow members ++ [.string key, .colon]

/-- The lexemes of open frames, the innermost first. -/
def framesRow : List Frame → List Lexeme
  | [] => []
  | frame :: outer => framesRow outer ++ frame.row

/-- The lexemes that lead to a place inside the open frames. -/
def Expectation.taken (frames : List Frame) : Expectation → List Lexeme
  | value => framesRow frames
  | itemOrClose => framesRow frames
  | keyOrClose => framesRow frames ++ membersRow []
  | key members => framesRow frames ++ membersRow members
  | colon members name => framesRow frames ++ (membersRow members ++ [.string name])
  | separator node => framesRow frames ++ node.lexemes


theorem Node.lexemes_ofItems (items : List Node) (node : Node) (ending : Items) :
    (Node.ofItems (node :: items) ending).lexemes =
      itemsRow items ++ (node.lexemes ++ ending.following) := by
  suffices fromAny : ∀ (node : Node) (ending : Items), (Node.list (items.foldl
      (fun rest item => Items.item item rest) (.item node ending))).lexemes =
        itemsRow items ++ (node.lexemes ++ ending.following) from fromAny node ending
  induction items with
  | nil => exact fun _ _ => rfl
  | cons item items ih =>
    intro node ending
    rw [List.foldl_cons, ih item (.item node ending), itemsRow, Items.following]
    simp only [List.append_assoc, List.cons_append, List.nil_append]

theorem Node.lexemes_ofMembers (members : List (StringLiteral × Node)) (key : StringLiteral)
    (node : Node) (ending : Members) :
    (Node.ofMembers ((key, node) :: members) ending).lexemes =
      membersRow members ++ (.string key :: .colon :: (node.lexemes ++ ending.following)) := by
  suffices fromAny : ∀ (key : StringLiteral) (node : Node) (ending : Members),
      (Node.map (members.foldl (fun rest pair => Members.member pair.1 pair.2 rest)
        (.member key node ending))).lexemes =
        membersRow members ++ (.string key :: .colon :: (node.lexemes ++ ending.following)) from
    fromAny key node ending
  induction members with
  | nil => exact fun _ _ _ => rfl
  | cons member members ih =>
    intro key node ending
    obtain ⟨first, held⟩ := member
    rw [List.foldl_cons, ih first held (.member key node ending), membersRow, Members.following]
    simp only [List.append_assoc, List.cons_append, List.nil_append]

end Rows

section Steps

/-- Only a list that was just opened can be closed before its first item. -/
def Expectation.IsReady (frames : List Frame) : Expectation → Prop
  | itemOrClose => ∃ outer, frames = .list [] :: outer
  | _ => True

/-- The step takes one lexeme more, which is whole, or stops before the end or with a fault. -/
def Takes (taken : List Lexeme) (lexeme : Lexeme) : Step → Prop
  | .next frames expectation => expectation.IsReady frames ∧ lexeme.IsWhole ∧
      expectation.taken frames = taken ++ [lexeme]
  | .stop document => document.hasMore = false → document.root.skip ≠ .ok ()

variable {frames : List Frame} {taken : List Lexeme} {lexeme : Lexeme}

theorem takes_broken {node : Node} (faulty : node.skip ≠ .ok ()) :
    Takes taken lexeme (.broken node) :=
  fun _ => faulty

theorem takes_breakOff {fault : Fault} {node : Node} (faulty : frames = [] → node.skip ≠ .ok ()) :
    Takes taken lexeme (.broken (.breakOff fault frames node)) :=
  takes_broken fun passed =>
    let ⟨outside, isPassed⟩ := Node.skip_breakOff passed
    faulty outside isPassed

theorem takes_atValue : Takes (framesRow frames) lexeme (Step.atValue frames lexeme) := by
  cases lexeme with
  | string literal =>
    obtain ⟨parts, ending⟩ := literal
    cases ending with
    | closed => exact ⟨trivial, rfl, rfl⟩
    | broken fault => exact takes_breakOff fun _ => by simp
  | openList => exact ⟨⟨frames, rfl⟩, trivial, rfl⟩
  | damaged beginning fault => exact takes_breakOff fun _ => by simp
  | null => exact ⟨trivial, trivial, rfl⟩
  | boolean value => exact ⟨trivial, trivial, rfl⟩
  | number literal => exact ⟨trivial, trivial, rfl⟩
  | openMap => exact ⟨trivial, trivial, rfl⟩
  | _ => exact takes_breakOff fun _ => by simp

theorem takes_atKey {members : List (StringLiteral × Node)} :
    Takes (framesRow frames ++ membersRow members) lexeme (Step.atKey frames members lexeme) := by
  cases lexeme with
  | string literal =>
    obtain ⟨parts, ending⟩ := literal
    cases ending with
    | closed => exact ⟨trivial, rfl, (List.append_assoc ..).symm⟩
    | broken fault => exact takes_breakOff (by simp)
  | _ => exact takes_broken Node.skip_breakOffWithoutKey

theorem takes_atSeparator {node : Node} :
    Takes (framesRow frames ++ node.lexemes) lexeme (Step.atSeparator frames node lexeme) := by
  cases frames with
  | nil => exact fun hasMore => by simp at hasMore
  | cons frame outer =>
    cases frame with
    | list items =>
      cases lexeme with
      | comma =>
        refine ⟨trivial, trivial, ?_⟩
        simp only [Expectation.taken, framesRow, Frame.row, itemsRow, List.append_assoc]
      | closeList =>
        refine ⟨trivial, trivial, ?_⟩
        simp only [Expectation.taken, framesRow, Frame.row, Node.lexemes_ofItems, Items.following,
          List.append_assoc]
      | _ => exact takes_breakOff (by simp)
    | map members key =>
      cases lexeme with
      | comma =>
        refine ⟨trivial, trivial, ?_⟩
        simp only [Expectation.taken, framesRow, Frame.row, membersRow, List.append_assoc,
          List.cons_append, List.nil_append]
      | closeMap =>
        refine ⟨trivial, trivial, ?_⟩
        simp only [Expectation.taken, framesRow, Frame.row, Node.lexemes_ofMembers,
          Members.following, List.append_assoc, List.cons_append, List.nil_append]
      | _ => exact takes_breakOff (by simp)

/-- Every step takes its lexeme, or stops at a fault or before the end. -/
theorem takes_ofLexeme {expectation : Expectation} (ready : expectation.IsReady frames)
    (lexeme : Lexeme) :
    Takes (expectation.taken frames) lexeme (Step.ofLexeme frames expectation lexeme) := by
  cases expectation with
  | value => exact takes_atValue
  | itemOrClose =>
    obtain ⟨outer, rfl⟩ := ready
    cases lexeme with
    | closeList =>
      refine ⟨trivial, trivial, ?_⟩
      simp only [Expectation.taken, framesRow, Frame.row, itemsRow, List.append_assoc]
      rfl
    | _ => exact takes_atValue
  | keyOrClose =>
    cases lexeme with
    | closeMap =>
      refine ⟨trivial, trivial, ?_⟩
      simp only [Expectation.taken, membersRow, List.append_assoc]
      rfl
    | _ => exact takes_atKey
  | key members => exact takes_atKey
  | colon members key =>
    cases lexeme with
    | colon =>
      refine ⟨trivial, trivial, ?_⟩
      simp only [Expectation.taken, framesRow, Frame.row, List.append_assoc, List.cons_append,
        List.nil_append]
    | _ => exact takes_breakOff (by simp)
  | separator node => exact takes_atSeparator

end Steps

namespace Document

/-- Only outside all frames, after a node without faults, is a tree complete where the text ends. -/
theorem atEnd_of_skip {frames : List Frame} {expectation : Expectation}
    (passed : (atEnd frames expectation).skip = .ok ()) :
    ∃ node, frames = [] ∧ expectation = .separator node := by
  cases expectation with
  | value => exact absurd (Node.skip_breakOff passed).2 (by simp)
  | itemOrClose => exact absurd (Node.skip_breakOff passed).2 (by simp)
  | keyOrClose => exact absurd passed Node.skip_breakOffWithoutKey
  | key members => exact absurd passed Node.skip_breakOffWithoutKey
  | colon members key => exact absurd (Node.skip_breakOff passed).2 (by simp)
  | separator node =>
    obtain ⟨rfl, -⟩ := Node.skip_breakOff passed
    exact ⟨node, rfl, rfl⟩

/-- A tree that is complete has the lexemes that were taken before and all that followed. -/
theorem lexemes_build {lexemes : List Lexeme} {frames : List Frame} {expectation : Expectation}
    (ready : expectation.IsReady frames)
    (complete : (build frames expectation lexemes).hasMore = false)
    (passed : (build frames expectation lexemes).root.skip = .ok ()) :
    (build frames expectation lexemes).root.lexemes = expectation.taken frames ++ lexemes ∧
      ∀ lexeme ∈ lexemes, lexeme.IsWhole := by
  induction lexemes generalizing frames expectation with
  | nil =>
    obtain ⟨node, rfl, rfl⟩ := atEnd_of_skip passed
    exact ⟨(List.append_nil _).symm, fun _ member => absurd member List.not_mem_nil⟩
  | cons lexeme rest ih =>
    have takes := takes_ofLexeme ready lexeme
    cases step : Step.ofLexeme frames expectation lexeme with
    | stop document =>
      rw [step] at takes
      rw [build, step] at complete passed
      exact absurd passed (takes complete)
    | next inner place =>
      rw [step] at takes
      rw [build, step] at complete passed ⊢
      obtain ⟨readyNext, isWhole, taken⟩ := takes
      obtain ⟨lexemes, others⟩ := ih readyNext complete passed
      refine ⟨?_, List.forall_mem_cons.mpr ⟨isWhole, others⟩⟩
      rw [lexemes, taken, List.append_assoc, List.singleton_append]

end Document

section Written

theorem Items.writable_following {items : Items} (writable : Writable items.lexemes)
    (passed : items.skip = .ok ()) : Writable items.following := by
  cases items with
  | closed => exact writable
  | broken fault => exact absurd passed Items.skip_broken
  | item head rest => exact writable_cons .comma writable

theorem Members.writable_following {members : Members} (writable : Writable members.lexemes)
    (passed : members.skip = .ok ()) : Writable members.following := by
  cases members with
  | closed => exact writable
  | broken fault => exact absurd passed Members.skip_broken
  | dangling fault => exact absurd passed Members.skip_dangling
  | member key value rest => exact writable_cons .comma writable

theorem writable_cons_iff {lexeme : Lexeme} {lexemes : List Lexeme} :
    Writable (lexeme :: lexemes) ↔ (∃ text, lexeme.Spells text) ∧ Writable lexemes :=
  List.forall_mem_cons

theorem writable_append_iff {first second : List Lexeme} :
    Writable (first ++ second) ↔ Writable first ∧ Writable second :=
  List.forall_mem_append

mutual

/-- A value that can be passed over, with lexemes that can be written, has no fault. -/
theorem Node.wellFormed_of_skip : ∀ {node : Node}, Writable node.lexemes → node.skip = .ok () →
    node.WellFormed
  | .null, _, _ => trivial
  | .boolean _, _, _ => trivial
  | .number _, writable, _ => by
    obtain ⟨⟨text, spelled⟩, -⟩ := writable_cons_iff.mp writable
    cases spelled with
    | number spelled => exact ⟨text, spelled⟩
  | .string _, writable, _ => by
    obtain ⟨⟨text, spelled⟩, -⟩ := writable_cons_iff.mp writable
    cases spelled with
    | string spelled => exact ⟨text, spelled⟩
  | .list _, writable, passed =>
    Items.wellFormed_of_skip
      (Items.writable_following (writable_cons_iff.mp writable).2 passed) passed
  | .map _, writable, passed =>
    Members.wellFormed_of_skip
      (Members.writable_following (writable_cons_iff.mp writable).2 passed) passed
  | .damaged _ _, _, passed => absurd passed (Node.skip_damaged _)
  | .absent _, _, passed => absurd passed Node.skip_absent

theorem Items.wellFormed_of_skip : ∀ {items : Items}, Writable items.following →
    items.skip = .ok () → items.WellFormed
  | .closed, _, _ => trivial
  | .broken _, _, passed => absurd passed Items.skip_broken
  | .item _ _, writable, passed => by
    obtain ⟨head, rest⟩ := writable_append_iff.mp (writable_cons_iff.mp writable).2
    obtain ⟨headPassed, restPassed⟩ := Items.skip_item_iff.mp passed
    exact ⟨Node.wellFormed_of_skip head headPassed, Items.wellFormed_of_skip rest restPassed⟩

theorem Members.wellFormed_of_skip : ∀ {members : Members}, Writable members.following →
    members.skip = .ok () → members.WellFormed
  | .closed, _, _ => trivial
  | .broken _, _, passed => absurd passed Members.skip_broken
  | .dangling _, _, passed => absurd passed Members.skip_dangling
  | .member _ _ _, writable, passed => by
    obtain ⟨-, keyed⟩ := writable_cons_iff.mp writable
    obtain ⟨⟨text, key⟩, valued⟩ := writable_cons_iff.mp keyed
    obtain ⟨value, rest⟩ := writable_append_iff.mp (writable_cons_iff.mp valued).2
    obtain ⟨-, valuePassed, restPassed⟩ := Members.skip_member_iff.mp passed
    cases key with
    | string key =>
      exact ⟨⟨text, key⟩, Node.wellFormed_of_skip value valuePassed,
        Members.wellFormed_of_skip rest restPassed⟩

end

theorem writable_of_spellsRow {lexemes : List Lexeme} {text : List Char}
    (row : SpellsRow lexemes text) : Writable lexemes := by
  induction row with
  | nil => exact writable_nil
  | blank _ _ ih => exact ih
  | cons spelled _ _ ih => exact writable_cons spelled ih

mutual

theorem Node.WellFormed.skip : ∀ {node : Node}, node.WellFormed → node.skip = .ok ()
  | .null, _ => rfl
  | .boolean _, _ => rfl
  | .number _, _ => rfl
  | .string _, ⟨_, .closed _⟩ => rfl
  | .list _, items => Items.WellFormed.skip items
  | .map _, members => Members.WellFormed.skip members

theorem Items.WellFormed.skip : ∀ {items : Items}, items.WellFormed → items.skip = .ok ()
  | .closed, _ => rfl
  | .item _ _, ⟨head, rest⟩ => Items.skip_item_iff.mpr ⟨head.skip, rest.skip⟩

theorem Members.WellFormed.skip : ∀ {members : Members}, members.WellFormed →
    members.skip = .ok ()
  | .closed, _ => rfl
  | .member _ _ _, ⟨⟨_, .closed _⟩, value, rest⟩ =>
    Members.skip_member_iff.mpr ⟨rfl, value.skip, rest.skip⟩

end

/-- A text is written as a node exactly if the node is the whole tree of the text and has no fault. -/
theorem Node.spells_iff {node : Node} {text : String} :
    node.Spells text.toList ↔
      Document.ofText text = ⟨node, false⟩ ∧ node.skip = .ok () := by
  constructor
  · intro spelled
    exact ⟨Document.ofText_of_spells spelled, spelled.wellFormed.skip⟩
  · rintro ⟨tree, passed⟩
    have built := @Document.lexemes_build (Lexeme.scan text.toList) [] .value trivial
    rw [← Document.ofText, tree] at built
    obtain ⟨lexemes, whole⟩ := built rfl passed
    have row := spellsRow_scan whole
    have same : node.lexemes = Lexeme.scan text.toList := lexemes
    rw [← same] at row
    exact ⟨Node.wellFormed_of_skip (writable_of_spellsRow row) passed, row⟩

end Written

end DiagnosticReplay.Json
