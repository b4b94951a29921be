import DiagnosticReplay.Json.Reader
import DiagnosticReplay.Proofs.Json.Node
import DiagnosticReplay.Proofs.Rows

/-! # Writing values

How the values of a document are written as nodes. A text, a number and a name have one kind of node
each, whatever their spelling. A record is written by a table that says for each member what may
stand there and whether the member is needed; the members come in any order. Whatever can be written
at all can be written without faults.
-/

namespace DiagnosticReplay.Json

/-- The value is a text. -/
inductive Node.IsText (text : String) : Node → Prop where
  | string {literal : StringLiteral} : literal.Denotes text → IsText text (.string literal)

/-- The value is a natural number of 32 bits. -/
inductive Node.IsNumber (value : UInt32) : Node → Prop where
  | number : IsNumber value (.number (.ofNat value.toNat))

/-- The value is a text, or null where there is none. -/
inductive Node.IsTextOrNull : Option String → Node → Prop where
  | null : IsTextOrNull none .null
  | text {text : String} {node : Node} : node.IsText text → IsTextOrNull (some text) node

/-- The items of a list, one by one. -/
inductive Items.Are : Items → List Node → Prop where
  | closed : Items.closed.Are []
  | item {head : Node} {rest : Items} {nodes : List Node} : rest.Are nodes →
      (Items.item head rest).Are (head :: nodes)

/-- The members of a map, one by one, by the names that their keys stand for. -/
inductive Members.Are : Members → List (String × Node) → Prop where
  | closed : Members.closed.Are []
  | member {key : StringLiteral} {name : String} {value : Node} {rest : Members}
      {pairs : List (String × Node)} : key.Denotes name → rest.Are pairs →
      (Members.member key value rest).Are ((name, value) :: pairs)

/-- A member that a record has: how its value is written, and when it cannot be left out. -/
structure MemberRule where
  name : String
  writes : Node → Prop
  needed : Prop

/-- The members are those of a record, in any order. -/
structure WritesRecord (rules : List MemberRule) (pairs : List (String × Node)) : Prop where
  distinct : (pairs.map Prod.fst).Nodup
  known : ∀ pair ∈ pairs, ∃ rule ∈ rules, rule.name = pair.1 ∧ rule.writes pair.2
  complete : ∀ rule ∈ rules, rule.needed → rule.name ∈ pairs.map Prod.fst

/-- The value is a map of the members of a record. -/
inductive Node.IsRecord (rules : List MemberRule) : Node → Prop where
  | map {members : Members} {pairs : List (String × Node)} : members.Are pairs →
      WritesRecord rules pairs → IsRecord rules (.map members)

/-- The value is a map of one member, the tag of a choice with its content. -/
inductive Node.IsTagged (tag : String) (writes : Node → Prop) : Node → Prop where
  | map {key : StringLiteral} {content : Node} : key.Denotes tag → writes content →
      IsTagged tag writes (.map (.member key content .closed))

section Existence

/-- Something is written by a node without faults. -/
def Expressible (writes : Node → Prop) : Prop :=
  ∃ node : Node, writes node ∧ node.WellFormed

theorem expressible_isText (text : String) : Expressible (Node.IsText text) := by
  obtain ⟨literal, denoted, written⟩ := StringLiteral.exists_spells text
  exact ⟨.string literal, .string denoted, written⟩

theorem expressible_isNumber (value : UInt32) : Expressible (Node.IsNumber value) :=
  ⟨_, .number, _, .plain rfl (NumberLiteral.spellsUnsigned_ofNat value.toNat)⟩

theorem expressible_isTextOrNull (text : Option String) : Expressible (Node.IsTextOrNull text) := by
  cases text with
  | none => exact ⟨.null, .null, trivial⟩
  | some text =>
    obtain ⟨node, isText, wellFormed⟩ := expressible_isText text
    exact ⟨node, .text isText, wellFormed⟩

theorem exists_items {nodes : List Node} (wellFormed : ∀ node ∈ nodes, node.WellFormed) :
    ∃ items : Items, items.Are nodes ∧ items.WellFormed := by
  induction nodes with
  | nil => exact ⟨.closed, .closed, trivial⟩
  | cons node nodes ih =>
    obtain ⟨first, others⟩ := List.forall_mem_cons.mp wellFormed
    obtain ⟨items, are, rest⟩ := ih others
    exact ⟨.item node items, .item are, first, rest⟩

theorem exists_members {pairs : List (String × Node)}
    (wellFormed : ∀ pair ∈ pairs, pair.2.WellFormed) :
    ∃ members : Members, members.Are pairs ∧ members.WellFormed := by
  induction pairs with
  | nil => exact ⟨.closed, .closed, trivial⟩
  | cons pair pairs ih =>
    obtain ⟨first, others⟩ := List.forall_mem_cons.mp wellFormed
    obtain ⟨members, are, rest⟩ := ih others
    obtain ⟨key, denoted, written⟩ := StringLiteral.exists_spells pair.1
    exact ⟨.member key pair.2 members, .member denoted are, written, first, rest⟩

theorem expressible_isTagged (tag : String) {writes : Node → Prop}
    (content : Expressible writes) : Expressible (Node.IsTagged tag writes) := by
  obtain ⟨key, denoted, written⟩ := StringLiteral.exists_spells tag
  obtain ⟨node, isContent, wellFormed⟩ := content
  exact ⟨_, .map denoted isContent, written, wellFormed, trivial⟩

theorem exists_pairs {rules : List MemberRule} (each : ∀ rule ∈ rules, Expressible rule.writes) :
    ∃ pairs : List (String × Node), pairs.map Prod.fst = rules.map MemberRule.name ∧
      (∀ pair ∈ pairs, ∃ rule ∈ rules, rule.name = pair.1 ∧ rule.writes pair.2) ∧
      ∀ pair ∈ pairs, pair.2.WellFormed := by
  induction rules with
  | nil => exact ⟨[], rfl, by simp, by simp⟩
  | cons rule rules ih =>
    obtain ⟨⟨node, written, wellFormed⟩, others⟩ := List.forall_mem_cons.mp each
    obtain ⟨pairs, names, known, rest⟩ := ih others
    refine ⟨(rule.name, node) :: pairs, ?_, ?_, List.forall_mem_cons.mpr ⟨wellFormed, rest⟩⟩
    · rw [List.map_cons, List.map_cons, names]
    · refine List.forall_mem_cons.mpr ⟨⟨rule, List.mem_cons_self, rfl, written⟩, ?_⟩
      intro pair member
      obtain ⟨later, listed, fitting⟩ := known pair member
      exact ⟨later, List.mem_cons_of_mem _ listed, fitting⟩

/-- A record can be written with every one of its members. -/
theorem expressible_isRecord {rules : List MemberRule}
    (distinct : (rules.map MemberRule.name).Nodup)
    (each : ∀ rule ∈ rules, Expressible rule.writes) : Expressible (Node.IsRecord rules) := by
  obtain ⟨pairs, names, known, wellFormed⟩ := exists_pairs each
  obtain ⟨members, are, written⟩ := exists_members wellFormed
  refine ⟨.map members, .map are ⟨names ▸ distinct, known, ?_⟩, written⟩
  intro rule listed _
  rw [names]
  exact List.mem_map_of_mem listed

end Existence

end DiagnosticReplay.Json
