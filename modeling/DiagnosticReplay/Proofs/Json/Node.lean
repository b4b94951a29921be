import DiagnosticReplay.Json.Node
import DiagnosticReplay.Proofs.Json.Lexeme

/-! # The grammar of nodes

A tree without faults has one row of lexemes, and building gives the tree back from its row. Inside
open frames the row of a value leads to the place after that value with the frames as they were, so
a list or a map is built item by item whatever stands around it.
-/

namespace DiagnosticReplay.Json

mutual

/-- The lexemes of a value. -/
def Node.lexemes : Node → List Lexeme
  | .null => [.null]
  | .boolean value => [.boolean value]
  | .number literal => [.number literal]
  | .string literal => [.string literal]
  | .list items => .openList :: items.lexemes
  | .map members => .openMap :: members.lexemes
  | .damaged beginning fault => [.damaged beginning fault]
  | .absent _ => []

/-- The lexemes of the items of a list and of its end. -/
def Items.lexemes : Items → List Lexeme
  | .closed => [.closeList]
  | .broken _ => []
  | .item head rest => head.lexemes ++ rest.following

/-- The lexemes of items that follow another. -/
def Items.following : Items → List Lexeme
  | .closed => [.closeList]
  | .broken _ => []
  | .item head rest => .comma :: (head.lexemes ++ rest.following)

/-- The lexemes of the members of a map and of its end. -/
def Members.lexemes : Members → List Lexeme
  | .closed => [.closeMap]
  | .broken _ => []
  | .dangling _ => []
  | .member key value rest => .string key :: .colon :: (value.lexemes ++ rest.following)

/-- The lexemes of members that follow another. -/
def Members.following : Members → List Lexeme
  | .closed => [.closeMap]
  | .broken _ => []
  | .dangling _ => [.comma]
  | .member key value rest => .comma :: .string key :: .colon :: (value.lexemes ++ rest.following)

end

mutual

/-- No fault stands in the value, and each of its literals can be written. -/
def Node.WellFormed : Node → Prop
  | .null => True
  | .boolean _ => True
  | .number literal => ∃ text, literal.Spells text
  | .string literal => ∃ text, literal.Spells text
  | .list items => items.WellFormed
  | .map members => members.WellFormed
  | .damaged _ _ => False
  | .absent _ => False

/-- No fault stands in the items or at their end. -/
def Items.WellFormed : Items → Prop
  | .closed => True
  | .broken _ => False
  | .item head rest => head.WellFormed ∧ rest.WellFormed

/-- No fault stands in the members or at their end. -/
def Members.WellFormed : Members → Prop
  | .closed => True
  | .broken _ => False
  | .dangling _ => False
  | .member key value rest =>
    (∃ text, key.Spells text) ∧ value.WellFormed ∧ rest.WellFormed

end

/-- A value as it is written. -/
structure Node.Spells (node : Node) (text : List Char) : Prop where
  wellFormed : node.WellFormed
  row : Lexeme.SpellsRow node.lexemes text

section Writing

/-- Every lexeme of the row can be written. -/
def Writable (lexemes : List Lexeme) : Prop :=
  ∀ lexeme ∈ lexemes, ∃ text, lexeme.Spells text

theorem writable_nil : Writable [] := by
  simp [Writable]

theorem writable_cons {lexeme : Lexeme} {lexemes : List Lexeme} {text : List Char}
    (first : lexeme.Spells text) (others : Writable lexemes) : Writable (lexeme :: lexemes) :=
  List.forall_mem_cons.mpr ⟨⟨text, first⟩, others⟩

theorem writable_append {first second : List Lexeme} (one : Writable first)
    (two : Writable second) : Writable (first ++ second) :=
  List.forall_mem_append.mpr ⟨one, two⟩

mutual

theorem Node.WellFormed.lexemes : ∀ {node : Node}, node.WellFormed → Writable node.lexemes
  | .null, _ => writable_cons .null writable_nil
  | .boolean true, _ => writable_cons .affirmed writable_nil
  | .boolean false, _ => writable_cons .denied writable_nil
  | .number _, ⟨_, spelled⟩ => writable_cons (.number spelled) writable_nil
  | .string _, ⟨_, spelled⟩ => writable_cons (.string spelled) writable_nil
  | .list .closed, _ => writable_cons .openList (writable_cons .closeList writable_nil)
  | .list (.item _ _), ⟨head, rest⟩ =>
    writable_cons .openList (writable_append head.lexemes rest.following)
  | .map .closed, _ => writable_cons .openMap (writable_cons .closeMap writable_nil)
  | .map (.member _ _ _), ⟨⟨_, key⟩, value, rest⟩ =>
    writable_cons .openMap (writable_cons (.string key)
      (writable_cons .colon (writable_append value.lexemes rest.following)))

theorem Items.WellFormed.following : ∀ {items : Items}, items.WellFormed → Writable items.following
  | .closed, _ => writable_cons .closeList writable_nil
  | .item _ _, ⟨head, rest⟩ =>
    writable_cons .comma (writable_append head.lexemes rest.following)

theorem Members.WellFormed.following : ∀ {members : Members}, members.WellFormed →
    Writable members.following
  | .closed, _ => writable_cons .closeMap writable_nil
  | .member _ _ _, ⟨⟨_, key⟩, value, rest⟩ =>
    writable_cons .comma (writable_cons (.string key)
      (writable_cons .colon (writable_append value.lexemes rest.following)))

end

/-- A value without faults can be written. -/
theorem Node.WellFormed.exists_spells {node : Node} (wellFormed : node.WellFormed) :
    ∃ text, node.Spells text := by
  obtain ⟨text, row⟩ := Lexeme.exists_spellsRow wellFormed.lexemes
  exact ⟨text, wellFormed, row⟩

end Writing

namespace Document

/-- After the opening bracket of a list a value is met as anywhere else. -/
theorem build_itemOrClose {node : Node} (wellFormed : node.WellFormed) (read : List Node)
    (outer : List Frame) (rest : List Lexeme) :
    build (.list read :: outer) .itemOrClose (node.lexemes ++ rest) =
      build (.list read :: outer) .value (node.lexemes ++ rest) := by
  cases node with
  | damaged beginning fault => exact wellFormed.elim
  | absent fault => exact wellFormed.elim
  | _ => rfl

mutual

/-- The row of a value leads to the place after it. -/
theorem build_node : ∀ node : Node, node.WellFormed → ∀ (frames : List Frame) (rest : List Lexeme),
    build frames .value (node.lexemes ++ rest) = build frames (.separator node) rest
  | .null, _, _, _ => rfl
  | .boolean _, _, _, _ => rfl
  | .number _, _, _, _ => rfl
  | .string _, ⟨_, .closed _⟩, _, _ => rfl
  | .list .closed, _, _, _ => rfl
  | .list (.item head tail), ⟨headIs, tailIs⟩, frames, rest => by
    have opened : build frames .value ((Node.list (.item head tail)).lexemes ++ rest) =
        build (.list [] :: frames) .itemOrClose (head.lexemes ++ (tail.following ++ rest)) := by
      rw [← List.append_assoc]
      rfl
    rw [opened, build_itemOrClose headIs, build_node head headIs,
      build_items tail tailIs]
    rfl
  | .map .closed, _, _, _ => rfl
  | .map (.member ⟨parts, .closed⟩ value tail), ⟨⟨_, .closed _⟩, valueIs, tailIs⟩,
      frames, rest => by
    have opened : build frames .value
        ((Node.map (.member ⟨parts, .closed⟩ value tail)).lexemes ++ rest) =
        build (.map [] ⟨parts, .closed⟩ :: frames) .value
          (value.lexemes ++ (tail.following ++ rest)) := by
      rw [← List.append_assoc]
      rfl
    rw [opened, build_node value valueIs, build_members tail tailIs]
    rfl

/-- The row of further items leads out of their list. -/
theorem build_items : ∀ items : Items, items.WellFormed → ∀ (read : List Node) (node : Node)
    (outer : List Frame) (rest : List Lexeme),
    build (.list read :: outer) (.separator node) (items.following ++ rest) =
      build outer (.separator (.ofItems (node :: read) items)) rest
  | .closed, _, _, _, _, _ => rfl
  | .item head tail, ⟨headIs, tailIs⟩, read, node, outer, rest => by
    have continued : build (.list read :: outer) (.separator node)
        ((Items.item head tail).following ++ rest) =
        build (.list (node :: read) :: outer) .value
          (head.lexemes ++ (tail.following ++ rest)) := by
      rw [← List.append_assoc]
      rfl
    rw [continued, build_node head headIs, build_items tail tailIs]
    rfl

/-- The row of further members leads out of their map. -/
theorem build_members : ∀ members : Members, members.WellFormed →
    ∀ (read : List (StringLiteral × Node)) (key : StringLiteral) (node : Node)
      (outer : List Frame) (rest : List Lexeme),
    build (.map read key :: outer) (.separator node) (members.following ++ rest) =
      build outer (.separator (.ofMembers ((key, node) :: read) members)) rest
  | .closed, _, _, _, _, _, _ => rfl
  | .member ⟨parts, .closed⟩ value tail, ⟨⟨_, .closed _⟩, valueIs, tailIs⟩,
      read, key, node, outer, rest => by
    have continued : build (.map read key :: outer) (.separator node)
        ((Members.member ⟨parts, .closed⟩ value tail).following ++ rest) =
        build (.map ((key, node) :: read) ⟨parts, .closed⟩ :: outer) .value
          (value.lexemes ++ (tail.following ++ rest)) := by
      rw [← List.append_assoc]
      rfl
    rw [continued, build_node value valueIs, build_members tail tailIs]
    rfl

end

/-- The tree of a text is the one that it was written from, and nothing is left over. -/
theorem ofText_of_spells {node : Node} {text : String} (spelled : node.Spells text.toList) :
    ofText text = ⟨node, false⟩ := by
  have built := build_node node spelled.wellFormed [] []
  rw [List.append_nil] at built
  rw [ofText, spelled.row.scan_eq, built]
  rfl

end Document

end DiagnosticReplay.Json
