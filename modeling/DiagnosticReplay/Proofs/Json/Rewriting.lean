import DiagnosticReplay.Proofs.Json.Fields
import Mathlib.Data.List.Perm.Basic

/-! # Rewriting values

A record says the same in whatever order its members stand and whatever other members stand among
them, and so does a map whose names do not repeat. The relations here put that down value by value:
each takes a relation for the values inside, so that a whole document can be rewritten at once, and
each keeps what a value of its kind is written for.
-/

namespace DiagnosticReplay.Json

section Blanks

open Lexeme Text

/-- Between two lexemes a blank can be inserted. -/
theorem Lexeme.SpellsRow.insertBlank {first second : List Lexeme} {before after : List Char}
    {character : Char} (isBlank : character ∈ [' ', '\t', '\n', '\r'])
    (row : SpellsRow first before) (rest : SpellsRow second after) :
    SpellsRow (first ++ second) (before ++ character :: after) := by
  induction row with
  | nil => exact .blank isBlank rest
  | blank others _ ih => exact .blank others ih
  | @cons lexeme lexemes text tail spelled ends _ ih =>
    rw [List.append_assoc, List.cons_append]
    refine .cons spelled ?_ ih
    cases lexeme with
    | number literal =>
      cases tail with
      | nil =>
        -- no blank is a part of a number
        simp only [List.mem_cons, List.not_mem_nil, or_false] at isBlank
        rcases isBlank with rfl | rfl | rfl | rfl <;> exact endsRun_cons.mpr rfl
      | cons next tail => exact endsRun_cons.mpr (endsRun_cons.mp ends)
    | _ => trivial

/-- A text that is written as a value is still written as it with one more blank between two
lexemes. -/
theorem Node.Spells.insertBlank {node : Node} {first second : List Lexeme} {before after : List Char}
    {character : Char} (spelled : node.Spells (before ++ after))
    (isBlank : character ∈ [' ', '\t', '\n', '\r']) (cut : node.lexemes = first ++ second)
    (row : SpellsRow first before) (rest : SpellsRow second after) :
    node.Spells (before ++ character :: after) where
  wellFormed := spelled.wellFormed
  row := cut ▸ row.insertBlank isBlank rest

end Blanks

section Names

theorem StringLiteral.Denotes.unique {literal : StringLiteral} {text other : String}
    (first : literal.Denotes text) (second : literal.Denotes other) : text = other :=
  Except.ok.inj (first.decode.symm.trans second.decode)

/-- A map has its members by one row of names only. -/
theorem Members.Are.unique {members : Members} {pairs others : List (String × Node)}
    (first : members.Are pairs) (second : members.Are others) : pairs = others := by
  induction first generalizing others with
  | closed =>
    cases second
    rfl
  | member denoted _ ih =>
    cases second with
    | member denotedToo rest => rw [denoted.unique denotedToo, ih rest]

theorem Items.Are.unique {items : Items} {nodes others : List Node} (first : items.Are nodes)
    (second : items.Are others) : nodes = others := by
  induction first generalizing others with
  | closed =>
    cases second
    rfl
  | item _ ih =>
    cases second with
    | item rest => rw [ih rest]

end Names

section Relations

/-- The names of the fields of a shape. -/
def Shape.names {φ : Type} (shape : Shape φ) : List String :=
  shape.fields.map Field.name

/-- A member keeps its name, and its value is rewritten as that name allows. -/
structure RewritesMember (rewrites : String → Node → Node → Prop) (pair other : String × Node) :
    Prop where
  name : other.1 = pair.1
  value : rewrites pair.1 pair.2 other.2

/-- The members are rewritten, stand in any order, and have others among them whose names are none of
those listed. -/
inductive RewritesMembers (names : List String) (rewrites : String → Node → Node → Prop)
    (pairs others : List (String × Node)) : Prop where
  | among {kept added : List (String × Node)} :
      List.Forall₂ (RewritesMember rewrites) pairs kept → (∀ pair ∈ added, pair.1 ∉ names) →
      others.Perm (kept ++ added) → RewritesMembers names rewrites pairs others

/-- Values that belong to the names in their order are rewritten one by one. -/
inductive RewritesItems (rewrites : String → Node → Node → Prop) :
    List String → List Node → List Node → Prop where
  | done {names : List String} : RewritesItems rewrites names [] []
  | item {name : String} {names : List String} {node other : Node} {nodes others : List Node} :
      rewrites name node other → RewritesItems rewrites names nodes others →
      RewritesItems rewrites (name :: names) (node :: nodes) (other :: others)

namespace Node

/-- A record with fields of these names is rewritten, be it a map of them or a list of their
values. -/
inductive RewritesRecord (names : List String) (rewrites : String → Node → Node → Prop) :
    Node → Node → Prop where
  | same {node : Node} : RewritesRecord names rewrites node node
  | map {members written : Members} {pairs others : List (String × Node)} : members.Are pairs →
      written.Are others → RewritesMembers names rewrites pairs others →
      RewritesRecord names rewrites (.map members) (.map written)
  | list {items written : Items} {nodes others : List Node} : items.Are nodes →
      written.Are others → RewritesItems rewrites names nodes others →
      RewritesRecord names rewrites (.list items) (.list written)

/-- The values of a list are rewritten, in their order. -/
inductive RewritesList (rewrites : Node → Node → Prop) : Node → Node → Prop where
  | list {items written : Items} {nodes others : List Node} : items.Are nodes →
      written.Are others → List.Forall₂ rewrites nodes others →
      RewritesList rewrites (.list items) (.list written)

/-- The values of a map are rewritten. Its members can stand in any order if no name is repeated. -/
inductive RewritesMap (rewrites : Node → Node → Prop) : Node → Node → Prop where
  | map {members written : Members} {pairs kept others : List (String × Node)} :
      members.Are pairs → written.Are others →
      List.Forall₂ (RewritesMember fun _ => rewrites) pairs kept →
      (others = kept ∨ (pairs.map Prod.fst).Nodup ∧ others.Perm kept) →
      RewritesMap rewrites (.map members) (.map written)

/-- The content of a choice is rewritten if its tag is the given one. -/
inductive RewritesTagged (tag : String) (rewrites : Node → Node → Prop) : Node → Node → Prop where
  | same {node : Node} : RewritesTagged tag rewrites node node
  | map {key written : StringLiteral} {content other : Node} : key.Denotes tag →
      written.Denotes tag → rewrites content other →
      RewritesTagged tag rewrites (.map (.member key content .closed))
        (.map (.member written other .closed))

end Node

/-- A value stays as it is, unless it stands under the given name. -/
inductive OnlyUnder (name : String) (rewrites : Node → Node → Prop) : String → Node → Node → Prop where
  | same {other : String} {node : Node} : OnlyUnder name rewrites other node node
  | rewritten {node other : Node} : rewrites node other → OnlyUnder name rewrites name node other

end Relations

section Records

variable {φ : Type} {grammar : FieldGrammar φ} {rules : List (FieldRule φ)} {names : List String}
  {rewrites : String → Node → Node → Prop}

/-- What is written for a field is rewritten as something that is written for it too. -/
def Keeps (grammar : FieldGrammar φ) (rules : List (FieldRule φ))
    (rewrites : String → Node → Node → Prop) : Prop :=
  ∀ rule ∈ rules, ∀ node other, rewrites (grammar.name rule.content) node other →
    grammar.writes rule.content node → grammar.writes rule.content other

/-- Only names that are not listed can be added, so a listed name stands as often as before. -/
theorem RewritesMembers.count_eq {pairs others : List (String × Node)} {name : String}
    (rewritten : RewritesMembers names rewrites pairs others) (listed : name ∈ names) :
    (others.map Prod.fst).count name = (pairs.map Prod.fst).count name := by
  obtain ⟨each, foreign, perm⟩ := rewritten
  rename_i kept added
  have keptNames : kept.map Prod.fst = pairs.map Prod.fst :=
    map_eq_map_of_forall₂ each fun _ _ member => member.name
  have absent : name ∉ added.map Prod.fst := by
    intro isAdded
    obtain ⟨pair, member, rfl⟩ := List.mem_map.mp isAdded
    exact foreign pair member listed
  rw [(perm.map Prod.fst).count_eq, List.map_append, List.count_append, keptNames,
    List.count_eq_zero.mpr absent, Nat.add_zero]

/-- Rewritten members state the same fields. -/
theorem RewritesMembers.states {pairs others : List (String × Node)}
    (rewritten : RewritesMembers names rewrites pairs others)
    (listed : ∀ rule ∈ rules, grammar.name rule.content ∈ names)
    (keeps : Keeps grammar rules rewrites) (states : States grammar rules pairs) :
    States grammar rules others where
  once := by
    intro rule member
    rw [rewritten.count_eq (listed rule member)]
    exact states.once rule member
  each := by
    intro rule member
    rcases states.each rule member with ⟨value, isMember, written⟩ | ⟨absent, mayLack⟩
    · obtain ⟨each, -, perm⟩ := rewritten
      obtain ⟨⟨name, other⟩, isKept, sameName, isRewritten⟩ := exists_right_of_forall₂ each isMember
      obtain rfl : name = grammar.name rule.content := sameName
      exact .inl ⟨other, perm.mem_iff.mpr (List.mem_append_left _ isKept),
        keeps rule member value other isRewritten written⟩
    · refine .inr ⟨?_, mayLack⟩
      rw [← List.count_eq_zero] at absent ⊢
      rw [rewritten.count_eq (listed rule member), absent]

/-- Rewritten values fill the same fields. -/
theorem RewritesItems.fills {nodes others : List Node}
    (rewritten : RewritesItems rewrites (rules.map fun rule => grammar.name rule.content) nodes
      others)
    (keeps : Keeps grammar rules rewrites) (fills : Fills grammar rules nodes) :
    Fills grammar rules others := by
  induction fills generalizing others with
  | done =>
    cases rewritten
    exact .done
  | given written _ ih =>
    cases rewritten with
    | item isRewritten rest =>
      obtain ⟨first, later⟩ := List.forall_mem_cons.mp keeps
      exact .given (first _ _ isRewritten written) (ih rest later)
  | ended mayEnd fills =>
    cases rewritten
    exact .ended mayEnd fills

/-- A rewritten record has the same fields. -/
theorem Node.RewritesRecord.isShaped {node other : Node}
    (rewritten : node.RewritesRecord names rewrites other)
    (named : (rules.map fun rule => grammar.name rule.content) = names)
    (keeps : Keeps grammar rules rewrites) (shaped : node.IsShaped grammar rules) :
    other.IsShaped grammar rules := by
  cases rewritten with
  | same => exact shaped
  | map are written members =>
    cases shaped with
    | map areToo states =>
      obtain rfl := are.unique areToo
      have listed : ∀ rule ∈ rules, grammar.name rule.content ∈ names := by
        intro rule member
        rw [← named]
        exact List.mem_map.mpr ⟨rule, member, rfl⟩
      exact .map written (members.states listed keeps states)
  | list are written items =>
    cases shaped with
    | list areToo fills =>
      obtain rfl := are.unique areToo
      rw [← named] at items
      exact .list written (items.fills keeps fills)

end Records

section Values

variable {α : Type} {writes : α → Node → Prop} {rewrites : Node → Node → Prop}

/-- What is written for a value is rewritten as something that is written for it too. -/
def Preserves (rewrites : Node → Node → Prop) (writes : α → Node → Prop) : Prop :=
  ∀ value node other, rewrites node other → writes value node → writes value other

/-- A rewritten list is written for the same values. -/
theorem Node.RewritesList.isListOf {node other : Node} {values : List α}
    (rewritten : node.RewritesList rewrites other)
    (preserves : Preserves rewrites writes)
    (is : node.IsListOf writes values) : other.IsListOf writes values := by
  obtain ⟨are, written, each⟩ := rewritten
  obtain ⟨areToo, isWritten⟩ := is
  obtain rfl := are.unique areToo
  exact .list written (forall₂_through isWritten each fun value node other before after =>
    preserves value node other after before)

/-- A rewritten map is written for the same values, in another order only if no name is repeated. -/
theorem Node.RewritesMap.isMapOf {node other : Node} {named : List (String × α)}
    (rewritten : node.RewritesMap rewrites other)
    (preserves : Preserves rewrites writes)
    (is : node.IsMapOf writes named) :
    ∃ renamed, other.IsMapOf writes renamed ∧
      (renamed = named ∨ (named.map Prod.fst).Nodup ∧ renamed.Perm named) := by
  obtain ⟨are, written, each, order⟩ := rewritten
  obtain ⟨areToo, isWritten⟩ := is
  obtain rfl := are.unique areToo
  have kept := forall₂_through isWritten each fun value node other before after =>
    (⟨after.name.trans before.name, preserves _ _ _ after.value before.value⟩ :
      WritesMember writes value other)
  rcases order with rfl | ⟨distinct, perm⟩
  · exact ⟨named, .map written kept, .inl rfl⟩
  · have sameNames := map_eq_map_of_forall₂ isWritten fun _ _ member => member.name
    -- the values can be brought into the order of the members
    obtain ⟨renamed, reordered, permToo⟩ := List.perm_comp_forall₂ perm kept.flip
    exact ⟨renamed, .map written reordered.flip, .inr ⟨sameNames ▸ distinct, permToo⟩⟩

/-- A rewritten choice has the same content. -/
theorem Node.RewritesTagged.isTagged {node other : Node} {tag label : String} {writes : Node → Prop}
    (rewritten : node.RewritesTagged tag rewrites other)
    (keeps : label = tag → ∀ node other, rewrites node other → writes node → writes other)
    (is : node.IsTagged label writes) : other.IsTagged label writes := by
  cases rewritten with
  | same => exact is
  | map denoted written isRewritten =>
    cases is with
    | map isLabel content =>
      obtain rfl := isLabel.unique denoted
      exact .map written (keeps rfl _ _ isRewritten content)

end Values

end DiagnosticReplay.Json
