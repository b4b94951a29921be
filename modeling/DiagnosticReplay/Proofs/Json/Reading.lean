import DiagnosticReplay.Proofs.Json.Building
import DiagnosticReplay.Proofs.Json.Values
import DiagnosticReplay.Proofs.Json.Writing

/-! # What readers accept

A reader accepts exactly the values that are written in its way, and a value that it accepts has no
fault at any depth. Both are said of each reader, plain or made of others, so that what a reader of
records accepts can be read off the readers of its fields.
-/

namespace DiagnosticReplay.Json

variable {α β : Type}

/-- The reader accepts just the values that are written so, and nothing with a fault. -/
structure Reads (read : Node → Read α) (writes : α → Node → Prop) : Prop where
  skips : ∀ {node value}, read node = .ok value → node.skip = .ok ()
  iff : ∀ {node value}, node.WellFormed → (read node = .ok value ↔ writes value node)

section Changes

variable {read : Node → Read α} {writes : α → Node → Prop}

theorem Reads.of_iff {other : α → Node → Prop} (reads : Reads read writes)
    (same : ∀ value node, writes value node ↔ other value node) : Reads read other where
  skips := reads.skips
  iff := fun wellFormed => (reads.iff wellFormed).trans (same _ _)

/-- What is made of the value that is read is written as that value. -/
theorem Reads.make {made : β → Node → Prop} {make : α → β} (reads : Reads read writes)
    (same : ∀ result node, made result node ↔ ∃ value, result = make value ∧ writes value node) :
    Reads (fun node => do return make (← read node)) made where
  skips := by
    intro node result isRead
    obtain ⟨value, isValue, -⟩ := Result.bind_eq_ok_iff.mp isRead
    exact reads.skips isValue
  iff := by
    intro node result wellFormed
    rw [same, Result.bind_eq_ok_iff]
    refine exists_congr fun value => ?_
    rw [reads.iff wellFormed, Result.pure_eq_ok, Except.ok.injEq, and_comm, eq_comm]

end Changes

section Values

theorem Read.ofFault_eq_ok_iff {result : Except Fault α} {value : α} :
    Read.ofFault result = .ok value ↔ result = .ok value := by
  cases result <;> simp [Read.ofFault]

@[simp] theorem Node.refuse_ne_ok {node : Node} {expected : Expected} {value : α} :
    node.refuse expected ≠ .ok value := by
  simp [Node.refuse, Result.bind_eq_ok_iff, Read.mismatch]

theorem Node.IsText.readString {text : String} {node : Node} (is : node.IsText text) :
    node.readString = .ok text := by
  cases is with
  | string denoted => rw [Node.readString, denoted.decode]; rfl

theorem reads_string : Reads Node.readString Node.IsText where
  skips := by
    intro node value read
    cases node with
    | string literal =>
      exact Node.skip_string_iff.mpr
        (StringLiteral.closed_of_decode (Read.ofFault_eq_ok_iff.mp read))
    | _ => exact absurd read Node.refuse_ne_ok
  iff := by
    intro node value wellFormed
    refine ⟨fun read => ?_, Node.IsText.readString⟩
    cases node with
    | string literal =>
      exact .string ((StringLiteral.decode_eq_ok_iff wellFormed).mp (Read.ofFault_eq_ok_iff.mp read))
    | _ => exact absurd read Node.refuse_ne_ok

theorem Node.IsNumber.readUInt32 {value : UInt32} {node : Node} (is : node.IsNumber value) :
    node.readUInt32 = .ok value := by
  cases is with
  | number =>
    have room : value.toNat < UInt32.size := value.toNat_lt
    have small : value.toNat < NumberLiteral.significandBound :=
      Nat.lt_of_lt_of_le room (by decide)
    have inRange : 0 ≤ (value.toNat : Int) ∧ (value.toNat : Int) < UInt32.size := by omega
    simp only [Node.readUInt32, NumberLiteral.value?_ofNat small, if_pos inRange,
      Int.toNat_natCast, UInt32.ofNat_toNat]

theorem reads_uint32 : Reads Node.readUInt32 Node.IsNumber where
  skips := by
    intro node value read
    cases node with
    | number literal => rfl
    | _ => exact absurd read Node.refuse_ne_ok
  iff := by
    intro node value wellFormed
    refine ⟨fun read => ?_, Node.IsNumber.readUInt32⟩
    cases node with
    | number literal =>
      rw [Node.readUInt32] at read
      split at read
      · rename_i number stands
        split at read
        · rename_i inRange
          obtain ⟨whole, rfl⟩ := Int.eq_ofNat_of_zero_le inRange.1
          have small : whole < UInt32.size := by omega
          have same : value.toNat = whole := by
            rw [← Except.ok.inj read, Int.toNat_natCast, UInt32.toNat_ofNat_of_lt' small]
          rw [NumberLiteral.eq_ofNat_of_value? wellFormed stands, ← same]
          exact .number
        · simp [Read.mismatch] at read
      · simp [Read.mismatch] at read
      · simp [Read.fault] at read
    | _ => exact absurd read Node.refuse_ne_ok

theorem reads_boolean : Reads Node.readBoolean fun value node => node = .boolean value where
  skips := by
    intro node value read
    cases node with
    | boolean held => rfl
    | _ => exact absurd read Node.refuse_ne_ok
  iff := by
    intro node value wellFormed
    refine ⟨fun read => ?_, fun same => by rw [same, Node.readBoolean]⟩
    cases node with
    | boolean held => rw [Except.ok.inj read]
    | _ => exact absurd read Node.refuse_ne_ok

end Values

section Containers

/-- The value is a value written so, or null where there is none. -/
inductive Node.IsOptional (writes : α → Node → Prop) : Option α → Node → Prop where
  | null : IsOptional writes none .null
  | given {value : α} {node : Node} : writes value node → IsOptional writes (some value) node

/-- A text or null is an optional value whose values are written as such texts. -/
theorem Node.IsTextOrNull.isOptional {writes : α → Node → Prop} (text : α → String)
    (named : ∀ value node, node.IsText (text value) → writes value node) {held : Option α}
    {node : Node} (is : node.IsTextOrNull (held.map text)) : node.IsOptional writes held := by
  cases held with
  | none =>
    cases is with
    | null => exact .null
  | some value =>
    cases is with
    | text isText => exact .given (named value node isText)

/-- The value is a list of values that are written so, in their order. -/
inductive Node.IsListOf (writes : α → Node → Prop) (values : List α) : Node → Prop where
  | list {items : Items} {nodes : List Node} : items.Are nodes → List.Forall₂ writes values nodes →
      IsListOf writes values (.list items)

/-- A member is of this name, and its value is written so. -/
structure WritesMember (writes : α → Node → Prop) (named : String × α) (pair : String × Node) :
    Prop where
  name : pair.1 = named.1
  value : writes named.2 pair.2

/-- The value is a map whose members are written so, in their order. -/
inductive Node.IsMapOf (writes : α → Node → Prop) (members : List (String × α)) : Node → Prop where
  | map {written : Members} {pairs : List (String × Node)} : written.Are pairs →
      List.Forall₂ (WritesMember writes) members pairs → IsMapOf writes members (.map written)

variable {read : Node → Read α} {writes : α → Node → Prop}

/-- Only null stands for the absence of a value. -/
theorem Node.readOptional_eq {node : Node} (notNull : node ≠ .null)
    (whole : ∀ fault, node ≠ .damaged .null fault) :
    node.readOptional read = (do return some (← read node)) := by
  cases node with
  | null => exact absurd rfl notNull
  | damaged beginning fault =>
    cases beginning with
    | null => exact absurd rfl (whole fault)
    | _ => rfl
  | _ => rfl

theorem Reads.optional (reads : Reads read writes) (notNull : ∀ value, ¬writes value .null) :
    Reads (Node.readOptional read) (Node.IsOptional writes) where
  skips := by
    intro node content isRead
    by_cases isNull : node = .null
    · rw [isNull, Node.skip]
    · have whole : ∀ fault, node ≠ .damaged .null fault := by
        rintro fault rfl
        simp [Node.readOptional, Read.fault] at isRead
      rw [Node.readOptional_eq isNull whole] at isRead
      obtain ⟨value, isValue, -⟩ := Result.bind_eq_ok_iff.mp isRead
      exact reads.skips isValue
  iff := by
    intro node content wellFormed
    by_cases isNull : node = .null
    · subst isNull
      constructor
      · intro isRead
        cases isRead
        exact .null
      · intro written
        cases written with
        | null => rfl
        | given isWritten => exact absurd isWritten (notNull _)
    · have whole : ∀ fault, node ≠ .damaged .null fault := by
        rintro fault rfl
        exact wellFormed.elim
      rw [Node.readOptional_eq isNull whole, Result.bind_eq_ok_iff]
      constructor
      · rintro ⟨value, isValue, same⟩
        cases same
        exact .given ((reads.iff wellFormed).mp isValue)
      · intro written
        cases written with
        | null => exact absurd rfl isNull
        | given isWritten => exact ⟨_, (reads.iff wellFormed).mpr isWritten, rfl⟩

theorem Reads.skip_items (reads : Reads read writes) : ∀ {items : Items} {values : List α},
    items.readAll read = .ok values → items.skip = .ok ()
  | .closed, _, _ => rfl
  | .broken _, _, isRead => absurd isRead (by simp [Items.readAll, Read.fault])
  | .item _ _, _, isRead => by
    simp only [Items.readAll, Result.bind_eq_ok_iff] at isRead
    obtain ⟨first, isFirst, others, areOthers, -⟩ := isRead
    exact Items.skip_item_iff.mpr ⟨reads.skips isFirst, reads.skip_items areOthers⟩

theorem Reads.items (reads : Reads read writes) : ∀ {items : Items} {values : List α},
    items.WellFormed → items.readAll read = .ok values →
      ∃ nodes, items.Are nodes ∧ List.Forall₂ writes values nodes
  | .closed, _, _, isRead => ⟨[], .closed, by cases isRead; exact .nil⟩
  | .item _ _, _, ⟨headIs, restIs⟩, isRead => by
    simp only [Items.readAll, Result.bind_eq_ok_iff] at isRead
    obtain ⟨first, isFirst, others, areOthers, same⟩ := isRead
    cases same
    obtain ⟨nodes, are, written⟩ := reads.items restIs areOthers
    exact ⟨_, .item are, .cons ((reads.iff headIs).mp isFirst) written⟩

theorem Items.Are.wellFormed {items : Items} {nodes : List Node} (are : items.Are nodes)
    (wellFormed : items.WellFormed) : ∀ node ∈ nodes, node.WellFormed := by
  induction are with
  | closed => exact List.forall_mem_nil _
  | item _ ih => exact List.forall_mem_cons.mpr ⟨wellFormed.1, ih wellFormed.2⟩

theorem Items.Are.readAll {items : Items} {nodes : List Node}
    {values : List α} (are : items.Are nodes)
    (reads : List.Forall₂ (fun node value => read node = .ok value) nodes values) :
    items.readAll read = .ok values := by
  induction are generalizing values with
  | closed => cases reads; rfl
  | item _ ih =>
    cases reads with
    | cons first others => simp only [Items.readAll, first, ih others, Result.ok_bind]; rfl

theorem Reads.list (reads : Reads read writes) :
    Reads (Node.readList read) (Node.IsListOf writes) where
  skips := by
    intro node values isRead
    cases node with
    | list items => exact reads.skip_items isRead
    | _ => exact absurd isRead Node.refuse_ne_ok
  iff := by
    intro node values wellFormed
    constructor
    · intro isRead
      cases node with
      | list items =>
        obtain ⟨nodes, are, written⟩ := reads.items wellFormed isRead
        exact .list are written
      | _ => exact absurd isRead Node.refuse_ne_ok
    · rintro ⟨are, written⟩
      exact are.readAll (forall₂_flip written fun node member _ isWritten =>
        (reads.iff (are.wellFormed wellFormed node member)).mpr isWritten)

theorem Reads.skip_members (reads : Reads read writes) :
    ∀ {members : Members} {values : List (String × α)},
      members.readAll read = .ok values → members.skip = .ok ()
  | .closed, _, _ => rfl
  | .broken _, _, isRead => absurd isRead (by simp [Members.readAll, Read.fault])
  | .dangling _, _, isRead => absurd isRead (by simp [Members.readAll, Read.fault])
  | .member _ _ _, _, isRead => by
    simp only [Members.readAll, Result.bind_eq_ok_iff, StringLiteral.readKey,
      Read.ofFault_eq_ok_iff] at isRead
    obtain ⟨name, isName, value, isValue, others, areOthers, -⟩ := isRead
    exact Members.skip_member_iff.mpr
      ⟨StringLiteral.closed_of_decode isName, reads.skips isValue, reads.skip_members areOthers⟩

theorem Reads.members (reads : Reads read writes) :
    ∀ {members : Members} {values : List (String × α)},
      members.WellFormed → members.readAll read = .ok values →
        ∃ pairs, members.Are pairs ∧ List.Forall₂ (WritesMember writes) values pairs
  | .closed, _, _, isRead => ⟨[], .closed, by cases isRead; exact .nil⟩
  | .member _ _ _, _, ⟨keyIs, valueIs, restAre⟩, isRead => by
    simp only [Members.readAll, Result.bind_eq_ok_iff, StringLiteral.readKey,
      Read.ofFault_eq_ok_iff] at isRead
    obtain ⟨name, isName, value, isValue, others, areOthers, same⟩ := isRead
    cases same
    obtain ⟨pairs, are, written⟩ := reads.members restAre areOthers
    have denoted := (StringLiteral.decode_eq_ok_iff keyIs).mp isName
    exact ⟨_, .member denoted are, .cons ⟨rfl, (reads.iff valueIs).mp isValue⟩ written⟩

theorem Members.Are.wellFormed {members : Members} {pairs : List (String × Node)}
    (are : members.Are pairs) (wellFormed : members.WellFormed) :
    ∀ pair ∈ pairs, pair.2.WellFormed := by
  induction are with
  | closed => exact List.forall_mem_nil _
  | member _ _ ih => exact List.forall_mem_cons.mpr ⟨wellFormed.2.1, ih wellFormed.2.2⟩

theorem Members.Are.readAll {members : Members}
    {pairs : List (String × Node)} {values : List (String × α)} (are : members.Are pairs)
    (reads : List.Forall₂ (fun pair value => pair.1 = value.1 ∧ read pair.2 = .ok value.2)
      pairs values) :
    members.readAll read = .ok values := by
  induction are generalizing values with
  | closed => cases reads; rfl
  | member denoted _ ih =>
    cases reads with
    | cons first others =>
      obtain ⟨rfl, content⟩ := first
      simp only [Members.readAll, StringLiteral.readKey, denoted.decode, Read.ofFault, content,
        ih others, Result.ok_bind]
      rfl

theorem Reads.map (reads : Reads read writes) :
    Reads (Node.readMap read) (Node.IsMapOf writes) where
  skips := by
    intro node values isRead
    cases node with
    | map members => exact reads.skip_members isRead
    | _ => exact absurd isRead Node.refuse_ne_ok
  iff := by
    intro node values wellFormed
    constructor
    · intro isRead
      cases node with
      | map members =>
        obtain ⟨pairs, are, written⟩ := reads.members wellFormed isRead
        exact .map are written
      | _ => exact absurd isRead Node.refuse_ne_ok
    · rintro ⟨are, written⟩
      exact are.readAll (forall₂_flip written fun pair member _ isWritten =>
        ⟨isWritten.name, (reads.iff (are.wellFormed wellFormed pair member)).mpr isWritten.value⟩)

end Containers

section Choices

variable {choices : List (String × β)} {label : β → String}

/-- The value is a name: a text, or a map of one member from the name to null. -/
inductive Node.IsName (name : String) : Node → Prop where
  | text {node : Node} : node.IsText name → IsName name node
  | tagged {node : Node} : node.IsTagged name (· = .null) → IsName name node

/-- Each choice is listed under its own name, and under no other. -/
def Labels (choices : List (String × β)) (label : β → String) : Prop :=
  ∀ name choice, choices.lookup name = some choice ↔ label choice = name

/-- Choices with different names are found by their names. -/
theorem labels_map {all : List β} (every : ∀ choice, choice ∈ all)
    (distinct : (all.map label).Nodup) : Labels (all.map fun choice => (label choice, choice)) label := by
  intro name choice
  suffices listed : (all.map fun choice => (label choice, choice)).lookup name = some choice ↔
      choice ∈ all ∧ label choice = name by
    rw [listed]
    exact and_iff_right (every choice)
  clear every
  induction all with
  | nil => simp
  | cons first all ih =>
    obtain ⟨absent, distinctRest⟩ := List.nodup_cons.mp distinct
    rw [List.map_cons, List.lookup_cons]
    by_cases same : name = label first
    · subst same
      have notLater : ∀ later ∈ all, label later ≠ label first := fun later member same =>
        absent (List.mem_map.mpr ⟨later, member, same⟩)
      simp only [beq_self_eq_true, Option.some.injEq, List.mem_cons]
      constructor
      · rintro rfl
        exact ⟨.inl rfl, rfl⟩
      · rintro ⟨isFirst | isLater, same⟩
        · exact isFirst.symm
        · exact absurd same (notLater choice isLater)
    · have differs : (name == label first) = false := beq_eq_false_iff_ne.mpr same
      simp only [differs, ih distinctRest, List.mem_cons]
      constructor
      · exact fun ⟨isLater, isName⟩ => ⟨.inr isLater, isName⟩
      · rintro ⟨rfl | isLater, isName⟩
        · exact absurd isName.symm same
        · exact ⟨isLater, isName⟩

@[simp] theorem choose_eq_ok_iff {name : String} {choice : β} :
    choose choices name = .ok choice ↔ choices.lookup name = some choice := by
  unfold choose
  cases choices.lookup name <;> simp [Read.mismatch]

@[simp] theorem Members.expectClosed_eq_ok_iff {members : Members} {nothing : Unit} :
    members.expectClosed = .ok nothing ↔ members = .closed := by
  cases members <;> simp [Members.expectClosed, Read.fault]

@[simp] theorem Node.readUnit_eq_ok_iff {node : Node} {nothing : Unit} :
    node.readUnit = .ok nothing ↔ node = .null := by
  cases node <;> simp [Node.readUnit]

theorem Node.readChoice_eq_ok_iff {bare : β → Read α} {withContent : β → Node → Read α}
    {node : Node} {result : α} :
    node.readChoice choices bare withContent = .ok result ↔
      (∃ literal name choice, node = .string literal ∧ literal.decode = .ok name ∧
        choices.lookup name = some choice ∧ bare choice = .ok result) ∨
      ∃ key value name choice, node = .map (.member key value .closed) ∧ key.decode = .ok name ∧
        choices.lookup name = some choice ∧ withContent choice value = .ok result := by
  cases node with
  | string literal => simp [Node.readChoice, Result.bind_eq_ok_iff, Read.ofFault_eq_ok_iff]
  | map members =>
    cases members with
    | member key value rest =>
      simp only [Node.readChoice, StringLiteral.readKey, Result.bind_eq_ok_iff,
        Read.ofFault_eq_ok_iff, choose_eq_ok_iff, Members.expectClosed_eq_ok_iff,
        Result.pure_eq_ok, Except.ok.injEq]
      constructor
      · rintro ⟨name, isName, choice, listed, content, isContent, -, rfl, rfl⟩
        exact .inr ⟨key, value, name, choice, rfl, isName, listed, isContent⟩
      · rintro (⟨literal, name, choice, isString, -⟩ |
          ⟨_, _, name, choice, same, isName, listed, isContent⟩)
        · exact absurd isString (by simp)
        · cases same
          exact ⟨name, isName, choice, listed, result, isContent, (), rfl, rfl⟩
    | _ => simp [Node.readChoice, Read.fault]
  | _ => simp [Node.readChoice, Read.fault]

/-- A choice is read from its name alone, or from the content under its name. -/
theorem Reads.choice {bare : β → Read α} {withContent : β → Node → Read α}
    {writes : β → α → Node → Prop} (labels : Labels choices label)
    (reads : ∀ choice, Reads (withContent choice) (writes choice)) :
    Reads (Node.readChoice choices bare withContent) fun value node =>
      (∃ choice, bare choice = .ok value ∧ node.IsText (label choice)) ∨
        ∃ choice, node.IsTagged (label choice) (writes choice value) where
  skips := by
    intro node value isRead
    rcases Node.readChoice_eq_ok_iff.mp isRead with ⟨literal, name, choice, rfl, isName, -⟩ |
      ⟨key, content, name, choice, rfl, isName, -, isContent⟩
    · exact Node.skip_string_iff.mpr (StringLiteral.closed_of_decode isName)
    · exact Members.skip_member_iff.mpr
        ⟨StringLiteral.closed_of_decode isName, (reads choice).skips isContent, rfl⟩
  iff := by
    intro node value wellFormed
    rw [Node.readChoice_eq_ok_iff]
    constructor
    · rintro (⟨literal, name, choice, rfl, isName, listed, isBare⟩ |
        ⟨key, content, name, choice, rfl, isName, listed, isContent⟩)
      · refine .inl ⟨choice, isBare, ?_⟩
        rw [(labels name choice).mp listed]
        exact .string ((StringLiteral.decode_eq_ok_iff wellFormed).mp isName)
      · refine .inr ⟨choice, ?_⟩
        obtain ⟨keyIs, contentIs, -⟩ := wellFormed
        rw [(labels name choice).mp listed]
        exact .map ((StringLiteral.decode_eq_ok_iff keyIs).mp isName)
          (((reads choice).iff contentIs).mp isContent)
    · rintro (⟨choice, isBare, ⟨denoted⟩⟩ | ⟨choice, ⟨denoted, written⟩⟩)
      · exact .inl ⟨_, _, choice, rfl, denoted.decode, (labels _ _).mpr rfl, isBare⟩
      · exact .inr ⟨_, _, _, choice, rfl, denoted.decode, (labels _ _).mpr rfl,
          ((reads choice).iff wellFormed.2.1).mpr written⟩

theorem reads_unit (choice : β) :
    Reads (fun node => do
      node.readUnit
      return choice) fun value node => value = choice ∧ node = .null where
  skips := by
    intro node value isRead
    simp only [Result.bind_eq_ok_iff, Node.readUnit_eq_ok_iff] at isRead
    obtain ⟨-, rfl, -⟩ := isRead
    rfl
  iff := by
    intro node value _
    simp only [Result.bind_eq_ok_iff, Node.readUnit_eq_ok_iff, Result.pure_eq_ok, Except.ok.injEq]
    exact ⟨fun ⟨_, isNull, same⟩ => ⟨same.symm, isNull⟩, fun ⟨same, isNull⟩ => ⟨(), isNull, same.symm⟩⟩

theorem reads_name (labels : Labels choices label) :
    Reads (Node.readName choices) fun choice => Node.IsName (label choice) := by
  apply (Reads.choice labels reads_unit).of_iff
  intro choice node
  constructor
  · rintro (⟨_, same, isText⟩ | ⟨_, ⟨denoted, rfl, isNull⟩⟩)
    · cases same
      exact .text isText
    · exact .tagged (.map denoted isNull)
  · rintro (isText | ⟨denoted, isNull⟩)
    · exact .inl ⟨choice, rfl, isText⟩
    · exact .inr ⟨choice, .map denoted ⟨rfl, isNull⟩⟩

/-- A choice with content is read from the content under its name. -/
theorem Reads.tagged {read : β → Node → Read α} {writes : α → Node → Prop} {tag : α → β}
    (labels : Labels choices label)
    (reads : ∀ choice, Reads (read choice) fun value node => tag value = choice ∧ writes value node) :
    Reads (Node.readTagged choices read) fun value =>
      Node.IsTagged (label (tag value)) (writes value) := by
  apply (Reads.choice labels reads).of_iff
  intro value node
  constructor
  · rintro (⟨_, refused, -⟩ | ⟨_, ⟨denoted, rfl, written⟩⟩)
    · simp [Read.mismatch] at refused
    · exact .map denoted written
  · rintro ⟨denoted, written⟩
    exact .inr ⟨tag value, .map denoted ⟨rfl, written⟩⟩

end Choices

end DiagnosticReplay.Json
