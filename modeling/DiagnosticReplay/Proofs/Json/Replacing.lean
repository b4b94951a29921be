import DiagnosticReplay.Proofs.Json.Rewriting

/-! # Replacing one value

A value stands in a record under the name of a field, or in the place of that field, and it stands in
a list at some place. If a tree could be read and one value in it is replaced, then the tree is read
as before but for that value: what the value is read as now takes the place of what it was read as,
and if it cannot be read any more, its error is all that comes of the tree.
-/

namespace DiagnosticReplay.Json

variable {φ α β : Type} {old new : Node} {name : String} {index : Nat}

section Relations

/-- A value under the name is replaced. -/
inductive Members.Replaces (name : String) (old new : Node) : Members → Members → Prop where
  | here {key : StringLiteral} {rest : Members} : key.Denotes name →
      Replaces name old new (.member key old rest) (.member key new rest)
  | later {key : StringLiteral} {value : Node} {rest changed : Members} :
      Replaces name old new rest changed →
      Replaces name old new (.member key value rest) (.member key value changed)

/-- The item at the place is replaced. -/
inductive Items.Replaces (old new : Node) : Nat → Items → Items → Prop where
  | here {rest : Items} : Replaces old new 0 (.item old rest) (.item new rest)
  | later {index : Nat} {head : Node} {rest changed : Items} :
      Replaces old new index rest changed →
      Replaces old new (index + 1) (.item head rest) (.item head changed)

/-- The value of a field is replaced in a record with fields of these names, be it a map of them or a
list of their values. -/
inductive Node.ReplacesField (names : List String) (name : String) (old new : Node) :
    Node → Node → Prop where
  | map {members changed : Members} : members.Replaces name old new changed →
      ReplacesField names name old new (.map members) (.map changed)
  | list {index : Nat} {items changed : Items} : names[index]? = some name →
      items.Replaces old new index changed →
      ReplacesField names name old new (.list items) (.list changed)

/-- An item of a list is replaced. -/
inductive Node.ReplacesItem (index : Nat) (old new : Node) : Node → Node → Prop where
  | list {items changed : Items} : items.Replaces old new index changed →
      ReplacesItem index old new (.list items) (.list changed)

end Relations

section WellFormed

theorem Members.Replaces.wellFormed {members changed : Members}
    (replaces : members.Replaces name old new changed) (wellFormed : members.WellFormed) :
    old.WellFormed := by
  induction replaces with
  | here => exact wellFormed.2.1
  | later _ ih => exact ih wellFormed.2.2

theorem Items.Replaces.wellFormed {items changed : Items}
    (replaces : items.Replaces old new index changed) (wellFormed : items.WellFormed) :
    old.WellFormed := by
  induction replaces with
  | here => exact wellFormed.1
  | later _ ih => exact ih wellFormed.2

theorem Node.ReplacesField.wellFormed {names : List String} {node changed : Node}
    (replaces : Node.ReplacesField names name old new node changed) (wellFormed : node.WellFormed) :
    old.WellFormed := by
  cases replaces with
  | map members => exact members.wellFormed wellFormed
  | list _ items => exact items.wellFormed wellFormed

theorem Node.ReplacesItem.wellFormed {node changed : Node}
    (replaces : Node.ReplacesItem index old new node changed) (wellFormed : node.WellFormed) :
    old.WellFormed := by
  cases replaces with
  | list items => exact items.wellFormed wellFormed

end WellFormed

section Rows

/-- What is read instead of a row of contents is that row with one content read anew, at this
place. -/
inductive Rereads (read : Node → Read α) (old new : Node) (index : Nat) (contents : List α)
    (anew : Read (List α)) : Prop where
  | one (before : List α) (content : α) (after : List α) : before.length = index →
      read old = .ok content → contents = before ++ content :: after →
      (anew = do return before ++ (← read new) :: after) →
      Rereads read old new index contents anew

variable {read : Node → Read α} {first : α} {contents : List α} {anew : Read (List α)}

theorem Rereads.head (isRead : read old = .ok first) (contents : List α) :
    Rereads read old new 0 (first :: contents) (do return (← read new) :: contents) :=
  .one [] first contents rfl isRead rfl rfl

theorem Rereads.tail (rereads : Rereads read old new index contents anew) (first : α) :
    Rereads read old new (index + 1) (first :: contents) (do return first :: (← anew)) := by
  obtain ⟨before, content, after, isPlace, isRead, rfl, rfl⟩ := rereads
  refine .one (first :: before) content after (congrArg (· + 1) isPlace) isRead rfl ?_
  cases read new <;> rfl

end Rows

section Reading

variable {shape : Shape φ} {field : Field φ}

/-- A map is read as before but for the field of the name. -/
theorem Members.Replaces.readMembers {members changed : Members} {seen : List String}
    {contents : List φ} (replaces : members.Replaces name old new changed)
    (known : shape.field? name = some field)
    (isRead : shape.readMembers seen members = .ok contents) :
    ∃ place, Rereads field.read old new place contents (shape.readMembers seen changed) := by
  induction replaces generalizing seen contents with
  | @here key rest denoted =>
    obtain ⟨spelled, isName, ⟨unknown, -⟩ | ⟨found, content, others, isField, fresh, isContent,
      areOthers, rfl⟩⟩ := Shape.readMembers_member_eq_ok_iff.mp isRead
    · obtain rfl := Except.ok.inj (isName.symm.trans denoted.decode)
      exact absurd (known.symm.trans unknown) (by simp)
    · obtain rfl := Except.ok.inj (isName.symm.trans denoted.decode)
      obtain rfl := Option.some.inj (known.symm.trans isField)
      refine ⟨0, ?_⟩
      have anew : shape.readMembers seen (.member key new rest) =
          (do return (← field.read new) :: others) := by
        simp [Shape.readMembers, StringLiteral.readKey, isName, Read.ofFault, known, fresh, areOthers]
      rw [anew]
      exact .head isContent others
  | @later key value rest changed _ ih =>
    obtain ⟨spelled, isName, ⟨unknown, passed, areContents⟩ |
      ⟨other, content, others, isField, fresh, isContent, areOthers, rfl⟩⟩ :=
      Shape.readMembers_member_eq_ok_iff.mp isRead
    · obtain ⟨place, rereads⟩ := ih areContents
      refine ⟨place, ?_⟩
      have anew : shape.readMembers seen (.member key value changed) =
          shape.readMembers seen changed := by
        simp [Shape.readMembers, StringLiteral.readKey, isName, Read.ofFault, unknown, passed]
      rwa [anew]
    · obtain ⟨place, rereads⟩ := ih areOthers
      refine ⟨place + 1, ?_⟩
      have anew : shape.readMembers seen (.member key value changed) =
          (do return content :: (← shape.readMembers (spelled :: seen) changed)) := by
        simp [Shape.readMembers, StringLiteral.readKey, isName, Read.ofFault, isField, fresh, isContent]
      rw [anew]
      exact rereads.tail content

/-- A list of fields is read as before but for the field in the place. -/
theorem Items.Replaces.readItems {items changed : Items} {fields : List (Field φ)} {count : Nat}
    {contents : List φ} (replaces : items.Replaces old new index changed)
    (known : fields[index]? = some field)
    (isRead : shape.readItems count fields items = .ok contents) :
    ∃ place, Rereads field.read old new place contents (shape.readItems count fields changed) := by
  induction replaces generalizing fields count contents with
  | @here rest =>
    obtain ⟨fields, rfl⟩ : ∃ others, fields = field :: others := by
      cases fields with
      | nil => simp at known
      | cons first others => exact ⟨others, by simpa using known⟩
    simp only [Shape.readItems, Result.bind_eq_ok_iff] at isRead
    obtain ⟨content, isContent, others, areOthers, same⟩ := isRead
    cases same
    refine ⟨0, ?_⟩
    simp only [Shape.readItems, areOthers, Result.ok_bind]
    exact .head isContent others
  | @later index head rest changed _ ih =>
    obtain ⟨first, fields, rfl⟩ : ∃ first others, fields = first :: others := by
      cases fields with
      | nil => simp at known
      | cons first others => exact ⟨first, others, rfl⟩
    simp only [Shape.readItems, Result.bind_eq_ok_iff] at isRead
    obtain ⟨content, isContent, others, areOthers, same⟩ := isRead
    cases same
    obtain ⟨place, rereads⟩ := ih (by simpa using known) areOthers
    refine ⟨place + 1, ?_⟩
    simp only [Shape.readItems, isContent, Result.ok_bind]
    exact rereads.tail content

/-- A list of values is read as before but for the value in the place. -/
theorem Items.Replaces.readAll {items changed : Items} {read : Node → Read α} {contents : List α}
    (replaces : items.Replaces old new index changed) (isRead : items.readAll read = .ok contents) :
    Rereads read old new index contents (changed.readAll read) := by
  induction replaces generalizing contents with
  | here =>
    simp only [Items.readAll, Result.bind_eq_ok_iff] at isRead
    obtain ⟨content, isContent, others, areOthers, same⟩ := isRead
    cases same
    simp only [Items.readAll, areOthers, Result.ok_bind]
    exact .head isContent others
  | later _ ih =>
    simp only [Items.readAll, Result.bind_eq_ok_iff] at isRead
    obtain ⟨content, isContent, others, areOthers, same⟩ := isRead
    cases same
    simp only [Items.readAll, isContent, Result.ok_bind]
    exact (ih areOthers).tail content

/-- A record is read as before but for the field of the name. -/
theorem Node.ReplacesField.read {node changed : Node} {contents : List φ}
    (replaces : Node.ReplacesField shape.names name old new node changed)
    (distinct : shape.names.Nodup) (known : shape.field? name = some field)
    (isRead : shape.read node = .ok contents) :
    ∃ place, Rereads field.read old new place contents (shape.read changed) := by
  cases replaces with
  | map members => exact members.readMembers known isRead
  | @list place items changed isName replaces =>
    rw [Shape.names, List.getElem?_map, Option.map_eq_some_iff] at isName
    obtain ⟨inPlace, isInPlace, named⟩ := isName
    obtain ⟨listed, isName⟩ := Shape.mem_of_field? known
    have same : inPlace = field :=
      List.inj_on_of_nodup_map distinct (List.mem_of_getElem? isInPlace) listed
        (named.trans isName.symm)
    exact replaces.readItems (same ▸ isInPlace) isRead

theorem Node.ReplacesItem.readList {node changed : Node} {read : Node → Read α} {contents : List α}
    (replaces : Node.ReplacesItem index old new node changed)
    (isRead : node.readList read = .ok contents) :
    Rereads read old new index contents (changed.readList read) := by
  cases replaces with
  | list items => exact items.readAll isRead

end Reading

end DiagnosticReplay.Json
