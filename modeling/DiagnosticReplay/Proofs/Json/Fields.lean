import DiagnosticReplay.Proofs.Json.Reading
import Mathlib.Data.List.Nodup

/-! # Records

A record is written as a map of its fields, in any order and with members of other names between
them, or as a list of its values, in the order of the fields. In a map some fields can be left out,
and a list can end early, where the record holds what is then taken for granted. What is read of a
record are the contents of its fields; a record is accepted exactly if it is written so.
-/

namespace DiagnosticReplay.Json

variable {φ α β : Type}

/-- How the contents of fields are named and written. -/
structure FieldGrammar (φ : Type) where
  name : φ → String
  writes : φ → Node → Prop

/-- What a record says about one of its fields: the content of the field, whether a map of the record
can leave the field out, and whether a list can end before it. -/
structure FieldRule (φ : Type) where
  content : φ
  mayLack : Prop := False
  mayEnd : Prop := False

section Grammar

variable (grammar : FieldGrammar φ)

/-- The members state every field that they do not leave out, and none of them twice. -/
structure States (rules : List (FieldRule φ)) (pairs : List (String × Node)) : Prop where
  once : ∀ rule ∈ rules, (pairs.map Prod.fst).count (grammar.name rule.content) ≤ 1
  each : ∀ rule ∈ rules,
    (∃ value, (grammar.name rule.content, value) ∈ pairs ∧ grammar.writes rule.content value) ∨
      grammar.name rule.content ∉ pairs.map Prod.fst ∧ rule.mayLack

/-- The values are those of the fields in their order, as far as they go. -/
inductive Fills : List (FieldRule φ) → List Node → Prop where
  | done : Fills [] []
  | given {rule : FieldRule φ} {rules : List (FieldRule φ)} {node : Node} {nodes : List Node} :
      grammar.writes rule.content node → Fills rules nodes → Fills (rule :: rules) (node :: nodes)
  | ended {rule : FieldRule φ} {rules : List (FieldRule φ)} : rule.mayEnd → Fills rules [] →
      Fills (rule :: rules) []

/-- The value is a record with such fields. -/
inductive Node.IsShaped (rules : List (FieldRule φ)) : Node → Prop where
  | map {members : Members} {pairs : List (String × Node)} : members.Are pairs →
      States grammar rules pairs → IsShaped rules (.map members)
  | list {items : Items} {nodes : List Node} : items.Are nodes → Fills grammar rules nodes →
      IsShaped rules (.list items)

/-- The contents hold the content of the field, or leave the field out where it may lack. -/
def TellsField (contents : List φ) (rule : FieldRule φ) : Prop :=
  rule.content ∈ contents ∨
    (∀ content ∈ contents, grammar.name content ≠ grammar.name rule.content) ∧ rule.mayLack

/-- The contents tell what the record says about each of its fields. -/
def Tells (rules : List (FieldRule φ)) (contents : List φ) : Prop :=
  ∀ rule ∈ rules, TellsField grammar contents rule

end Grammar

/-- The fields of the shape are read as the grammar writes them. -/
structure Shape.Follows (shape : Shape φ) (grammar : FieldGrammar φ) : Prop where
  distinct : (shape.fields.map Field.name).Nodup
  reads : ∀ field ∈ shape.fields, Reads field.read fun content node =>
    grammar.name content = field.name ∧ grammar.writes content node
  ends : ∀ field ∈ shape.fields, ∀ content, field.atEnd = some content →
    grammar.name content = field.name

section Maps

variable {shape : Shape φ} {grammar : FieldGrammar φ}

theorem Shape.mem_of_field? {name : String} {field : Field φ} (found : shape.field? name = some field) :
    field ∈ shape.fields ∧ field.name = name := by
  rw [Shape.field?] at found
  exact ⟨List.mem_of_find?_eq_some found, by simpa using List.find?_some found⟩

theorem Shape.isSome_field?_iff {name : String} :
    (shape.field? name).isSome ↔ name ∈ shape.fields.map Field.name := by
  simp [Shape.field?, List.find?_isSome]

/-- The members that the shape has a field for. -/
def Shape.known (shape : Shape φ) (pairs : List (String × Node)) : List (String × Node) :=
  pairs.filter fun pair => (shape.field? pair.1).isSome

/-- The contents are those of the known members, of which none was seen before or stands twice. -/
structure Gives (shape : Shape φ) (grammar : FieldGrammar φ) (seen : List String)
    (pairs : List (String × Node)) (contents : List φ) : Prop where
  each : List.Forall₂ (fun pair content => grammar.name content = pair.1 ∧
    grammar.writes content pair.2) (shape.known pairs) contents
  distinct : ((shape.known pairs).map Prod.fst).Nodup
  fresh : ∀ pair ∈ shape.known pairs, pair.1 ∉ seen

theorem gives_cons_unknown {seen : List String} {name : String} {value : Node}
    {pairs : List (String × Node)} {contents : List φ} (unknown : shape.field? name = none) :
    Gives shape grammar seen ((name, value) :: pairs) contents ↔
      Gives shape grammar seen pairs contents := by
  have same : shape.known ((name, value) :: pairs) = shape.known pairs :=
    List.filter_cons_of_neg (by simp [unknown])
  constructor
  · rintro ⟨each, distinct, fresh⟩
    exact ⟨same ▸ each, same ▸ distinct, same ▸ fresh⟩
  · rintro ⟨each, distinct, fresh⟩
    exact ⟨same ▸ each, same ▸ distinct, same ▸ fresh⟩

theorem gives_cons_known {seen : List String} {name : String} {value : Node}
    {pairs : List (String × Node)} {contents : List φ} {field : Field φ}
    (known : shape.field? name = some field) :
    Gives shape grammar seen ((name, value) :: pairs) contents ↔
      name ∉ seen ∧ ∃ content others, (grammar.name content = name ∧ grammar.writes content value) ∧
        Gives shape grammar (name :: seen) pairs others ∧ content :: others = contents := by
  have same : shape.known ((name, value) :: pairs) = (name, value) :: shape.known pairs :=
    List.filter_cons_of_pos (by simp [known])
  constructor
  · rintro ⟨each, distinct, fresh⟩
    rw [same] at each distinct fresh
    obtain ⟨content, others, first, rest, rfl⟩ := List.forall₂_cons_left_iff.mp each
    obtain ⟨isFresh, areFresh⟩ := List.forall_mem_cons.mp fresh
    obtain ⟨absent, areDistinct⟩ := List.nodup_cons.mp distinct
    refine ⟨isFresh, content, others, first, ⟨rest, areDistinct, fun pair member => ?_⟩, rfl⟩
    rw [List.mem_cons, not_or]
    exact ⟨fun again => absent (List.mem_map.mpr ⟨pair, member, again⟩), areFresh pair member⟩
  · rintro ⟨isFresh, content, others, first, ⟨rest, areDistinct, areFresh⟩, rfl⟩
    have apart : ∀ pair ∈ shape.known pairs, pair.1 ≠ name ∧ pair.1 ∉ seen :=
      fun pair member => not_or.mp (mt List.mem_cons.mpr (areFresh pair member))
    refine ⟨same ▸ .cons first rest, ?_, ?_⟩
    · rw [same]
      refine List.nodup_cons.mpr ⟨fun again => ?_, areDistinct⟩
      obtain ⟨pair, member, isName⟩ := List.mem_map.mp again
      exact (apart pair member).1 isName
    · rw [same]
      exact List.forall_mem_cons.mpr ⟨isFresh, fun pair member => (apart pair member).2⟩

/-- What the reading of a map does at its next member. -/
theorem Shape.readMembers_member_eq_ok_iff {seen : List String} {key : StringLiteral} {value : Node}
    {rest : Members} {contents : List φ} :
    shape.readMembers seen (.member key value rest) = .ok contents ↔
      ∃ name, key.decode = .ok name ∧
        (shape.field? name = none ∧ value.skip = .ok () ∧
            shape.readMembers seen rest = .ok contents ∨
          ∃ field content others, shape.field? name = some field ∧ name ∉ seen ∧
            field.read value = .ok content ∧ shape.readMembers (name :: seen) rest = .ok others ∧
            content :: others = contents) := by
  rw [Shape.readMembers, StringLiteral.readKey]
  simp only [Result.bind_eq_ok_iff, Read.ofFault_eq_ok_iff]
  refine exists_congr fun name => and_congr_right fun _ => ?_
  cases found : shape.field? name with
  | none => simp [Result.bind_unit_eq_ok_iff]
  | some field =>
    by_cases inSeen : name ∈ seen
    · simp [inSeen, Read.mismatch]
    · simp [inSeen, Result.bind_eq_ok_iff]

/-- The contents of a map are those of its known members. -/
theorem Shape.Follows.readMembers_eq_ok_iff (follows : shape.Follows grammar) {members : Members}
    {pairs : List (String × Node)} (are : members.Are pairs) (wellFormed : members.WellFormed)
    {seen : List String} {contents : List φ} :
    shape.readMembers seen members = .ok contents ↔ Gives shape grammar seen pairs contents := by
  induction are generalizing seen contents with
  | closed =>
    constructor
    · intro isRead
      cases isRead
      exact ⟨.nil, List.nodup_nil, fun _ member => absurd member List.not_mem_nil⟩
    · rintro ⟨each, -, -⟩
      cases each
      rfl
  | @member key name value rest pairs denoted _ ih =>
    obtain ⟨-, valueIs, restAre⟩ := wellFormed
    simp only [Shape.readMembers_member_eq_ok_iff, denoted.decode, Except.ok.injEq,
      exists_eq_left', ih restAre]
    cases found : shape.field? name with
    | none => simp [gives_cons_unknown found, valueIs.skip]
    | some field =>
      obtain ⟨listed, named⟩ := Shape.mem_of_field? found
      simp [gives_cons_known found, (follows.reads field listed).iff valueIs, named]

theorem Shape.Follows.skip_members (follows : shape.Follows grammar) :
    ∀ {members : Members} {seen : List String} {contents : List φ},
      shape.readMembers seen members = .ok contents → members.skip = .ok ()
  | .closed, _, _, _ => rfl
  | .broken _, _, _, isRead => absurd isRead (by simp [Shape.readMembers, Read.fault])
  | .dangling _, _, _, isRead => absurd isRead (by simp [Shape.readMembers, Read.fault])
  | .member _ _ _, _, _, isRead => by
    obtain ⟨name, isName, ⟨-, passed, rest⟩ | ⟨field, content, others, found, -, isContent, rest, -⟩⟩ :=
      Shape.readMembers_member_eq_ok_iff.mp isRead
    · exact Members.skip_member_iff.mpr
        ⟨StringLiteral.closed_of_decode isName, passed, follows.skip_members rest⟩
    · exact Members.skip_member_iff.mpr
        ⟨StringLiteral.closed_of_decode isName,
          (follows.reads field (Shape.mem_of_field? found).1).skips isContent,
          follows.skip_members rest⟩

/-- Every key of a map that is read denotes a name. -/
theorem Shape.exists_are_of_readMembers : ∀ {members : Members} {seen : List String}
    {contents : List φ}, members.WellFormed → shape.readMembers seen members = .ok contents →
      ∃ pairs, members.Are pairs
  | .closed, _, _, _, _ => ⟨[], .closed⟩
  | .member _ _ _, _, _, ⟨keyIs, _, restAre⟩, isRead => by
    obtain ⟨name, isName, following⟩ := Shape.readMembers_member_eq_ok_iff.mp isRead
    have denoted := (StringLiteral.decode_eq_ok_iff keyIs).mp isName
    rcases following with ⟨-, -, rest⟩ | ⟨_, _, _, -, -, -, rest, -⟩
    · obtain ⟨pairs, are⟩ := Shape.exists_are_of_readMembers restAre rest
      exact ⟨_, .member denoted are⟩
    · obtain ⟨pairs, are⟩ := Shape.exists_are_of_readMembers restAre rest
      exact ⟨_, .member denoted are⟩

end Maps

section Lists

variable {shape : Shape φ} {grammar : FieldGrammar φ} {fields : List (Field φ)}
  {rules : List (FieldRule φ)}

/-- The rule is about the field. -/
structure Field.Fits (grammar : FieldGrammar φ) (field : Field φ) (rule : FieldRule φ) : Prop where
  name : grammar.name rule.content = field.name
  mayEnd : field.atEnd = some rule.content ↔ rule.mayEnd

theorem Items.exists_are : ∀ {items : Items}, items.WellFormed → ∃ nodes, items.Are nodes
  | .closed, _ => ⟨[], .closed⟩
  | .item _ _, wellFormed => by
    obtain ⟨nodes, are⟩ := Items.exists_are wellFormed.2
    exact ⟨_, .item are⟩

/-- The fields are read in the order of their rules. -/
theorem Shape.readItems_eq_ok_iff
    (reads : ∀ field ∈ fields, Reads field.read fun content node =>
      grammar.name content = field.name ∧ grammar.writes content node)
    (fits : List.Forall₂ (Field.Fits grammar) fields rules) {items : Items} {nodes : List Node}
    (are : items.Are nodes) (wellFormed : items.WellFormed) {index : Nat} :
    shape.readItems index fields items = .ok (rules.map FieldRule.content) ↔
      Fills grammar rules nodes := by
  induction fits generalizing items nodes index with
  | nil =>
    cases are with
    | closed => exact ⟨fun _ => .done, fun _ => rfl⟩
    | item are => exact ⟨fun isRead => by simp [Shape.readItems, Read.fault] at isRead, nofun⟩
  | @cons field rule fields rules fit _ ih =>
    obtain ⟨firstReads, othersRead⟩ := List.forall_mem_cons.mp reads
    cases are with
    | closed =>
      have rest := @ih othersRead .closed [] .closed trivial (index + 1)
      rw [Shape.readItems]
      cases isEnd : field.atEnd with
      | none =>
        refine ⟨fun isRead => by simp [Read.mismatch] at isRead, fun fills => ?_⟩
        cases fills with
        | ended mayEnd => exact absurd (isEnd.symm.trans (fit.mayEnd.mpr mayEnd)) (by simp)
      | some content =>
        simp only [Result.bind_eq_ok_iff, List.map_cons, Result.pure_eq_ok, Except.ok.injEq,
          List.cons.injEq]
        constructor
        · rintro ⟨others, areOthers, rfl, rfl⟩
          exact .ended (fit.mayEnd.mp isEnd) (rest.mp areOthers)
        · intro fills
          cases fills with
          | ended mayEnd fills =>
            have same := Option.some.inj (isEnd.symm.trans (fit.mayEnd.mpr mayEnd))
            exact ⟨_, rest.mpr fills, same, rfl⟩
    | @item head rest nodes are =>
      obtain ⟨headIs, restIs⟩ := wellFormed
      simp only [Shape.readItems, Result.bind_eq_ok_iff, List.map_cons, Result.pure_eq_ok,
        Except.ok.injEq, List.cons.injEq]
      constructor
      · rintro ⟨content, isContent, others, areOthers, rfl, rfl⟩
        exact .given ((firstReads.iff headIs).mp isContent).2 ((ih othersRead are restIs).mp areOthers)
      · intro fills
        cases fills with
        | given written fills =>
          exact ⟨_, (firstReads.iff headIs).mpr ⟨fit.name, written⟩, _,
            (ih othersRead are restIs).mpr fills, rfl, rfl⟩

/-- A list gives every field a content. -/
theorem Shape.names_of_readItems {items : Items} (wellFormed : items.WellFormed)
    (reads : ∀ field ∈ fields, Reads field.read fun content node =>
      grammar.name content = field.name ∧ grammar.writes content node)
    (ends : ∀ field ∈ fields, ∀ content, field.atEnd = some content →
      grammar.name content = field.name)
    {index : Nat} {contents : List φ} (isRead : shape.readItems index fields items = .ok contents) :
    contents.map grammar.name = fields.map Field.name := by
  induction fields generalizing items index contents with
  | nil =>
    cases items with
    | closed => cases isRead; rfl
    | item head rest => simp [Shape.readItems, Read.fault] at isRead
    | broken fault => exact wellFormed.elim
  | cons field fields ih =>
    obtain ⟨firstReads, othersRead⟩ := List.forall_mem_cons.mp reads
    obtain ⟨firstEnds, othersEnd⟩ := List.forall_mem_cons.mp ends
    cases items with
    | broken fault => exact wellFormed.elim
    | closed =>
      rw [Shape.readItems] at isRead
      cases isEnd : field.atEnd with
      | none => simp [isEnd, Read.mismatch] at isRead
      | some content =>
        simp only [isEnd, Result.bind_eq_ok_iff] at isRead
        obtain ⟨others, areOthers, same⟩ := isRead
        cases same
        have closed : Items.closed.WellFormed := trivial
        rw [List.map_cons, List.map_cons, firstEnds content isEnd,
          ih closed othersRead othersEnd areOthers]
    | item head rest =>
      simp only [Shape.readItems, Result.bind_eq_ok_iff] at isRead
      obtain ⟨content, isContent, others, areOthers, same⟩ := isRead
      cases same
      rw [List.map_cons, List.map_cons, ((firstReads.iff wellFormed.1).mp isContent).1,
        ih wellFormed.2 othersRead othersEnd areOthers]

theorem Shape.skip_items (reads : ∀ field ∈ fields, Reads field.read fun content node =>
      grammar.name content = field.name ∧ grammar.writes content node) {items : Items} {index : Nat}
    {contents : List φ} (isRead : shape.readItems index fields items = .ok contents) :
    items.skip = .ok () := by
  induction fields generalizing items index contents with
  | nil =>
    cases items with
    | closed => rfl
    | item head rest => simp [Shape.readItems, Read.fault] at isRead
    | broken fault => simp [Shape.readItems, Read.fault] at isRead
  | cons field fields ih =>
    obtain ⟨firstReads, othersRead⟩ := List.forall_mem_cons.mp reads
    cases items with
    | closed => rfl
    | broken fault => simp [Shape.readItems, Read.fault] at isRead
    | item head rest =>
      simp only [Shape.readItems, Result.bind_eq_ok_iff] at isRead
      obtain ⟨content, isContent, others, areOthers, -⟩ := isRead
      exact Items.skip_item_iff.mpr ⟨firstReads.skips isContent, ih othersRead areOthers⟩

/-- Contents that give every field its content say only what the rules hold. -/
theorem eq_of_tells {contents : List φ} (distinct : (contents.map grammar.name).Nodup)
    (names : contents.map grammar.name = rules.map fun rule => grammar.name rule.content)
    (told : Tells grammar rules contents) : contents = rules.map FieldRule.content := by
  -- no field lacks, so every rule holds one of the contents
  have every : ∀ rule ∈ rules, rule.content ∈ contents := by
    intro rule member
    rcases told rule member with isContent | ⟨absent, -⟩
    · exact isContent
    · have isName : grammar.name rule.content ∈ contents.map grammar.name :=
        names ▸ List.mem_map.mpr ⟨rule, member, rfl⟩
      obtain ⟨content, isContent, same⟩ := List.mem_map.mp isName
      exact absurd same (absent content isContent)
  clear told
  induction rules generalizing contents with
  | nil => exact List.map_eq_nil_iff.mp names
  | cons rule rules ih =>
    obtain ⟨content, others, rfl, isName, areNames⟩ := List.map_eq_cons_iff.mp names
    obtain ⟨isContent, areContents⟩ := List.forall_mem_cons.mp every
    obtain ⟨apart, distinctRest⟩ := List.nodup_cons.mp distinct
    have first : rule.content = content :=
      List.inj_on_of_nodup_map distinct isContent List.mem_cons_self isName.symm
    have later : ∀ other ∈ rules, other.content ∈ others := by
      intro other member
      refine (List.mem_cons.mp (areContents other member)).resolve_left fun same => apart ?_
      rw [areNames, ← same]
      exact List.mem_map.mpr ⟨other, member, rfl⟩
    rw [List.map_cons, first, ← ih distinctRest areNames later]

end Lists

section Records

variable {shape : Shape φ} {grammar : FieldGrammar φ} {rules : List (FieldRule φ)}
  {pairs : List (String × Node)} {contents : List φ}

theorem names_eq_of_fits {fields : List (Field φ)}
    (fits : List.Forall₂ (Field.Fits grammar) fields rules) :
    (rules.map fun rule => grammar.name rule.content) = fields.map Field.name :=
  map_eq_map_of_forall₂ fits fun _ _ fit => fit.name

theorem Gives.names {seen : List String} (gives : Gives shape grammar seen pairs contents) :
    contents.map grammar.name = (shape.known pairs).map Prod.fst :=
  map_eq_map_of_forall₂ gives.each fun _ _ given => given.1

theorem Shape.mem_known_iff {pair : String × Node} :
    pair ∈ shape.known pairs ↔ pair ∈ pairs ∧ pair.1 ∈ shape.fields.map Field.name := by
  rw [Shape.known, List.mem_filter, Shape.isSome_field?_iff]

/-- A known name stands as often among the known members as among all. -/
theorem Shape.count_known {name : String} (known : name ∈ shape.fields.map Field.name) :
    ((shape.known pairs).map Prod.fst).count name = (pairs.map Prod.fst).count name := by
  have filtered : (shape.known pairs).map Prod.fst =
      (pairs.map Prod.fst).filter fun name => (shape.field? name).isSome := by
    rw [List.filter_map]
    rfl
  rw [filtered]
  exact List.count_filter (Shape.isSome_field?_iff.mpr known)

theorem Shape.nodup_known_iff : ((shape.known pairs).map Prod.fst).Nodup ↔
    ∀ name ∈ shape.fields.map Field.name, (pairs.map Prod.fst).count name ≤ 1 := by
  rw [List.nodup_iff_count_le_one]
  constructor
  · intro once name known
    rw [← Shape.count_known known]
    exact once name
  · intro once name
    by_cases known : name ∈ shape.fields.map Field.name
    · rw [Shape.count_known known]
      exact once name known
    · have absent : name ∉ (shape.known pairs).map Prod.fst := by
        intro member
        obtain ⟨pair, isKnown, rfl⟩ := List.mem_map.mp member
        exact known (Shape.mem_known_iff.mp isKnown).2
      rw [List.count_eq_zero.mpr absent]
      exact Nat.zero_le 1

section Stated

variable (fits : List.Forall₂ (Field.Fits grammar) shape.fields rules)

include fits

theorem name_mem_of_fits {rule : FieldRule φ} (listed : rule ∈ rules) :
    grammar.name rule.content ∈ shape.fields.map Field.name :=
  names_eq_of_fits fits ▸ List.mem_map.mpr ⟨rule, listed, rfl⟩

theorem States.nodup_known (states : States grammar rules pairs) :
    ((shape.known pairs).map Prod.fst).Nodup := by
  rw [Shape.nodup_known_iff, ← names_eq_of_fits fits]
  intro name isName
  obtain ⟨rule, listed, rfl⟩ := List.mem_map.mp isName
  exact states.once rule listed

/-- A known member of a record holds what the record says about one of its fields. -/
theorem States.exists_rule_of_known (states : States grammar rules pairs) {pair : String × Node}
    (isKnown : pair ∈ shape.known pairs) :
    ∃ rule ∈ rules, grammar.name rule.content = pair.1 ∧ grammar.writes rule.content pair.2 := by
  obtain ⟨member, isName⟩ := Shape.mem_known_iff.mp isKnown
  rw [← names_eq_of_fits fits] at isName
  obtain ⟨rule, listed, same⟩ := List.mem_map.mp isName
  refine ⟨rule, listed, same, ?_⟩
  rcases states.each rule listed with ⟨value, isMember, written⟩ | ⟨absent, -⟩
  · have isValue := Shape.mem_known_iff.mpr ⟨isMember, name_mem_of_fits fits listed⟩
    rwa [← List.inj_on_of_nodup_map (states.nodup_known fits) isValue isKnown same]
  · exact absurd (List.mem_map.mpr ⟨pair, member, same.symm⟩) absent

/-- Members state the fields of a record if their contents tell what the record says. -/
theorem states_iff (distinct : (shape.fields.map Field.name).Nodup) :
    States grammar rules pairs ↔
      ∃ contents, Gives shape grammar [] pairs contents ∧ Tells grammar rules contents := by
  constructor
  · intro states
    have given : ∀ pair ∈ shape.known pairs, ∃ content,
        (grammar.name content = pair.1 ∧ grammar.writes content pair.2) ∧
          ∃ rule ∈ rules, rule.content = content := by
      intro pair isKnown
      obtain ⟨rule, listed, written⟩ := states.exists_rule_of_known fits isKnown
      exact ⟨rule.content, written, rule, listed, rfl⟩
    obtain ⟨contents, areContents, fromRules⟩ := exists_forall₂ given
    refine ⟨contents, ⟨areContents, states.nodup_known fits, by simp⟩, fun rule listed => ?_⟩
    rcases states.each rule listed with ⟨value, isMember, -⟩ | ⟨absent, mayLack⟩
    · have isValue := Shape.mem_known_iff.mpr ⟨isMember, name_mem_of_fits fits listed⟩
      obtain ⟨content, isContent, same, -⟩ := exists_right_of_forall₂ areContents isValue
      obtain ⟨other, isOther, rfl⟩ := fromRules content isContent
      have isRule : other = rule := by
        rw [← names_eq_of_fits fits] at distinct
        exact List.inj_on_of_nodup_map distinct isOther listed same
      exact .inl (isRule ▸ isContent)
    · refine .inr ⟨fun content isContent same => absent ?_, mayLack⟩
      obtain ⟨pair, isKnown, isName, -⟩ := exists_left_of_forall₂ areContents isContent
      rw [← same, isName]
      exact List.mem_map_of_mem (Shape.mem_known_iff.mp isKnown).1
  · rintro ⟨contents, gives, told⟩
    refine ⟨fun rule listed => Shape.nodup_known_iff.mp gives.distinct _
      (name_mem_of_fits fits listed), fun rule listed => ?_⟩
    rcases told rule listed with isContent | ⟨absent, mayLack⟩
    · obtain ⟨pair, isKnown, isName, written⟩ := exists_left_of_forall₂ gives.each isContent
      rw [isName]
      exact .inl ⟨pair.2, (Shape.mem_known_iff.mp isKnown).1, written⟩
    · refine .inr ⟨fun isName => ?_, mayLack⟩
      obtain ⟨pair, member, same⟩ := List.mem_map.mp isName
      have isKnown := Shape.mem_known_iff.mpr ⟨member, same ▸ name_mem_of_fits fits listed⟩
      obtain ⟨content, isContent, isPair, -⟩ := exists_right_of_forall₂ gives.each isKnown
      exact absent content isContent (isPair.trans same)

end Stated

/-- What is read of a record are contents of different fields. -/
theorem Shape.Follows.nodup_names {shape : Shape φ} {grammar : FieldGrammar φ}
    (follows : shape.Follows grammar) {node : Node} {contents : List φ}
    (wellFormed : node.WellFormed) (isRead : shape.read node = .ok contents) :
    (contents.map grammar.name).Nodup := by
  cases node with
  | map members =>
    obtain ⟨pairs, are⟩ := Shape.exists_are_of_readMembers wellFormed isRead
    have gives := (follows.readMembers_eq_ok_iff are wellFormed).mp isRead
    exact gives.names ▸ gives.distinct
  | list items =>
    exact Shape.names_of_readItems wellFormed follows.reads follows.ends isRead ▸ follows.distinct
  | _ => exact absurd isRead Node.refuse_ne_ok

/-- A record is accepted exactly if it is written with the fields that it has. -/
theorem Shape.Follows.record {shape : Shape φ} {grammar : FieldGrammar φ}
    (follows : shape.Follows grammar) {finish : List φ → Read β} {rules : β → List (FieldRule φ)}
    (fits : ∀ value, List.Forall₂ (Field.Fits grammar) shape.fields (rules value))
    (finishes : ∀ contents value, (contents.map grammar.name).Nodup →
      (finish contents = .ok value ↔ Tells grammar (rules value) contents)) :
    Reads (fun node => do finish (← shape.read node)) fun value =>
      Node.IsShaped grammar (rules value) where
  skips := by
    intro node value isRead
    obtain ⟨contents, areContents, -⟩ := Result.bind_eq_ok_iff.mp isRead
    cases node with
    | map members => exact follows.skip_members areContents
    | list items => exact Shape.skip_items follows.reads areContents
    | _ => exact absurd areContents Node.refuse_ne_ok
  iff := by
    intro node value wellFormed
    rw [Result.bind_eq_ok_iff]
    constructor
    · rintro ⟨contents, areContents, finished⟩
      have distinct := follows.nodup_names wellFormed areContents
      have told := (finishes contents value distinct).mp finished
      cases node with
      | map members =>
        obtain ⟨pairs, are⟩ := Shape.exists_are_of_readMembers wellFormed areContents
        have gives := (follows.readMembers_eq_ok_iff are wellFormed).mp areContents
        exact .map are ((states_iff (fits value) follows.distinct).mpr ⟨contents, gives, told⟩)
      | list items =>
        obtain ⟨nodes, are⟩ := Items.exists_are wellFormed
        have names := Shape.names_of_readItems wellFormed follows.reads follows.ends areContents
        rw [eq_of_tells distinct (names.trans (names_eq_of_fits (fits value)).symm) told]
          at areContents
        exact .list are ((Shape.readItems_eq_ok_iff follows.reads (fits value) are wellFormed).mp
          areContents)
      | _ => exact absurd areContents Node.refuse_ne_ok
    · intro shaped
      cases shaped with
      | map are states =>
        obtain ⟨contents, gives, told⟩ := (states_iff (fits value) follows.distinct).mp states
        exact ⟨contents, (follows.readMembers_eq_ok_iff are wellFormed).mpr gives,
          (finishes contents value (gives.names ▸ gives.distinct)).mpr told⟩
      | list are fills =>
        have distinct : (((rules value).map FieldRule.content).map grammar.name).Nodup := by
          rw [List.map_map]
          exact names_eq_of_fits (fits value) ▸ follows.distinct
        exact ⟨_, (Shape.readItems_eq_ok_iff follows.reads (fits value) are wellFormed).mpr fills,
          (finishes _ value distinct).mpr fun rule listed => .inl (List.mem_map_of_mem listed)⟩

end Records

section Writing

variable {grammar : FieldGrammar φ} {members : List MemberRule} {rules : List (FieldRule φ)}

/-- What is written for the member is a content of the field, which lacks only where it may. -/
structure MemberRule.Fits (grammar : FieldGrammar φ) (member : MemberRule) (rule : FieldRule φ) :
    Prop where
  name : member.name = grammar.name rule.content
  writes : ∀ node, member.writes node → grammar.writes rule.content node
  mayLack : ¬member.needed → rule.mayLack

/-- A record that is written member by member has the fields that the members fit. -/
theorem Node.IsRecord.isShaped {node : Node} (is : node.IsRecord members)
    (fits : List.Forall₂ (MemberRule.Fits grammar) members rules)
    (distinct : (members.map MemberRule.name).Nodup) : node.IsShaped grammar rules := by
  cases is with
  | @map written pairs are isWritten =>
    refine .map are ⟨fun rule _ => List.nodup_iff_count_le_one.mp isWritten.distinct _, ?_⟩
    intro rule listed
    obtain ⟨member, isMember, fit⟩ := exists_left_of_forall₂ fits listed
    rw [← fit.name]
    by_cases given : member.name ∈ pairs.map Prod.fst
    · obtain ⟨pair, isPair, named⟩ := List.mem_map.mp given
      obtain ⟨other, isOther, sameName, value⟩ := isWritten.known pair isPair
      have same : other = member :=
        List.inj_on_of_nodup_map distinct isOther isMember (sameName.trans named)
      exact .inl ⟨pair.2, named ▸ isPair, fit.writes _ (same ▸ value)⟩
    · exact .inr ⟨given, fit.mayLack fun needed => given (isWritten.complete member isMember needed)⟩

end Writing

section Selection

variable {grammar : FieldGrammar φ} {contents : List φ} {label : String} {make : α → φ}
  {get : φ → Option α} {value : α}

/-- The contents of the field of this name are those that `make` makes. -/
def FieldGrammar.Names (grammar : FieldGrammar φ) (label : String) (make : α → φ) : Prop :=
  ∀ content, grammar.name content = label ↔ ∃ value, content = make value

/-- What `make` makes of a value is all that `get` finds a value in. -/
def Selects (get : φ → Option α) (make : α → φ) : Prop :=
  ∀ content value, get content = some value ↔ content = make value

/-- The reader of a field reads its value. -/
theorem FieldGrammar.Names.reads (names : grammar.Names label make) {read : Node → Read α}
    (reads : Reads read fun value => grammar.writes (make value)) :
    Reads (fun node => do return make (← read node)) fun content node =>
      grammar.name content = label ∧ grammar.writes content node := by
  apply reads.make
  intro content node
  rw [names]
  constructor
  · rintro ⟨⟨value, rfl⟩, written⟩
    exact ⟨value, rfl, written⟩
  · rintro ⟨value, rfl, written⟩
    exact ⟨⟨value, rfl⟩, written⟩

theorem require_eq_ok_iff {content : Option α} :
    require label content = .ok value ↔ content = some value := by
  cases content <;> simp [require, Read.mismatch]

theorem FieldGrammar.Names.findSome?_eq_none_iff (names : grammar.Names label make)
    (selects : Selects get make) :
    contents.findSome? get = none ↔ ∀ content ∈ contents, grammar.name content ≠ label := by
  rw [List.findSome?_eq_none_iff]
  refine forall₂_congr fun content _ => ?_
  rw [Option.eq_none_iff_forall_ne_some, ne_eq, names, not_exists]
  exact forall_congr' fun value => not_congr (selects content value)

/-- A field that is told once is found. -/
theorem FieldGrammar.Names.findSome?_eq_some_iff (names : grammar.Names label make)
    (selects : Selects get make) (distinct : (contents.map grammar.name).Nodup) :
    contents.findSome? get = some value ↔ make value ∈ contents := by
  constructor
  · intro found
    obtain ⟨content, member, got⟩ := List.exists_of_findSome?_eq_some found
    exact (selects content value).mp got ▸ member
  · intro member
    have named (value : α) : grammar.name (make value) = label := (names _).mpr ⟨value, rfl⟩
    cases found : contents.findSome? get with
    | none => exact absurd (named value) ((names.findSome?_eq_none_iff selects).mp found _ member)
    | some other =>
      obtain ⟨content, isContent, got⟩ := List.exists_of_findSome?_eq_some found
      obtain rfl := (selects content other).mp got
      have same := List.inj_on_of_nodup_map distinct isContent member
        ((named other).trans (named value).symm)
      rw [← got, same]
      exact (selects _ value).mpr rfl

/-- A field that a record needs is told exactly if it is found. -/
theorem FieldGrammar.Names.findSome?_iff_tells (names : grammar.Names label make)
    (selects : Selects get make) (distinct : (contents.map grammar.name).Nodup) :
    contents.findSome? get = some value ↔ TellsField grammar contents { content := make value } := by
  rw [names.findSome?_eq_some_iff selects distinct, TellsField, and_false, or_false]

/-- A field that may lack is told exactly if it is found or holds what its absence stands for. -/
theorem FieldGrammar.Names.getD_iff_tells (names : grammar.Names label make)
    (selects : Selects get make) (distinct : (contents.map grammar.name).Nodup) {default : α}
    {mayEnd : Prop} :
    (contents.findSome? get).getD default = value ↔ TellsField grammar contents
      { content := make value, mayLack := value = default, mayEnd } := by
  rw [TellsField, (names (make value)).mpr ⟨value, rfl⟩,
    ← names.findSome?_eq_some_iff selects distinct, ← names.findSome?_eq_none_iff selects]
  cases contents.findSome? get <;> simp [eq_comm]

theorem FieldGrammar.Names.join_iff_tells {make : Option α → φ} {get : φ → Option (Option α)}
    {value : Option α} (names : grammar.Names label make) (selects : Selects get make)
    (distinct : (contents.map grammar.name).Nodup) :
    (contents.findSome? get).join = value ↔ TellsField grammar contents
      { content := make value, mayLack := value = none } := by
  rw [← names.getD_iff_tells selects distinct]
  cases contents.findSome? get <;> rfl

end Selection

end DiagnosticReplay.Json
