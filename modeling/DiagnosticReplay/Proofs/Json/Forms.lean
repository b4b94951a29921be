import DiagnosticReplay.Proofs.Json.Rewriting

/-! # The two forms of a record

A record that is written as a map of all its fields, in whatever order, says the same as the list of
their values in the order of the fields. So a record can be written in its other form, while the
values inside it are rewritten too, and it keeps the fields that it has.
-/

namespace DiagnosticReplay.Json

/-- The members give each name its value, in whatever order they stand, and there are no others. -/
structure Lists (names : List String) (pairs : List (String × Node)) (nodes : List Node) : Prop where
  whole : nodes.length = names.length
  members : pairs.Perm (names.zip nodes)

/-- A record with fields of these names is rewritten in its form, or a map of them all becomes the list
of their values, or such a list a map. -/
inductive Node.ReformsRecord (names : List String) (rewrites : String → Node → Node → Prop) :
    Node → Node → Prop where
  | kept {node other : Node} : node.RewritesRecord names rewrites other →
      ReformsRecord names rewrites node other
  | listed {members : Members} {written : Items} {pairs rewritten : List (String × Node)}
      {nodes : List Node} : members.Are pairs →
      List.Forall₂ (RewritesMember rewrites) pairs rewritten → Lists names rewritten nodes →
      written.Are nodes → ReformsRecord names rewrites (.map members) (.list written)
  | mapped {items : Items} {written : Members} {nodes rewritten : List Node}
      {pairs : List (String × Node)} : items.Are nodes →
      RewritesItems rewrites names nodes rewritten → Lists names pairs rewritten →
      written.Are pairs → ReformsRecord names rewrites (.list items) (.map written)

variable {φ : Type} {grammar : FieldGrammar φ} {rules : List (FieldRule φ)}
  {pairs : List (String × Node)} {nodes : List Node}

/-- A list with a value for each field gives the fields their values one by one. -/
theorem fills_iff_of_whole (whole : nodes.length = rules.length) :
    Fills grammar rules nodes ↔
      List.Forall₂ (fun rule => grammar.writes rule.content) rules nodes := by
  constructor
  · intro fills
    induction fills with
    | done => exact .nil
    | given written _ ih => exact .cons written (ih (Nat.succ.inj whole))
    | ended => exact absurd whole (by simp)
  · intro each
    clear whole
    induction each with
    | nil => exact .done
    | cons written _ ih => exact .given written ih

section Lists

variable (lists : Lists (rules.map fun rule => grammar.name rule.content) pairs nodes)

include lists

theorem Lists.length_eq : nodes.length = rules.length := by
  rw [lists.whole, List.length_map]

theorem Lists.names_perm :
    (pairs.map Prod.fst).Perm (rules.map fun rule => grammar.name rule.content) := by
  rw [← List.map_fst_zip lists.whole.ge]
  exact lists.members.map Prod.fst

/-- The value in the place of a field stands under the name of the field. -/
theorem Lists.mem_of_mem_zip {rule : FieldRule φ} {node : Node} (member : (rule, node) ∈ rules.zip nodes) :
    (grammar.name rule.content, node) ∈ pairs := by
  rw [lists.members.mem_iff, List.zip_map_left]
  exact List.mem_map.mpr ⟨(rule, node), member, rfl⟩

/-- A map states the fields of a record exactly if the list of its values fills them. -/
theorem Lists.states_iff_fills
    (distinct : (rules.map fun rule => grammar.name rule.content).Nodup) :
    States grammar rules pairs ↔ Fills grammar rules nodes := by
  have keys : (pairs.map Prod.fst).Nodup := lists.names_perm.nodup_iff.mpr distinct
  rw [fills_iff_of_whole lists.length_eq]
  constructor
  · intro states
    refine List.forall₂_iff_zip.mpr ⟨lists.length_eq.symm, fun {rule node} member => ?_⟩
    have stands := lists.mem_of_mem_zip member
    rcases states.each rule (List.of_mem_zip member).1 with ⟨value, isMember, written⟩ | ⟨absent, -⟩
    · have same := List.inj_on_of_nodup_map keys isMember stands rfl
      exact (Prod.mk.inj same).2 ▸ written
    · exact absurd (List.mem_map_of_mem stands) absent
  · intro each
    have given : List.Forall₂ (fun rule node => (grammar.name rule.content, node) ∈ pairs ∧
        grammar.writes rule.content node) rules nodes :=
      List.forall₂_iff_zip.mpr ⟨lists.length_eq.symm, fun member =>
        ⟨lists.mem_of_mem_zip member, (List.forall₂_iff_zip.mp each).2 member⟩⟩
    refine ⟨fun rule _ => List.nodup_iff_count_le_one.mp keys _, fun rule listed => .inl ?_⟩
    obtain ⟨node, -, stands⟩ := exists_right_of_forall₂ given listed
    exact ⟨node, stands⟩

end Lists

/-- Members that are rewritten in their places state the same fields. -/
theorem States.rewritten {rewrites : String → Node → Node → Prop} {others : List (String × Node)}
    (states : States grammar rules pairs) (each : List.Forall₂ (RewritesMember rewrites) pairs others)
    (keeps : Keeps grammar rules rewrites) : States grammar rules others := by
  have members : RewritesMembers (rules.map fun rule => grammar.name rule.content) rewrites pairs
      others := .among each (List.forall_mem_nil _) (.of_eq (List.append_nil _).symm)
  exact members.states (fun rule listed => List.mem_map.mpr ⟨rule, listed, rfl⟩) keeps states

/-- A record in its other form has the same fields. -/
theorem Node.ReformsRecord.isShaped {names : List String} {rewrites : String → Node → Node → Prop}
    {node other : Node} (reforms : node.ReformsRecord names rewrites other)
    (named : (rules.map fun rule => grammar.name rule.content) = names) (distinct : names.Nodup)
    (keeps : Keeps grammar rules rewrites) (shaped : node.IsShaped grammar rules) :
    other.IsShaped grammar rules := by
  subst named
  cases reforms with
  | kept rewritten => exact rewritten.isShaped rfl keeps shaped
  | listed are each lists written =>
    cases shaped with
    | map areToo states =>
      obtain rfl := are.unique areToo
      exact .list written ((lists.states_iff_fills distinct).mp (states.rewritten each keeps))
  | mapped are each lists written =>
    cases shaped with
    | list areToo fills =>
      obtain rfl := are.unique areToo
      exact .map written ((lists.states_iff_fills distinct).mpr (each.fills keeps fills))

end DiagnosticReplay.Json
