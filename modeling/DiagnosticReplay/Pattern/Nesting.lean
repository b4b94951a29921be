/-! # Nesting

How deep a pattern is nested is limited. Single characters and places have no depth. Several parts
in a row, several branches, a group, a repetition, a class and an operator in a class are each one
deeper than the deepest thing in them.
-/

namespace DiagnosticReplay.Pattern

/-- The deepest pattern that there can be. -/
def greatestDepth : Nat := 250

/-- The depth of some things side by side. A thing alone is not made deeper. -/
def joinedDepth : List Nat → Nat
  | [] => 0
  | [depth] => depth
  | depths => depths.foldl max 0 + 1

/-- A part of a pattern. -/
structure Part where
  depth : Nat := 0
  /-- A repetition may follow it. -/
  repeatable : Bool := true
deriving DecidableEq, Repr

/-- What was read of a group, the newest first: the depths of the branches that are finished, and
the parts of the one that is not. -/
structure OpenGroup where
  branches : List Nat := []
  parts : List Part := []
deriving DecidableEq, Repr

namespace OpenGroup

/-- The depth of the branch that is being read. -/
def branchDepth (group : OpenGroup) : Nat :=
  joinedDepth (group.parts.map Part.depth)

/-- The depth of what the group holds. -/
def innerDepth (group : OpenGroup) : Nat :=
  joinedDepth (group.branchDepth :: group.branches)

/-- Add a part to the branch. -/
def add (group : OpenGroup) (part : Part) : OpenGroup :=
  { group with parts := part :: group.parts }

/-- Begin another branch. -/
def branch (group : OpenGroup) : OpenGroup where
  branches := group.branchDepth :: group.branches

/-- Repeat the newest part, if there is one that can be repeated. -/
def repeatLast? (group : OpenGroup) : Option OpenGroup :=
  match group.parts with
  | ⟨depth, true⟩ :: parts => some { group with parts := ⟨depth + 1, true⟩ :: parts }
  | _ => none

end OpenGroup

/-- What was read of a class: the depth of what stands left of the newest operator, and the depths
of the items after it. -/
structure OpenClass where
  left : Option Nat := none
  items : List Nat := []
deriving DecidableEq, Repr

namespace OpenClass

/-- The depth of what the class holds. -/
def innerDepth (opened : OpenClass) : Nat :=
  match opened.left with
  | none => joinedDepth opened.items
  | some depth => max depth (joinedDepth opened.items) + 1

/-- Add an item. -/
def add (opened : OpenClass) (depth : Nat) : OpenClass :=
  { opened with items := depth :: opened.items }

/-- Go on with the right side of an operator, whose left side is everything before. -/
def operate (opened : OpenClass) : OpenClass where
  left := some opened.innerDepth

end OpenClass

end DiagnosticReplay.Pattern
