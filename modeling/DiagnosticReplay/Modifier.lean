/-! # Modifiers

The modifiers that a definition may carry. Access modifiers stand apart from the others, because a
definition has at most one of them.
-/

namespace DiagnosticReplay

/-- The modifiers that do not concern access. -/
inductive Modifier where
  | final
  | native
  | override
  | proxy
  | static
deriving DecidableEq, Repr

/-- The modifiers that say from where a definition can be used. -/
inductive AccessModifier where
  | publicAccess
  | privateAccess
  | protectedAccess
  | internalAccess
deriving DecidableEq, Repr

namespace Modifier

/-- Every modifier, in the order in which messages list them. -/
def all : List Modifier := [final, native, override, proxy, static]

/-- The keyword of the modifier. -/
def keyword : Modifier → String
  | final => "final"
  | native => "native"
  | override => "override"
  | proxy => "proxy"
  | static => "static"

end Modifier

namespace AccessModifier

/-- Every access modifier, in the order in which messages list them. -/
def all : List AccessModifier := [publicAccess, privateAccess, protectedAccess, internalAccess]

/-- The keyword of the modifier. -/
def keyword : AccessModifier → String
  | publicAccess => "public"
  | privateAccess => "private"
  | protectedAccess => "protected"
  | internalAccess => "internal"

end AccessModifier

end DiagnosticReplay
