import DiagnosticReplay.Source.Script

/-! # Script registers

The scripts that one document speaks of. A register hands out a script for a path: the one that it
holds, or a new one that it numbers and keeps. Two scripts that were handed out are one and the same
if they have one number; their paths and contents do not decide that. Registers count for themselves,
so numbers are compared within one document only.
-/

namespace DiagnosticReplay.Source

/-- The scripts that were handed out, in the order of their numbers. -/
structure ScriptRegister where
  scripts : List Script := []

namespace ScriptRegister

/-- The register that has handed out no script. -/
def empty : ScriptRegister := {}

/-- The script that the register holds for a path. Paths are compared exactly. -/
def find? (register : ScriptRegister) (path : String) : Option Script :=
  register.scripts.find? fun script => script.path == path

/-- Hand out the script of a path. A new script has no content and the next free number. -/
def handOut (register : ScriptRegister) (path : String) : Script × ScriptRegister :=
  match register.find? path with
  | some script => (script, register)
  | none =>
    let script := Script.shared register.scripts.length path
    (script, ⟨register.scripts ++ [script]⟩)

end ScriptRegister

end DiagnosticReplay.Source
