import DiagnosticReplay.Replay
import DiagnosticReplay.Text.Split

/-! # File trees

A directory with the files below it, held as data, so that a run can be followed without touching a
disk. Paths are taken relative to the directory. A directory is there if it was named, or if
something lies in it. A path is refused as a whole if it is too long, and a component of a path when
it is looked up.
-/

namespace DiagnosticReplay

/-- What a path of a tree holds. -/
inductive FileNode where
  | file (bytes : ByteArray)
  | directory

/-- The contents of a directory, by the components of their paths. -/
structure FileTree where
  nodes : List (List String × FileNode)

namespace FileTree

/-- The components of a path, among them the empty ones. -/
def components (path : String) : List String :=
  Text.splitAt '/' path

/-- A component that stays where it is. -/
def stays (component : String) : Bool :=
  component == "" || component == "."

/-- The place that a path leads to if it never goes back up. -/
def place (path : String) : List String :=
  (components path).filter (!stays ·)

/-- The tree of some paths and what they hold. -/
def ofNodes (nodes : List (String × FileNode)) : FileTree :=
  ⟨nodes.map fun node => (place node.1, node.2)⟩

/-- What is at a place in the tree. -/
def node? (tree : FileTree) (place : List String) : Option FileNode :=
  match tree.nodes.lookup place with
  | some node => some node
  | none =>
    if place.isEmpty || tree.nodes.any (fun node => place.isPrefixOf node.1) then some .directory
    else none

/-- The most bytes that a component of a path can have. -/
def longestComponent : Nat := 255

/-- The most bytes that a path can have. -/
def longestPath : Nat := 4095

/-- Why a component leads nowhere. -/
def missing (component : String) : ReadFailure :=
  if component.utf8ByteSize ≤ longestComponent then .notFound else .nameTooLong

/-- What a way outside the tree leads to. The directories above the tree are there, and what else
they hold is not known. -/
def outside (components : List String) : Except ReadFailure FileNode :=
  match components.find? fun component => !stays component && component != ".." with
  | none => .ok .directory
  | some component => .error (missing component)

/-- Go along the components of a path from a place that holds something. -/
def follow (tree : FileTree) (place : List String) (node : FileNode) :
    List String → Except ReadFailure FileNode
  | [] => .ok node
  | component :: rest =>
    match node with
    | .file _ => .error .notDirectory
    | .directory =>
      if stays component then follow tree place node rest
      else if component = ".." ∧ place = [] then outside rest
      else
        let next := if component = ".." then place.dropLast else place ++ [component]
        match tree.node? next with
        | some found => follow tree next found rest
        | none => .error (missing component)

/-- What a path leads to. An absolute path leads out of the tree, and an empty one nowhere. -/
def locate (tree : FileTree) (path : String) : Except ReadFailure FileNode :=
  if path.toList.contains '\x00' then .error .terminatorInName
  else if longestPath < path.utf8ByteSize then .error .nameTooLong
  else
    match components path with
    | [""] => .error .notFound
    | "" :: rest => outside rest
    | components => tree.follow [] .directory components

/-- The bytes of the file at a path. -/
def read (tree : FileTree) (path : String) : Except ReadFailure ByteArray := do
  match ← tree.locate path with
  | .file bytes => .ok bytes
  | .directory => .error .isDirectory

end FileTree

end DiagnosticReplay
