import FederationTrust.Text.Blank

/-!
# File paths

A path is kept as it is written, since messages name it so. Its components are what it
means: repeated slashes, points in the middle and a slash at the end do not count, a point
at the beginning does. Two paths are the same if their components are.
-/

namespace FederationTrust

structure Path where
  text : String
  deriving DecidableEq, Repr, Inhabited

namespace Path

inductive Component where
  | root
  | current
  | parent
  | name (s : String)
  deriving DecidableEq, Repr, Inhabited

/-- The component between two slashes, if it counts. -/
def Component.ofPiece? (piece : List Char) : Option Component :=
  if piece = [] ∨ piece = ['.'] then none
  else if piece = ['.', '.'] then some .parent
  else some (.name (String.ofList piece))

def pieces (p : Path) : List (List Char) :=
  Text.splitAt '/' p.text.toList

/-- The component at the beginning that is no piece of its own: the root, or a leading point. -/
def start : List (List Char) → List Component
  | [] :: _ :: _ => [.root]
  | ['.'] :: _ => [.current]
  | _ => []

def components (p : Path) : List Component :=
  start p.pieces ++ p.pieces.filterMap Component.ofPiece?

def same (a b : Path) : Bool :=
  a.components == b.components

/-- The last component, if it is a name. -/
def fileName? (p : Path) : Option String :=
  match p.components.getLast? with
  | some (.name s) => some s
  | _ => none

/-- The components before the last one, if that is a name. -/
def parentComponents (p : Path) : List Component :=
  if p.fileName?.isSome then p.components.dropLast else p.components

/-- The pieces without the last ones, as long as these do not count. -/
def settle : List (List Char) → List (List Char)
  | [] => []
  | piece :: rest =>
    if settle rest = [] ∧ Component.ofPiece? piece = none then [] else piece :: settle rest

/-- The pieces that stay in front of another name, as they are written. If the path ends in a
name, it goes with whatever does not count around it, but the beginning stays; else only an empty
piece at the end gives way. -/
def parentPieces (p : Path) : List (List Char) :=
  if p.fileName?.isSome then
    let width := (start p.pieces).length
    p.pieces.take width ++ settle (settle (p.pieces.drop width)).dropLast
  else if p.pieces.getLast? = some [] then p.pieces.dropLast
  else p.pieces

/-- The path beside this one under another name; below it, if it ends in no name. -/
def withFileName (p : Path) (name : String) : Path :=
  ⟨"/".intercalate ((p.parentPieces ++ [name.toList]).map String.ofList)⟩

/-- The file that a process writes before it replaces the file at this path. -/
def temporarySibling (p : Path) (processId : Nat) : Path :=
  p.withFileName (p.fileName?.getD "fedmeta" ++ "." ++ toString processId ++ ".tmp")

end Path

end FederationTrust
