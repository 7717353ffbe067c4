import DriverHandover.Text.Blank

/-!
# Paths

A path is compared by its components: repeated slashes, a trailing slash and the component `.`
inside a path do not count, while `..` is a component like any other.

## Main definitions

* `Path.parts` – the components of a path.
* `Path.same`, `Path.isBelow` – equality and containment by component.
* `Path.join` – a path below a directory.
-/

namespace DriverHandover

/-- A component of a path. -/
inductive PathPart where
  /-- The slash that a path starts with. -/
  | root
  /-- The component `.` that a path starts with. -/
  | here
  | name (chars : List Char)
  deriving DecidableEq, Repr

namespace Path

/-- Whether a piece between slashes names something. -/
def isName (segment : List Char) : Bool :=
  !segment.isEmpty && segment != ['.']

/-- The components of a path. -/
def parts (path : String) : List PathPart :=
  let pieces := Text.pieces '/' path.toList
  let start :=
    match pieces with
    | [] :: _ :: _ => [PathPart.root]
    | ['.'] :: _ => [PathPart.here]
    | _ => []
  start ++ (pieces.filter isName).map PathPart.name

/-- Whether two paths have the same components. -/
def same (a b : String) : Bool :=
  parts a == parts b

/-- Whether a path is `root` or lies below it. -/
def isBelow (root path : String) : Bool :=
  (parts root).isPrefixOf (parts path)

/-- How deep a path is. -/
def depth (path : String) : Nat :=
  (parts path).length

/-- The path of `name` in a directory. A name that starts with a slash stands for itself. -/
def join (directory name : String) : String :=
  if name.toList.head? = some '/' then name
  else if directory = "" ∨ directory.toList.getLast? = some '/' then directory ++ name
  else directory ++ "/" ++ name

end Path

end DriverHandover
