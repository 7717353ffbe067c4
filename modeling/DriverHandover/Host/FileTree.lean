import DriverHandover.Host.Error
import DriverHandover.Host.Path

/-!
# Trees of files

## Main definitions

* `FileTree` – files and directories in memory.
* `FileTree.find` – what is at a path, or why nothing can be.
* `FileTree.write`, `FileTree.makeDirectory`, `FileTree.remove`, `FileTree.removeAll` – changes.

## Design notes

A path that ends in a slash, or in a slash and a dot, asks for a directory. There are no links, so a
path leads to at most one thing.
-/

namespace DriverHandover

/-- What can be at a path. -/
inductive FileEntry where
  | file (bytes : List UInt8)
  | directory
  deriving DecidableEq, Repr

/-- Files and directories by path. -/
structure FileTree where
  entries : List (List PathPart × FileEntry)
  deriving DecidableEq, Repr

namespace FileTree

/-- The tree without a file. -/
def empty : FileTree := ⟨[]⟩

/-- The entry with exactly the given parts; the top is always a directory. -/
def get? (t : FileTree) (parts : List PathPart) : Option FileEntry :=
  if parts = [] ∨ parts = [.root] then some .directory else t.entries.lookup parts

/-- Whether a path asks for a directory. -/
def asksForDirectory (path : String) : Bool :=
  ['/'].isSuffixOf path.toList || ['/', '.'].isSuffixOf path.toList

/-- Walks down from the entry at `above`. -/
def walk (t : FileTree) (above : List PathPart) : List PathPart → Except IoError FileEntry
  | [] =>
    match t.get? above with
    | some entry => .ok entry
    | none => .error .notFound
  | part :: rest =>
    match t.get? above with
    | some .directory => walk t (above ++ [part]) rest
    | some (.file _) => .error .notDirectory
    | none => .error .notFound

/-- What is at a path. -/
def find (t : FileTree) (path : String) : Except IoError FileEntry :=
  match t.walk [] (Path.parts path) with
  | .ok (.file bytes) =>
    if asksForDirectory path then .error .notDirectory else .ok (.file bytes)
  | found => found

/-- The bytes of a file. -/
def read (t : FileTree) (path : String) : Except IoError (List UInt8) :=
  match t.find path with
  | .ok (.file bytes) => .ok bytes
  | .ok .directory => .error .isDirectory
  | .error e => .error e

/-- The name in a path that lies directly in a directory. -/
def child? (directory parts : List PathPart) : Option String :=
  match directory.isPrefixOf parts, parts.drop directory.length with
  | true, [.name chars] => some (String.ofList chars)
  | _, _ => none

/-- The names of the entries of a directory. -/
def list (t : FileTree) (path : String) : Except IoError (List String) :=
  match t.find path with
  | .ok .directory => .ok (t.entries.filterMap fun (parts, _) => child? (Path.parts path) parts)
  | .ok (.file _) => .error .notDirectory
  | .error e => .error e

/-- Puts an entry at a place, instead of what is there. -/
def put (t : FileTree) (parts : List PathPart) (entry : FileEntry) : FileTree :=
  ⟨(parts, entry) :: t.entries.filter (·.1 != parts)⟩

/-- Makes the directories on the way to a place. -/
def makeWay (t : FileTree) (above : List PathPart) : List PathPart → FileTree
  | [] => t
  | part :: rest =>
    let here := above ++ [part]
    match t.get? here with
    | some _ => makeWay t here rest
    | none => makeWay (t.put here .directory) here rest

/-- Makes a directory, with those on the way. -/
def makeDirectory (t : FileTree) (path : String) : FileTree :=
  t.makeWay [] (Path.parts path)

/-- Writes a file, with the directories on the way. -/
def write (t : FileTree) (path : String) (bytes : List UInt8) : FileTree :=
  (t.makeWay [] (Path.parts path).dropLast).put (Path.parts path) (.file bytes)

/-- Removes a file. -/
def remove (t : FileTree) (path : String) : Except IoError FileTree :=
  match t.find path with
  | .ok (.file _) => .ok ⟨t.entries.filter (·.1 != Path.parts path)⟩
  | .ok .directory => .error .isDirectory
  | .error e => .error e

/-- Removes all that is at a path or below. -/
def removeAll (t : FileTree) (path : String) : FileTree :=
  ⟨t.entries.filter fun (parts, _) => !(Path.parts path).isPrefixOf parts⟩

end FileTree

end DriverHandover
