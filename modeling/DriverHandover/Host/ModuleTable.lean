import DriverHandover.Text.Blank
import DriverHandover.Text.Number

/-!
# The table of kernel modules

The kernel lists its modules one a line: the name, the size in bytes, the number of references, the
modules that depend on it, and more. Lines with fewer than four fields are passed over; a line whose
size or reference count is no number is reported.

## Main definitions

* `ModuleRow` – one row of the table.
* `ModuleTable.rows`, `ModuleTable.warnings` – the rows of the lines that hold a filter text, and
  the warnings about malformed ones.
* `ModuleTable.header`, `ModuleRow.line` – the table as it is logged.
-/

namespace DriverHandover

/-- A row of the table of kernel modules. -/
structure ModuleRow where
  name : String
  size : Nat
  refcount : Nat
  usedBy : String
  deriving DecidableEq, Repr

/-- What one line of the table says. -/
inductive ModuleLine where
  | row (r : ModuleRow)
  | malformed (line : String)
  | short
  deriving DecidableEq, Repr

namespace ModuleTable

/-- Reads one line. -/
def readLine (line : List Char) : ModuleLine :=
  match Text.fields line with
  | name :: size :: refcount :: usedBy :: _ =>
    match Number.readUInt64 size, Number.readUInt32 refcount with
    | .ok s, .ok r => .row ⟨String.ofList name, s, r, String.ofList usedBy⟩
    | _, _ => .malformed (String.ofList line)
  | _ => .short

/-- Reads the lines that hold `filter`. -/
def readLines (filter content : List Char) : List ModuleLine :=
  ((Text.lines content).filter (Text.occurs filter)).map readLine

/-- The rows among the lines that hold `filter`. -/
def rows (filter content : List Char) : List ModuleRow :=
  (readLines filter content).filterMap fun
    | .row r => some r
    | _ => none

/-- The warnings about malformed lines among those that hold `filter`. -/
def warnings (filter content : List Char) : List String :=
  (readLines filter content).filterMap fun
    | .malformed line => some s!"skipping malformed module entry: {line}"
    | _ => none

/-- The four columns of one line of the logged table. -/
def columns (name size refcount usedBy : String) : String :=
  Text.join " " [Text.padRight 20 name, Text.padRight 10 size, Text.padRight 15 refcount, usedBy]

/-- The first line of the logged table. -/
def header : String :=
  columns "Module" "Size" "Ref Count" "Used by"

end ModuleTable

/-- A row in the logged table. -/
def ModuleRow.line (r : ModuleRow) : String :=
  ModuleTable.columns r.name (toString r.size) (toString r.refcount) r.usedBy

end DriverHandover
