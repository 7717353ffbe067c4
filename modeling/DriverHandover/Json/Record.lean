import DriverHandover.Json.Draft

/-!
# Records in JSON

A record has fields, each with a name and a type. A value describes a record in one of two ways: as
an object whose members are the fields, in any order and among other members, or as an array of the
values of the fields in their own order. An entry of the API has fields too, but is always an
object.

## Main definitions

* `Json.Field` – a field of a record, and how it is read into the record.
* `Json.Draft.record` – reads a record, where no field may be repeated.
* `Json.Draft.entry` – reads an entry of the API, where the last value of a field counts.
-/

namespace DriverHandover.Json

/-- A field of a record of type `α`. -/
structure Field (α : Type) where
  name : String
  /-- Whether a record has to have it. -/
  isRequired : Bool
  /-- Reads the value of the field into a record. -/
  read : α → Draft → JsonReading α

namespace Field

/-- A field that a record may lack. -/
def given (name : String) (read : Draft → JsonReading β) (set : α → β → α) : Field α :=
  ⟨name, false, fun a value => do return set a (← read value)⟩

/-- A field that a record has to have. -/
def required (name : String) (read : Draft → JsonReading β) (set : α → β → α) : Field α :=
  { given name read set with isRequired := true }

end Field

namespace Draft

/-- Whether a field may stand a second time in an object. -/
inductive Repeats where
  | refused
  | allowed
  deriving DecidableEq, Repr

/-- Reads the members of an object into a record, and returns the names of the fields with it. Other
members are passed over. -/
def readMembers (fields : List (Field α)) (repeats : Repeats) (a : α) (names : List String) :
    List (Option String × Draft) → JsonReading (α × List String)
  | [] => .ok (a, names)
  | (key, value) :: rest => do
    let key ← readKey key
    match fields.find? (·.name == key) with
    | none =>
      value.skip
      readMembers fields repeats a names rest
    | some field =>
      if repeats = .refused ∧ names.contains key then .error .malformed
      else readMembers fields repeats (← field.read a value) (key :: names) rest

/-- Reads the items of an array into a record. There may be fewer items than fields, but not more,
and a record has to have none of the fields that are left. -/
def readItems (a : α) : List (Field α) → List Draft → Option JsonFault → JsonReading α
  | field :: fields, item :: items, stop => do readItems (← field.read a item) fields items stop
  | fields, [], stop => do
    close JsonFault.whenRead stop
    if fields.any (·.isRequired) then .error .malformed else .ok a
  | [], _ :: _, _ => .error .malformed

/-- Reads the members of an object into a record that lacks no required field. -/
def readObject (fields : List (Field α)) (repeats : Repeats) (start : α)
    (members : List (Option String × Draft)) (stop : Option JsonFault) : JsonReading α := do
  let (a, names) ← readMembers fields repeats start [] members
  close JsonFault.whenRead stop
  if fields.all fun field => !field.isRequired || names.contains field.name then .ok a
  else .error .malformed

/-- Reads a record with the given fields; `start` is the one without any. -/
def record (fields : List (Field α)) (start : α) : Draft → JsonReading α
  | object members stop => readObject fields .refused start members stop
  | array items stop => readItems start fields items stop
  | draft => .error draft.mistyped

/-- Reads an entry of the API with the given fields; `start` is the one without any. -/
def entry (fields : List (Field α)) (start : α) : Draft → JsonReading α
  | object members stop => readObject fields .allowed start members stop
  | draft => .error draft.mistyped

end Draft

end DriverHandover.Json
