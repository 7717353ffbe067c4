import DriverHandover.Yaml.Value

/-!
# Records in YAML

A value describes a record as a mapping from the names of its fields; other entries do not count,
but all keys are text. Where a mapping or a sequence is asked for, no value counts as an empty one.
Tags do not count.

## Main definitions

* `Yaml.Value.text?`, `Yaml.Value.list?`, `Yaml.Value.fields?` – readers of plain shapes.
* `Yaml.Value.required?`, `Yaml.Value.given?` – readers of a field of a record.
-/

namespace DriverHandover.Yaml.Value

/-- A value without its tags. -/
def untagged : Value → Value
  | tagged _ value => untagged value
  | value => value

/-- A text. -/
def text? (v : Value) : Option String :=
  match v.untagged with
  | scalar (.string s) => some s
  | _ => none

/-- A truth value. -/
def flag? (v : Value) : Option Bool :=
  match v.untagged with
  | scalar (.bool b) => some b
  | _ => none

/-- The items of a sequence, each read. -/
def list? (read : Value → Option α) (v : Value) : Option (List α) :=
  match v.untagged with
  | sequence items => items.mapM read
  | scalar .null => some []
  | _ => none

/-- The entries of a mapping from texts. -/
def fields? (v : Value) : Option (List (String × Value)) :=
  match v.untagged with
  | mapping entries => entries.mapM fun (key, value) => key.text?.map (·, value)
  | scalar .null => some []
  | _ => none

/-- The entries of a mapping from texts to texts. -/
def texts? (v : Value) : Option (List (String × String)) := do
  (← v.fields?).mapM fun (key, value) => value.text?.map (key, ·)

/-- The value of a field that has to be there. -/
def required? (read : Value → Option α) (name : String) (fields : List (String × Value)) :
    Option α :=
  match fields.filter (·.1 == name) with
  | [(_, value)] => read value
  | _ => none

/-- The value of a field that may be missing or without a value. -/
def given? (read : Value → Option α) (name : String) (fields : List (String × Value)) :
    Option (Option α) :=
  match fields.filter (·.1 == name) with
  | [] | [(_, scalar .null)] => some none
  | [(_, value)] => (read value).map some
  | _ => none

/-- The items in a field, none if it is missing or without a value. -/
def items? (read : Value → Option α) (name : String) (fields : List (String × Value)) :
    Option (List α) :=
  (given? (list? read) name fields).map (·.getD [])

mutual

/-- Whether a value could be written in JSON: all keys are text, and there are no tags. -/
def isPlainData : Value → Bool
  | scalar _ => true
  | sequence items => arePlainItems items
  | mapping entries => arePlainEntries entries
  | tagged _ _ => false

/-- Whether items could be written in JSON. -/
def arePlainItems : List Value → Bool
  | [] => true
  | item :: rest => isPlainData item && arePlainItems rest

/-- Whether entries could be written in JSON. -/
def arePlainEntries : List (Value × Value) → Bool
  | [] => true
  | (key, value) :: rest => key.text?.isSome && isPlainData value && arePlainEntries rest

end

/-- Any value that could be written in JSON. -/
def plainData? (v : Value) : Option Unit :=
  if v.isPlainData then some () else none

end DriverHandover.Yaml.Value
