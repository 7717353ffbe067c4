import DriverHandover.Json.Record
import Mathlib.Data.List.Forall2

/-!
# Records and their members

An object fills a record member by member. A member that the record has no field for is passed over,
so it can be put in anywhere, also in the records that the fields of a record hold.

## Main definitions

* `Json.Widens` – a value with more members in its objects, where a record has no field for them.
* `Json.Draft.Ignores` – a reader to which it makes no difference that a value is widened.

## Main statements

* `Json.Draft.record_ofJson`, `Json.Draft.readMembers_cons` – an object fills a record.
* `Json.Draft.Ignores.record` – a record ignores the members that it has no field for, and those
  that its fields ignore.
-/

namespace DriverHandover.Json

/-- How a value may be changed. -/
abbrev Change := Json → Json → Prop

/-- The changes of items, each item by the change for its place. -/
inductive ItemsWiden : List Change → List Json → List Json → Prop
  | nil (inner : List Change) : ItemsWiden inner [] []
  | cons {change : Change} {inner : List Change} {v v' : Json} {items items' : List Json} :
    change v v' → ItemsWiden inner items items' →
      ItemsWiden (change :: inner) (v :: items) (v' :: items')

/-- The changes of members: one is put in that no field has the name of, one is kept, or the value
of a field is changed by the change for the field. -/
inductive MembersWiden (inner : List (String × Change)) :
    List (String × Json) → List (String × Json) → Prop
  | nil : MembersWiden inner [] []
  | unknown {key : String} {value : Json} {members members' : List (String × Json)} :
    inner.lookup key = none → MembersWiden inner members members' →
      MembersWiden inner members ((key, value) :: members')
  | keep {key : String} {value : Json} {members members' : List (String × Json)} :
    MembersWiden inner members members' →
      MembersWiden inner ((key, value) :: members) ((key, value) :: members')
  | inside {key : String} {v v' : Json} {change : Change}
      {members members' : List (String × Json)} :
    inner.lookup key = some change → change v v' → MembersWiden inner members members' →
      MembersWiden inner ((key, v) :: members) ((key, v') :: members')

/-- `Widens inner v v'` holds if `v'` is `v` with more members than a record has fields for, and
with the values of the fields changed as `inner` says. -/
inductive Widens (inner : List (String × Change)) : Change
  | same (v : Json) : Widens inner v v
  | object {members members' : List (String × Json)} :
    MembersWiden inner members members' → Widens inner (.object members) (.object members')
  | array {items items' : List Json} :
    ItemsWiden (inner.map (·.2)) items items' → Widens inner (.array items) (.array items')

/-- The changes of the items of an array. -/
inductive EachWidens (change : Change) : Change
  | same (v : Json) : EachWidens change v v
  | items {items items' : List Json} :
    List.Forall₂ change items items' → EachWidens change (.array items) (.array items')

/-- The fields of a record, none of which is changed. -/
def unchanged {α : Type} (fields : List (Field α)) : List (String × Change) :=
  fields.map fun field => (field.name, Eq)

namespace Draft

variable {α β : Type} {read : Draft → JsonReading α} {write : α → Json} {change : Change}
variable {fields : List (Field α)} {field : Field α} {repeats : Repeats} {start a b : α}
variable {key : String} {names : List String} {v : Json} {rest : List (Option String × Draft)}
variable {members members' : List (String × Json)} {items items' : List Json}
variable {inner : List (String × Change)}

mutual

/-- Whatever is written whole can be passed over. -/
theorem skip_ofJson (v : Json) : skip (ofJson v) = .ok () := by
  match v with
  | .null | .bool _ | .integer _ | .double _ | .string _ => rfl
  | .array items =>
    rw [ofJson, skip, skipItems_ofItems items]
    rfl
  | .object members =>
    rw [ofJson, skip, skipMembers_ofMembers members]
    rfl

theorem skipItems_ofItems (items : List Json) : skipItems (ofItems items) = .ok () := by
  match items with
  | [] => rfl
  | item :: rest =>
    rw [ofItems, skipItems, skip_ofJson item, skipItems_ofItems rest]
    rfl

theorem skipMembers_ofMembers (members : List (String × Json)) :
    skipMembers (ofMembers members) = .ok () := by
  match members with
  | [] => rfl
  | (key, value) :: rest =>
    rw [ofMembers, skipMembers, skip_ofJson value, skipMembers_ofMembers rest]
    rfl

end

theorem ofItems_eq_map (items : List Json) : ofItems items = items.map ofJson := by
  induction items with
  | nil => rfl
  | cons item items ih => rw [ofItems, ih, List.map_cons]

/-- A member is read into its field, if the record has one for it. -/
theorem readMembers_ofJson (fields : List (Field α)) (repeats : Repeats) (a : α)
    (names : List String) (key : String) (v : Json) (rest : List (Option String × Draft)) :
    readMembers fields repeats a names ((some key, ofJson v) :: rest) =
      match fields.find? (·.name == key) with
      | none => readMembers fields repeats a names rest
      | some field =>
        if repeats = .refused ∧ names.contains key then .error .malformed
        else field.read a (ofJson v) >>= fun b =>
          readMembers fields repeats b (key :: names) rest := by
  rw [readMembers, skip_ofJson]
  rfl

theorem readMembers_cons (hfield : fields.find? (·.name == key) = some field)
    (hkey : names.contains key = false) (hread : field.read a (ofJson v) = .ok b) :
    readMembers fields repeats a names ((some key, ofJson v) :: rest) =
      readMembers fields repeats b (key :: names) rest := by
  rw [readMembers_ofJson, hfield]
  dsimp only
  rw [if_neg (by rw [hkey]; exact fun h => Bool.false_ne_true h.2), hread]
  rfl

theorem given_read {set : β → α → β} (name : String) (b : β) (hread : read (ofJson v) = .ok a) :
    (Field.given name read set).read b (ofJson v) = .ok (set b a) := by
  rw [Field.given]
  dsimp only
  rw [hread]
  rfl

theorem optional_ofJson (hread : read (ofJson v) = .ok a) (hv : v ≠ .null) :
    optional read (ofJson v) = .ok (some a) := by
  cases v with
  | null => exact absurd rfl hv
  | _ => exact congrArg (· >>= fun a => pure (some a)) hread

/-- An object fills a record if its members do, and no required field is left. -/
theorem record_ofJson
    (hmembers : readMembers fields .refused start [] (ofMembers members) = .ok (a, names))
    (hnames : (fields.all fun field => !field.isRequired || names.contains field.name) = true) :
    record fields start (ofJson (.object members)) = .ok a := by
  rw [ofJson, record, readObject, hmembers]
  exact if_pos hnames

/-- The items of a list are read back if each of them is. -/
theorem list_ofList (h : ∀ a, read (ofJson (write a)) = .ok a) (written : List α) :
    list read (ofJson (.array (written.map write))) = .ok written := by
  have hitems : (ofItems (written.map write)).mapM read = .ok written := by
    rw [ofItems_eq_map, List.map_map, List.mapM_map]
    induction written with
    | nil => rfl
    | cons a written ih =>
      rw [List.mapM_cons, Function.comp_apply, Function.comp_apply, h, ih]
      rfl
  rw [ofJson, list, hitems]
  rfl

/-- A reader to which it makes no difference that a value is changed. -/
def Ignores (read : Draft → JsonReading α) (change : Change) : Prop :=
  ∀ v v', change v v' → read (ofJson v') = read (ofJson v)

theorem ignores_eq (read : Draft → JsonReading α) : Ignores read Eq := by
  rintro v _ rfl
  rfl

/-- The fields of a record ignore the changes of their values. -/
def FieldsIgnore (fields : List (Field α)) (inner : List (String × Change)) : Prop :=
  List.Forall₂ (fun field e => field.name = e.1 ∧ ∀ a, Ignores (field.read a) e.2) fields inner

theorem fieldsIgnore_unchanged (fields : List (Field α)) :
    FieldsIgnore fields (unchanged fields) := by
  rw [FieldsIgnore, unchanged, List.forall₂_map_right_iff]
  exact List.forall₂_same.2 fun field _ => ⟨rfl, fun a => ignores_eq _⟩

theorem Ignores.given {set : β → α → β} (h : Ignores read change) (name : String) (b : β) :
    Ignores ((Field.given name read set).read b) change := by
  intro v v' hchange
  rw [Field.given]
  dsimp only
  rw [h v v' hchange]

theorem Ignores.optional (h : Ignores read (Widens inner)) :
    Ignores (optional read) (Widens inner) := by
  intro v v' hwiden
  cases hwiden with
  | same => rfl
  | object hmembers => exact congrArg (· >>= fun a => pure (some a)) (h _ _ (.object hmembers))
  | array hitems => exact congrArg (· >>= fun a => pure (some a)) (h _ _ (.array hitems))

theorem Ignores.list (h : Ignores read change) : Ignores (list read) (EachWidens change) := by
  intro v v' hwiden
  cases hwiden with
  | same => rfl
  | @items items items' hitems =>
    have hread : (ofItems items').mapM read = (ofItems items).mapM read := by
      induction hitems with
      | nil => rfl
      | cons hchange _ ih =>
        rw [ofItems, ofItems, List.mapM_cons, List.mapM_cons, h _ _ hchange, ih]
    rw [ofJson, ofJson, Draft.list, Draft.list, hread]

theorem FieldsIgnore.find? (h : FieldsIgnore fields inner) (key : String) :
    (inner.lookup key = none → fields.find? (·.name == key) = none) ∧
      ∀ change, inner.lookup key = some change →
        ∃ field, fields.find? (·.name == key) = some field ∧
          ∀ a, Ignores (field.read a) change := by
  induction h with
  | nil => exact ⟨fun _ => rfl, nofun⟩
  | @cons field e fields inner hfield _ ih =>
    obtain ⟨name, change⟩ := e
    obtain ⟨rfl, hread⟩ := hfield
    rw [List.lookup_cons, List.find?_cons]
    by_cases hkey : field.name = key
    · have hsame : (key == field.name) = true := beq_iff_eq.2 hkey.symm
      have hsame' : (field.name == key) = true := beq_iff_eq.2 hkey
      rw [hsame, hsame']
      refine ⟨nofun, fun found hfound => ⟨field, rfl, ?_⟩⟩
      rwa [← Option.some.inj hfound]
    · have hother : (key == field.name) = false := beq_false_of_ne (Ne.symm hkey)
      have hother' : (field.name == key) = false := beq_false_of_ne hkey
      rw [hother, hother']
      exact ih

/-- A record ignores the members that it has no field for. -/
theorem FieldsIgnore.readMembers (h : FieldsIgnore fields inner)
    (hmembers : MembersWiden inner members members') (repeats : Repeats) (a : α)
    (names : List String) :
    readMembers fields repeats a names (ofMembers members') =
      readMembers fields repeats a names (ofMembers members) := by
  induction hmembers generalizing a names with
  | nil => rfl
  | unknown hkey _ ih =>
    rw [ofMembers, readMembers_ofJson, (h.find? _).1 hkey]
    exact ih a names
  | keep _ ih =>
    rw [ofMembers, ofMembers, readMembers_ofJson, readMembers_ofJson]
    simp only [ih]
  | inside hkey hchange _ ih =>
    obtain ⟨field, hfind, hread⟩ := (h.find? _).2 _ hkey
    rw [ofMembers, ofMembers, readMembers_ofJson, readMembers_ofJson, hfind]
    simp only [hread a _ _ hchange, ih]

theorem FieldsIgnore.readItems (h : FieldsIgnore fields inner)
    (hitems : ItemsWiden (inner.map (·.2)) items items') (a : α) :
    readItems a fields (ofItems items') none = readItems a fields (ofItems items) none := by
  induction h generalizing items items' a with
  | nil =>
    cases hitems
    rfl
  | cons hfield _ ih =>
    cases hitems with
    | nil => rfl
    | cons hchange hrest =>
      rw [ofItems, ofItems, Draft.readItems, Draft.readItems, hfield.2 a _ _ hchange]
      simp only [ih hrest]

/-- A record ignores the members that it has no field for, and what its fields ignore. -/
theorem FieldsIgnore.record (h : FieldsIgnore fields inner) (start : α) :
    Ignores (record fields start) (Widens inner) := by
  intro v v' hwiden
  cases hwiden with
  | same => rfl
  | object hmembers =>
    rw [ofJson, ofJson, Draft.record, Draft.record, readObject, readObject,
      h.readMembers hmembers]
  | array hitems =>
    rw [ofJson, ofJson, Draft.record, Draft.record, h.readItems hitems]

/-- An entry ignores the same, but is never an array. -/
theorem FieldsIgnore.entry (h : FieldsIgnore fields inner) (start : α) :
    Ignores (entry fields start) (Widens inner) := by
  intro v v' hwiden
  cases hwiden with
  | same => rfl
  | object hmembers =>
    rw [ofJson, ofJson, Draft.entry, Draft.entry, readObject, readObject, h.readMembers hmembers]
  | array hitems => rfl

end Draft

end DriverHandover.Json
