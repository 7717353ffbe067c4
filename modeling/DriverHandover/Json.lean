/-!
# JSON values

The values that the API server speaks, and readers that take a value apart. A reader is a function
from values to optional results: `none` means that the value has the wrong shape.

## Main definitions

* `Json` – a value; the members of an object keep their order.
* `Json.member?`, `Json.member` – one member of an object, where the latter gives `null` for a
  missing one.
* `Json.asString?`, `Json.asList?`, `Json.optional` – readers of plain shapes.
-/

namespace DriverHandover

/-- A JSON value. A number is an integer of at most 64 bits, with a sign or without, or else a
double, of which the bits are kept. -/
inductive Json where
  | null
  | bool (b : Bool)
  | integer (n : Int)
  | double (bits : UInt64)
  | string (s : String)
  | array (items : List Json)
  | object (members : List (String × Json))
  deriving Inhabited, Repr

namespace Json

mutual
/-- Whether two values are equal. -/
def decEq : (a b : Json) → Decidable (a = b)
  | null, null => isTrue rfl
  | bool a, bool b => decidable_of_iff (a = b) (by simp)
  | integer a, integer b => decidable_of_iff (a = b) (by simp)
  | double a, double b => decidable_of_iff (a = b) (by simp)
  | string a, string b => decidable_of_iff (a = b) (by simp)
  | array a, array b =>
    match decEqItems a b with
    | isTrue h => isTrue (by rw [h])
    | isFalse h => isFalse (by simpa using h)
  | object a, object b =>
    match decEqMembers a b with
    | isTrue h => isTrue (by rw [h])
    | isFalse h => isFalse (by simpa using h)
  | null, bool _ | null, integer _ | null, double _ | null, string _ | null, array _
  | null, object _ | bool _, null | bool _, integer _ | bool _, double _ | bool _, string _
  | bool _, array _ | bool _, object _ | integer _, null | integer _, bool _
  | integer _, double _ | integer _, string _ | integer _, array _ | integer _, object _
  | double _, null | double _, bool _ | double _, integer _ | double _, string _
  | double _, array _ | double _, object _ | string _, null | string _, bool _
  | string _, integer _ | string _, double _ | string _, array _ | string _, object _
  | array _, null | array _, bool _ | array _, integer _ | array _, double _
  | array _, string _ | array _, object _ | object _, null | object _, bool _
  | object _, integer _ | object _, double _ | object _, string _ | object _, array _ =>
    isFalse nofun

/-- Whether two lists of items are equal. -/
def decEqItems : (a b : List Json) → Decidable (a = b)
  | [], [] => isTrue rfl
  | [], _ :: _ | _ :: _, [] => isFalse nofun
  | a :: as, b :: bs =>
    match decEq a b, decEqItems as bs with
    | isTrue h, isTrue hs => isTrue (by rw [h, hs])
    | isFalse h, _ => isFalse (by simp [h])
    | _, isFalse h => isFalse (by simp [h])

/-- Whether two lists of members are equal. -/
def decEqMembers : (a b : List (String × Json)) → Decidable (a = b)
  | [], [] => isTrue rfl
  | [], _ :: _ | _ :: _, [] => isFalse nofun
  | (k, a) :: as, (l, b) :: bs =>
    match decEq a b, decEqMembers as bs with
    | isTrue h, isTrue hs => decidable_of_iff (k = l) (by simp [h, hs])
    | isFalse h, _ => isFalse (by simp [h])
    | _, isFalse h => isFalse (by simp [h])
end

instance : DecidableEq Json := decEq

/-- The members of an object. -/
def members? : Json → Option (List (String × Json))
  | object members => some members
  | _ => none

/-- The member of an object under a key; of several the last one. -/
def member? (key : String) (members : List (String × Json)) : Option Json :=
  members.reverse.lookup key

/-- The member of an object under a key, where a missing one counts as `null`. -/
def member (key : String) (members : List (String × Json)) : Json :=
  (member? key members).getD null

/-- A string. -/
def asString? : Json → Option String
  | string s => some s
  | _ => none

/-- A truth value. -/
def asBool? : Json → Option Bool
  | bool b => some b
  | _ => none

/-- An integer. -/
def asInteger? : Json → Option Int
  | integer n => some n
  | _ => none

/-- The items of an array, each read. -/
def asList? (read : Json → Option α) : Json → Option (List α)
  | array items => items.mapM read
  | _ => none

/-- The members of an object, each value read. -/
def asEntries? (read : Json → Option α) : Json → Option (List (String × α))
  | object members => members.mapM fun (key, value) => (read value).map (key, ·)
  | _ => none

/-- A value that may be missing: `null` counts as missing. -/
def optional (read : Json → Option α) : Json → Option (Option α)
  | null => some none
  | value => (read value).map some

/-- A value with a default for a missing one. -/
def orElse (default : α) (read : Json → Option α) (value : Json) : Option α :=
  (optional read value).map (·.getD default)

end Json

end DriverHandover
