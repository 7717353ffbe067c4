import DriverHandover.Json.Record
import DriverHandover.Metadata

/-!
# Metadata in JSON

Each field may be missing or `null`. Reading passes over other members; of several values of one
field each has to have the right type, and the last one counts.

## Main definitions

* `Metadata.read` – reads metadata.
* `Metadata.toJson` – the value that describes metadata.
* `Json.normal` – the normal form of a value: of equal members the last one, ordered by their keys.
-/

namespace DriverHandover

namespace Json

/-- Puts a member into ordered members, in place of an older one. -/
def putMember (key : String) (value : Json) : List (String × Json) → List (String × Json)
  | [] => [(key, value)]
  | (k, v) :: rest =>
    if key < k then (key, value) :: (k, v) :: rest
    else if key = k then (key, value) :: rest
    else (k, v) :: putMember key value rest

mutual

/-- The normal form of a value. -/
def normal : Json → Json
  | array items => array (normalItems items)
  | object members => object (normalMembers [] members)
  | value => value

/-- The normal forms of items. -/
def normalItems : List Json → List Json
  | [] => []
  | item :: rest => normal item :: normalItems rest

/-- Puts the normal forms of members into ordered members. -/
def normalMembers (done : List (String × Json)) : List (String × Json) → List (String × Json)
  | [] => done
  | (key, value) :: rest => normalMembers (putMember key (normal value) done) rest

end

namespace Draft

/-- A signed integer of 64 bits. -/
def asInt64 : Draft → JsonReading Int :=
  asInteger (-0x8000000000000000) 0x8000000000000000

/-- A map of strings. -/
def asTexts (draft : Draft) : JsonReading LabelMap := do
  return LabelMap.ofList (← entries asString draft)

/-- A timestamp. -/
def asTimestamp (draft : Draft) : JsonReading Timestamp := do
  match Timestamp.ofText? (← asString draft) with
  | some t => return t
  | none => .error .malformed

end Draft

/-- The member of an object for a value that may be missing. -/
def memberOf (key : String) (write : α → Json) (value : Option α) : List (String × Json) :=
  (value.map fun a => (key, write a)).toList

/-- The object of a map of strings. -/
def ofTexts (m : LabelMap) : Json :=
  .object (m.entries.map fun (key, value) => (key, .string value))

/-- The array of items. -/
def ofList (write : α → Json) (items : List α) : Json :=
  .array (items.map write)

/-- The string of a timestamp. -/
def ofTimestamp (t : Timestamp) : Json := .string t.text

end Json

open Json.Draft (optional asString asBool asInt64 asTexts asTimestamp list entry whole)

/-- A field of text, empty if it is missing. -/
def Json.Field.textOrEmpty (name : String) (set : α → String → α) : Json.Field α :=
  .given name (Draft.optional Draft.asString) fun a text => set a (text.getD "")

namespace OwnerReference

/-- The fields of an owner reference. -/
def fields : List (Json.Field OwnerReference) := [
  .textOrEmpty "apiVersion" fun o v => { o with apiVersion := v },
  .given "blockOwnerDeletion" (optional asBool) fun o v => { o with blockOwnerDeletion := v },
  .given "controller" (optional asBool) fun o v => { o with controller := v },
  .textOrEmpty "kind" fun o v => { o with kind := v },
  .textOrEmpty "name" fun o v => { o with name := v },
  .textOrEmpty "uid" fun o v => { o with uid := v }]

/-- Reads an owner reference. -/
def read : Json.Draft → JsonReading OwnerReference :=
  entry fields empty

/-- The value that describes an owner reference. -/
def toJson (o : OwnerReference) : Json :=
  .object (("apiVersion", .string o.apiVersion) ::
    Json.memberOf "blockOwnerDeletion" Json.bool o.blockOwnerDeletion ++
    Json.memberOf "controller" Json.bool o.controller ++
    [("kind", .string o.kind), ("name", .string o.name), ("uid", .string o.uid)])

end OwnerReference

namespace ManagedFields

/-- Reads managed fields: any value but `null`. -/
def readFields (draft : Json.Draft) : JsonReading Json := do
  return (← whole draft).normal

/-- The fields of what is said about a manager. -/
def fieldList : List (Json.Field ManagedFields) := [
  .given "apiVersion" (optional asString) fun m v => { m with apiVersion := v },
  .given "fieldsType" (optional asString) fun m v => { m with fieldsType := v },
  .given "fieldsV1" (optional readFields) fun m v => { m with fields := v },
  .given "manager" (optional asString) fun m v => { m with manager := v },
  .given "operation" (optional asString) fun m v => { m with operation := v },
  .given "subresource" (optional asString) fun m v => { m with subresource := v },
  .given "time" (optional asTimestamp) fun m v => { m with time := v }]

/-- Reads what is said about a manager. -/
def read : Json.Draft → JsonReading ManagedFields :=
  entry fieldList empty

/-- The value that describes a manager. -/
def toJson (m : ManagedFields) : Json :=
  .object (Json.memberOf "apiVersion" Json.string m.apiVersion ++
    Json.memberOf "fieldsType" Json.string m.fieldsType ++ Json.memberOf "fieldsV1" id m.fields ++
    Json.memberOf "manager" Json.string m.manager ++
    Json.memberOf "operation" Json.string m.operation ++
    Json.memberOf "subresource" Json.string m.subresource ++
    Json.memberOf "time" Json.ofTimestamp m.time)

end ManagedFields

namespace Metadata

/-- The fields of metadata. -/
def fields : List (Json.Field Metadata) := [
  .given "annotations" (optional asTexts) fun m v => { m with annotations := v },
  .given "creationTimestamp" (optional asTimestamp) fun m v => { m with creationTimestamp := v },
  .given "deletionGracePeriodSeconds" (optional asInt64) fun m v =>
    { m with deletionGraceSeconds := v },
  .given "deletionTimestamp" (optional asTimestamp) fun m v => { m with deletionTimestamp := v },
  .given "finalizers" (optional (list asString)) fun m v => { m with finalizers := v },
  .given "generateName" (optional asString) fun m v => { m with generateName := v },
  .given "generation" (optional asInt64) fun m v => { m with generation := v },
  .given "labels" (optional asTexts) fun m v => { m with labels := v },
  .given "managedFields" (optional (list ManagedFields.read)) fun m v =>
    { m with managedFields := v },
  .given "name" (optional asString) fun m v => { m with name := v },
  .given "namespace" (optional asString) fun m v => { m with objectNamespace := v },
  .given "ownerReferences" (optional (list OwnerReference.read)) fun m v => { m with owners := v },
  .given "resourceVersion" (optional asString) fun m v => { m with resourceVersion := v },
  .given "selfLink" (optional asString) fun m v => { m with selfLink := v },
  .given "uid" (optional asString) fun m v => { m with uid := v }]

/-- Reads metadata. -/
def read : Json.Draft → JsonReading Metadata :=
  entry fields empty

/-- The value that describes metadata. -/
def toJson (m : Metadata) : Json :=
  .object (Json.memberOf "annotations" Json.ofTexts m.annotations ++
    Json.memberOf "creationTimestamp" Json.ofTimestamp m.creationTimestamp ++
    Json.memberOf "deletionGracePeriodSeconds" Json.integer m.deletionGraceSeconds ++
    Json.memberOf "deletionTimestamp" Json.ofTimestamp m.deletionTimestamp ++
    Json.memberOf "finalizers" (Json.ofList Json.string) m.finalizers ++
    Json.memberOf "generateName" Json.string m.generateName ++
    Json.memberOf "generation" Json.integer m.generation ++
    Json.memberOf "labels" Json.ofTexts m.labels ++
    Json.memberOf "managedFields" (Json.ofList ManagedFields.toJson) m.managedFields ++
    Json.memberOf "name" Json.string m.name ++
    Json.memberOf "namespace" Json.string m.objectNamespace ++
    Json.memberOf "ownerReferences" (Json.ofList OwnerReference.toJson) m.owners ++
    Json.memberOf "resourceVersion" Json.string m.resourceVersion ++
    Json.memberOf "selfLink" Json.string m.selfLink ++
    Json.memberOf "uid" Json.string m.uid)

end Metadata

end DriverHandover
