import DriverHandover.Claim.Coding
import DriverHandover.Claim.Known
import DriverHandover.Json.Text

/-!
# The lines of a watch stream

The API server writes one JSON value a line: the type of an event, and the object that it is about.
A line that breaks off says nothing, and neither does a bookmark; a line that cannot be read, an
error, and a claim without a version end the watch.

## Main definitions

* `EventType` – the types of events.
* `StreamItem` – what a line of the stream means.
* `StreamItem.read` – reads an event.
* `StreamItem.ofLine`, `StreamItem.ofLines` – reading a line, and a text of several lines.

## Design notes

As soon as the type of an event is read, the object can be read for what it has to be. If the object
comes first, all of it is kept until then, so that nothing in it is passed over.
-/

namespace DriverHandover

/-- The types of events. -/
inductive EventType where
  | added
  | modified
  | deleted
  | bookmark
  | error
  deriving DecidableEq, Repr

namespace EventType

/-- All types. -/
def all : List EventType := [added, modified, deleted, bookmark, error]

/-- The name of a type. -/
def name : EventType → String
  | added => "ADDED"
  | modified => "MODIFIED"
  | deleted => "DELETED"
  | bookmark => "BOOKMARK"
  | error => "ERROR"

/-- The type of a name. -/
def ofName (name : String) : JsonReading EventType :=
  match all.find? (·.name == name) with
  | some type => .ok type
  | none => .error .malformed

/-- Reads a type: its name, or an object with `null` under its name. -/
def read : Json.Draft → JsonReading EventType
  | .string name => ofName name
  | .object ((key, value) :: rest) stop => do
    let type ← ofName (← Json.Draft.readKey key)
    match value, rest, stop with
    | .null, [], none => return type
    | .null, [], some .ended => .error .truncated
    | .null, _, _ => .error .malformed
    | value, _, _ => .error value.mistyped
  | .object [] (some f) => .error f.whenRead
  | .fault f => .error f.whenNamed
  | _ => .error .malformed

end EventType

/-- What a line of a watch stream means. -/
inductive StreamItem where
  | event (e : WatchEvent)
  /-- Nothing that matters. -/
  | silence
  /-- The end of the watch. -/
  | broken
  deriving DecidableEq, Repr

namespace StreamItem

open Json.Draft (asString asTexts asInteger record whole skip readKey close)

/-- The event about a claim, which has to have a version. -/
def ofClaim (event : Claim → WatchEvent) (claim : Claim) : StreamItem :=
  if claim.metadata.resourceVersion.getD "" = "" then broken else .event (event claim)

/-- Reads the metadata of a bookmark. -/
def readBookmarkMetadata : Json.Draft → JsonReading Unit :=
  record [.required "resourceVersion" asString fun _ _ => (),
    .given "annotations" asTexts fun _ _ => ()] ()

/-- Whether members hold one text under a key. -/
def holdsText (members : List (String × Json)) (key : String) : Bool :=
  match members.filter (·.1 == key) with
  | [(_, .string _)] => true
  | _ => false

/-- Reads the members of a bookmark. What is not its metadata is kept, as it has to say what the
bookmark is about. -/
def readBookmarkMembers (hasMetadata : Bool) (kept : List (String × Json)) :
    List (Option String × Json.Draft) → Option JsonFault → JsonReading Unit
  | [], stop => do
    close JsonFault.whenRead stop
    if hasMetadata ∧ holdsText kept "apiVersion" ∧ holdsText kept "kind" then return ()
    else .error .malformed
  | (key, value) :: rest, stop => do
    let key ← readKey key
    if key = "metadata" then
      if hasMetadata then .error .malformed
      else
        readBookmarkMetadata value
        readBookmarkMembers true kept rest stop
    else readBookmarkMembers hasMetadata ((key, ← whole value) :: kept) rest stop

/-- Reads a bookmark. -/
def readBookmark : Json.Draft → JsonReading Unit
  | .object members stop => readBookmarkMembers false [] members stop
  | draft => .error draft.mistyped

/-- Reads the status that tells about an error. -/
def readFailure : Json.Draft → JsonReading Unit :=
  record [.required "status" asString fun _ _ => (), .given "message" asString fun _ _ => (),
    .given "reason" asString fun _ _ => (), .required "code" (asInteger 0 0x10000) fun _ _ => ()] ()

/-- Reads the object of an event of a type. -/
def readObject (type : EventType) (object : Json.Draft) : JsonReading StreamItem :=
  match type with
  | .added | .modified => do return ofClaim .applied (← Claim.read object)
  | .deleted => do return ofClaim .deleted (← Claim.read object)
  | .bookmark => do
    readBookmark object
    return silence
  | .error => do
    readFailure object
    return broken

/-- What has been read of an event. -/
inductive Progress where
  | nothing
  | type (type : EventType)
  | object (object : Json)
  | all (item : StreamItem)

/-- Reads the members of an event. Others than the type and the object are passed over. -/
def readMembers (progress : Progress) :
    List (Option String × Json.Draft) → Option JsonFault → JsonReading StreamItem
  | [], stop => do
    close JsonFault.whenRead stop
    match progress with
    | .all item => return item
    | _ => .error .malformed
  | (key, value) :: rest, stop => do
    let key ← readKey key
    if key = "type" then
      match progress with
      | .nothing => readMembers (.type (← EventType.read value)) rest stop
      | .object object =>
        let type ← EventType.read value
        readMembers (.all (← readObject type (.ofJson object))) rest stop
      | _ => .error .malformed
    else if key = "object" then
      match progress with
      | .nothing => readMembers (.object (← whole value)) rest stop
      | .type type => readMembers (.all (← readObject type value)) rest stop
      | _ => .error .malformed
    else
      skip value
      readMembers progress rest stop

/-- Reads the items of an event: the name of its type, and its object. -/
def readItems (items : List Json.Draft) (stop : Option JsonFault) : JsonReading StreamItem :=
  match items with
  | [] => do
    close JsonFault.whenRead stop
    .error .malformed
  | name :: rest => do
    let type ← EventType.ofName (← asString name)
    match rest with
    | [] =>
      close JsonFault.whenRead stop
      .error .malformed
    | [object] =>
      let item ← readObject type object
      close JsonFault.whenRead stop
      return item
    | object :: _ =>
      let _ ← readObject type object
      .error .malformed

/-- Reads an event. -/
def read : Json.Draft → JsonReading StreamItem
  | .object members stop => readMembers .nothing members stop
  | .array items stop => readItems items stop
  | draft => .error draft.mistyped

/-- What a reading means. -/
def ofReading : JsonReading StreamItem → StreamItem
  | .error .truncated => silence
  | .error .malformed => broken
  | .ok item => item

/-- What a line of the stream means. -/
def ofLine (line : String) : StreamItem :=
  ofReading (Json.readText read line)

/-- What the lines of a text mean. -/
def ofLines (text : String) : List StreamItem :=
  (Text.pieces '\n' text.toList).map fun line => ofLine (String.ofList line)

/-- What a value of the stream means. -/
def ofJson (value : Json) : StreamItem :=
  ofReading (read (.ofJson value))

end StreamItem

end DriverHandover
