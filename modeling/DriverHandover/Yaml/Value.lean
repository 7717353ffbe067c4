import DriverHandover.Text.Utf8
import DriverHandover.Yaml.Node
import DriverHandover.Yaml.Scalar
import DriverHandover.Yaml.Token.Scan

/-!
# Values of YAML

The value of a document is what its nodes stand for: pieces of text become what they say they are,
aliases become the nodes that they refer to, and a tag of one's own stays with its value. No key of
a mapping may stand in it twice.

## Main definitions

* `Yaml.Value` – a value, with `Yaml.Value.same`.
* `Yaml.Value.ofDocument?` – the value of a document.
* `Yaml.Value.ofText?` – the values of the documents of a text.
-/

namespace DriverHandover.Yaml

/-- A value. -/
inductive Value where
  | scalar (s : Scalar)
  | sequence (items : List Value)
  | mapping (entries : List (Value × Value))
  /-- A value with a tag, of which the exclamation mark is left out. -/
  | tagged (tag : List UInt8) (value : Value)
  deriving Inhabited, Repr

namespace Value

/-- No value. -/
def null : Value := scalar .null

/-- The value of a text. -/
def string (s : String) : Value := scalar (.string s)

mutual

/-- Whether two values are the same. The order of the entries of a mapping does not count. -/
def same : Value → Value → Bool
  | scalar a, scalar b => a == b
  | sequence a, sequence b => sameItems a b
  | mapping a, mapping b => a.length == b.length && sameEntries a b
  | tagged s a, tagged t b => s == t && same a b
  | _, _ => false

/-- Whether two lists have the same items. -/
def sameItems : List Value → List Value → Bool
  | [], [] => true
  | a :: as, b :: bs => same a b && sameItems as bs
  | _, _ => false

/-- Whether all entries of a list are among those of another one. -/
def sameEntries : List (Value × Value) → List (Value × Value) → Bool
  | [], _ => true
  | (key, value) :: rest, entries =>
    (entries.any fun e => same key e.1 && same value e.2) && sameEntries rest entries

end

/-- Whether a key is the key of an entry. -/
def hasKey (key : Value) (entries : List (Value × Value)) : Bool :=
  entries.any fun e => same e.1 key

/-- The levels of nesting that a value may have. -/
def maxDepth : Nat := 128

/-- The aliases that may be followed for each part of a document. -/
def aliasesPerPart : Nat := 100

/-- The tags of the language, after the exclamation marks that stand for them. -/
def languageTag (name : String) : Tag :=
  ("tag:yaml.org,2002:" ++ name).toUTF8.toList

/-- Whether a tag is one's own: it starts with an exclamation mark. -/
def isOwnTag : Tag → Bool
  | byte :: _ => byte == 0x21
  | [] => false

/-- The name in a tag of one's own, if that is text. -/
def ownName? : Option Tag → Option (List UInt8)
  | some (0x21 :: rest) =>
    let name := if rest.isEmpty then [0x21] else rest
    if (Utf8.decode? name).isSome then some name else none
  | _ => none

/-- What a piece of text with a tag stands for. A tag of one's own is not counted here. -/
def ofScalar? (tag : Option Tag) (style : ScalarStyle) (text : String) : Option Value :=
  let untagged? : Option Scalar :=
    match style with
    | .plain => Scalar.ofPlain? text
    | .marked => some (.string text)
  match tag with
  | none => untagged?.map scalar
  | some tag =>
    if tag = languageTag "bool" then (Scalar.bool? text).map fun b => scalar (.bool b)
    else if tag = languageTag "int" then (Scalar.ofIntegerText? text).map scalar
    else if tag = languageTag "float" then
      (Scalar.double? text).map fun bits => scalar (.double bits)
    else if tag = languageTag "null" then if Scalar.isNull text then some null else none
    else if isOwnTag tag then untagged?.map scalar
    else some (string text)

/-- A value with a tag, if there is one. -/
def withTag (name : Option (List UInt8)) (value : Value) : Value :=
  match name with
  | some name => tagged name value
  | none => value

mutual

/-- The value of a node in at most `fuel` steps, with `room` for so many levels. Also returns what
is left of the number of aliases that may be followed. -/
def ofNode? (anchors : Anchors) (fuel room aliases : Nat) (node : Node) : Option (Value × Nat) :=
  match fuel with
  | 0 => none
  | fuel + 1 =>
    match node with
    | .aliasOf number =>
      match aliases, anchors.find? number with
      | aliases + 1, some node => ofNode? anchors fuel room aliases node
      | _, _ => none
    | .scalar tag style text =>
      match ownName? tag with
      | some name => (ofScalar? none style text).map fun value => (tagged name value, aliases)
      | none => (ofScalar? tag style text).map fun value => (value, aliases)
    | .sequence tag items =>
      match room with
      | 0 => none
      | room + 1 => do
        let (items, aliases) ← ofItems? anchors fuel room aliases items
        return (withTag (ownName? tag) (sequence items), aliases)
    | .mapping tag entries =>
      match room with
      | 0 => none
      | room + 1 => do
        let (entries, aliases) ← ofEntries? anchors fuel room aliases [] entries
        return (withTag (ownName? tag) (mapping entries), aliases)

/-- The values of items. -/
def ofItems? (anchors : Anchors) (fuel room aliases : Nat) (items : List Node) :
    Option (List Value × Nat) :=
  match fuel with
  | 0 => none
  | fuel + 1 =>
    match items with
    | [] => some ([], aliases)
    | item :: rest => do
      let (item, aliases) ← ofNode? anchors fuel room aliases item
      let (items, aliases) ← ofItems? anchors fuel room aliases rest
      return (item :: items, aliases)

/-- The values of entries, before which `done` stand in reverse. -/
def ofEntries? (anchors : Anchors) (fuel room aliases : Nat) (done : List (Value × Value))
    (entries : List (Node × Node)) : Option (List (Value × Value) × Nat) :=
  match fuel with
  | 0 => none
  | fuel + 1 =>
    match entries with
    | [] => some (done.reverse, aliases)
    | (key, value) :: rest => do
      let (key, aliases) ← ofNode? anchors fuel room aliases key
      if hasKey key done then none
      else
        let (value, aliases) ← ofNode? anchors fuel room aliases value
        ofEntries? anchors fuel room aliases ((key, value) :: done) rest

end

/-- The value of a document. -/
def ofDocument? (d : Document) : Option Value :=
  let size := d.root.size
  let steps := (maxDepth + 2) * (size + 3)
  (ofNode? d.anchors steps maxDepth (aliasesPerPart * size) d.root).map (·.1)

/-- The values of the documents of a text. -/
def ofText? (text : String) : Option (List Value) := do
  let documents ← Document.ofTokens? (← Token.ofText? text)
  documents.mapM ofDocument?

end Value

end DriverHandover.Yaml
