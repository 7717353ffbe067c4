import DriverHandover.Yaml.Token

/-!
# Documents of YAML

A text of YAML holds documents, and each is a node: a piece of text, a sequence of nodes, or a
mapping from nodes to nodes. A node can have a tag that says what it is, and an anchor by which an
alias refers to it.

Each name of an anchor has a number, and so has each node with an anchor; an alias refers to the
last node of its number. A name gets the number of names that there are when it is given.

## Main definitions

* `Yaml.Node` – a node.
* `Yaml.Document` – a document: a node with the nodes that have anchors.
* `Yaml.Document.ofTokens?` – the documents that tokens write.
-/

namespace DriverHandover.Yaml

/-- The bytes of a tag. -/
abbrev Tag := List UInt8

/-- A node of a document. -/
inductive Node where
  | scalar (tag : Option Tag) (style : ScalarStyle) (text : String)
  | sequence (tag : Option Tag) (items : List Node)
  | mapping (tag : Option Tag) (entries : List (Node × Node))
  /-- The node with an anchor of a number. -/
  | aliasOf (number : Nat)
  deriving Inhabited, Repr

namespace Node

/-- A node that nothing is written for. -/
def empty : Node := scalar none .plain ""

mutual

/-- The size of a node: one for each piece of text and alias, and two for each pair of brackets. -/
def size : Node → Nat
  | scalar _ _ _ | aliasOf _ => 1
  | sequence _ items => sizeItems items + 2
  | mapping _ entries => sizeEntries entries + 2

/-- The size of items. -/
def sizeItems : List Node → Nat
  | [] => 0
  | item :: rest => size item + sizeItems rest

/-- The size of entries. -/
def sizeEntries : List (Node × Node) → Nat
  | [] => 0
  | (key, value) :: rest => size key + size value + sizeEntries rest

end

end Node

/-- The anchors of a document. -/
structure Anchors where
  /-- The names, each with its number. -/
  numbers : List (String × Nat)
  /-- The numbers, each with the position of a node among those with an anchor; the last one comes
  first. -/
  positions : List (Nat × Nat)
  /-- The nodes at the positions that are complete. -/
  nodes : List (Nat × Node)
  deriving Repr

namespace Anchors

/-- No anchors. -/
def empty : Anchors := ⟨[], [], []⟩

/-- Gives a name to the node that starts now, and returns its position. -/
def name (a : Anchors) (name : String) : Nat × Anchors :=
  let number := a.numbers.length
  let position := a.positions.length
  let others := a.numbers.filter (·.1 != name)
  (position, { a with
    numbers := (name, number) :: others, positions := (number, position) :: a.positions })

/-- Completes the node at a position. -/
def complete (a : Anchors) (position : Nat) (node : Node) : Anchors :=
  { a with nodes := (position, node) :: a.nodes }

/-- The node that an alias refers to. -/
def find? (a : Anchors) (number : Nat) : Option Node :=
  (a.positions.lookup number).bind fun position => a.nodes.lookup position

end Anchors

/-- A document. -/
structure Document where
  root : Node
  anchors : Anchors
  deriving Repr

/-- What is left of the tokens while documents are put together. -/
structure Composer where
  tokens : List Token
  /-- What the handles of tags stand for. -/
  handles : List (String × Tag)
  anchors : Anchors
  deriving Repr

namespace Composer

/-- What a handle stands for unless a directive says otherwise. -/
def defaultHandles : List (String × Tag) :=
  [("!", "!".toUTF8.toList), ("!!", "tag:yaml.org,2002:".toUTF8.toList)]

/-- The tokens from the second one on. -/
def skip (p : Composer) : Composer :=
  { p with tokens := p.tokens.tail }

/-- The tag of a token for one. -/
def resolveTag? (p : Composer) (handle : Option String) (rest : Tag) : Option Tag :=
  match handle with
  | none => some rest
  | some handle => (p.handles.lookup handle).map (· ++ rest)

/-- The anchor and the tag before a node, in either order. -/
def properties? (p : Composer) : Option (Option String × Option Tag × Composer) :=
  match p.tokens with
  | .anchor name :: .tag handle rest :: tokens | .tag handle rest :: .anchor name :: tokens => do
    return (some name, some (← p.resolveTag? handle rest), { p with tokens })
  | .anchor name :: tokens => some (some name, none, { p with tokens })
  | .tag handle rest :: tokens => do
    return (none, some (← p.resolveTag? handle rest), { p with tokens })
  | _ => some (none, none, p)

/-- Names the node that starts now, if it has an anchor. -/
def open? (p : Composer) : Option String → Option Nat × Composer
  | none => (none, p)
  | some name =>
    let (position, anchors) := p.anchors.name name
    (some position, { p with anchors })

/-- Completes a node. -/
def close (p : Composer) (position : Option Nat) (node : Node) : Node × Composer :=
  match position with
  | none => (node, p)
  | some position => (node, { p with anchors := p.anchors.complete position node })

/-- The tag of a lone exclamation mark, which does not count for a piece of text. -/
def neutralTag : Tag := "!".toUTF8.toList

/-- The places where a node can stand. -/
inductive Place where
  /-- Between brackets. -/
  | flow
  /-- In a block. -/
  | block
  /-- In an entry of a block mapping, where a sequence need not be indented. -/
  | entry
  deriving DecidableEq, Repr

/-- Whether a token ends the value or the key before it in a block mapping. -/
def endsEntry : Option Token → Bool
  | some .key | some .value | some .blockEnd => true
  | _ => false

/-- Whether a token ends the value before it between brackets. -/
def endsFlow (closing : Token) (token : Option Token) : Bool :=
  token == some .flowEntry || token == some closing

/-- The node that follows, unless nothing is written for it. -/
def nodeUnless (p : Composer) (isEmpty : Bool) (node? : Composer → Option (Node × Composer)) :
    Option (Node × Composer) :=
  if isEmpty then some (.empty, p) else node? p

mutual

/-- Puts the next node together. -/
def node? (fuel : Nat) (place : Place) (p : Composer) : Option (Node × Composer) :=
  match fuel with
  | 0 => none
  | fuel + 1 =>
    match p.tokens with
    | .aliasOf name :: tokens => do
      return (.aliasOf (← p.anchors.numbers.lookup name), { p with tokens })
    | _ => do
      let (anchor, tag, p) ← p.properties?
      let (position, p) := p.open? anchor
      match p.tokens, place with
      | .blockEntry :: _, .entry =>
        let (items, p) ← indentlessItems? fuel p
        return p.close position (.sequence tag items)
      | .scalar style text :: tokens, _ =>
        let tag := if tag = some neutralTag then none else tag
        return { p with tokens }.close position (.scalar tag style text)
      | .flowSequenceStart :: tokens, _ =>
        let (items, p) ← flowItems? fuel true { p with tokens }
        return p.close position (.sequence tag items)
      | .flowMappingStart :: tokens, _ =>
        let (entries, p) ← flowEntries? fuel true { p with tokens }
        return p.close position (.mapping tag entries)
      | .blockSequenceStart :: tokens, .block | .blockSequenceStart :: tokens, .entry =>
        let (items, p) ← blockItems? fuel { p with tokens }
        return p.close position (.sequence tag items)
      | .blockMappingStart :: tokens, .block | .blockMappingStart :: tokens, .entry =>
        let (entries, p) ← blockEntries? fuel { p with tokens }
        return p.close position (.mapping tag entries)
      | _, _ =>
        if anchor.isSome ∨ tag.isSome then return p.close position (.scalar tag .plain "") else none

/-- The items of a block sequence up to its end. -/
def blockItems? (fuel : Nat) (p : Composer) : Option (List Node × Composer) :=
  match fuel with
  | 0 => none
  | fuel + 1 =>
    match p.tokens with
    | .blockEntry :: tokens => do
      let p := { p with tokens }
      let isEmpty := p.tokens.head? == some .blockEntry || p.tokens.head? == some .blockEnd
      let (item, p) ← p.nodeUnless isEmpty (node? fuel .block)
      let (items, p) ← blockItems? fuel p
      return (item :: items, p)
    | .blockEnd :: tokens => some ([], { p with tokens })
    | _ => none

/-- The items of a sequence that is not indented. -/
def indentlessItems? (fuel : Nat) (p : Composer) : Option (List Node × Composer) :=
  match fuel with
  | 0 => none
  | fuel + 1 =>
    match p.tokens with
    | .blockEntry :: tokens => do
      let p := { p with tokens }
      let isEmpty := p.tokens.head? == some .blockEntry || endsEntry p.tokens.head?
      let (item, p) ← p.nodeUnless isEmpty (node? fuel .block)
      let (items, p) ← indentlessItems? fuel p
      return (item :: items, p)
    | _ => some ([], p)

/-- The entries of a block mapping up to its end. -/
def blockEntries? (fuel : Nat) (p : Composer) : Option (List (Node × Node) × Composer) :=
  match fuel with
  | 0 => none
  | fuel + 1 =>
    match p.tokens with
    | .key :: tokens => do
      let p := { p with tokens }
      let (key, p) ← p.nodeUnless (endsEntry p.tokens.head?) (node? fuel .entry)
      let (value, p) ←
        match p.tokens with
        | .value :: tokens =>
          let p := { p with tokens }
          p.nodeUnless (endsEntry p.tokens.head?) (node? fuel .entry)
        | _ => some (.empty, p)
      let (entries, p) ← blockEntries? fuel p
      return ((key, value) :: entries, p)
    | .blockEnd :: tokens => some ([], { p with tokens })
    | _ => none

/-- The value after a key between brackets, if there is one. -/
def flowValue? (fuel : Nat) (closing : Token) (p : Composer) : Option (Node × Composer) :=
  match fuel with
  | 0 => none
  | fuel + 1 =>
    match p.tokens with
    | .value :: tokens =>
      let p := { p with tokens }
      p.nodeUnless (endsFlow closing p.tokens.head?) (node? fuel .flow)
    | _ => some (.empty, p)

/-- The items of a sequence in brackets up to its end. A key makes a mapping of one entry; one that
nothing is written for takes the token after it with it. -/
def flowItems? (fuel : Nat) (isFirst : Bool) (p : Composer) : Option (List Node × Composer) :=
  match fuel with
  | 0 => none
  | fuel + 1 =>
    match p.tokens with
    | .flowSequenceEnd :: tokens => some ([], { p with tokens })
    | _ => do
      let p ←
        if isFirst then some p
        else if p.tokens.head? = some .flowEntry then some p.skip
        else none
      match p.tokens with
      | .flowSequenceEnd :: tokens => return ([], { p with tokens })
      | .key :: tokens =>
        let p := { p with tokens }
        let isEmpty :=
          p.tokens.head? == some .value || endsFlow .flowSequenceEnd p.tokens.head?
        let (key, p) ← if isEmpty then some (.empty, p.skip) else node? fuel .flow p
        let (value, p) ← flowValue? fuel .flowSequenceEnd p
        let (items, p) ← flowItems? fuel false p
        return (.mapping none [(key, value)] :: items, p)
      | _ =>
        let (item, p) ← node? fuel .flow p
        let (items, p) ← flowItems? fuel false p
        return (item :: items, p)

/-- The entries of a mapping in braces up to its end. -/
def flowEntries? (fuel : Nat) (isFirst : Bool) (p : Composer) :
    Option (List (Node × Node) × Composer) :=
  match fuel with
  | 0 => none
  | fuel + 1 =>
    match p.tokens with
    | .flowMappingEnd :: tokens => some ([], { p with tokens })
    | _ => do
      let p ←
        if isFirst then some p
        else if p.tokens.head? = some .flowEntry then some p.skip
        else none
      match p.tokens with
      | .flowMappingEnd :: tokens => return ([], { p with tokens })
      | .key :: tokens =>
        let p := { p with tokens }
        let isEmpty := p.tokens.head? == some .value || endsFlow .flowMappingEnd p.tokens.head?
        let (key, p) ← p.nodeUnless isEmpty (node? fuel .flow)
        let (value, p) ← flowValue? fuel .flowMappingEnd p
        let (entries, p) ← flowEntries? fuel false p
        return ((key, value) :: entries, p)
      | _ =>
        let (key, p) ← node? fuel .flow p
        let (entries, p) ← flowEntries? fuel false p
        return ((key, .empty) :: entries, p)

end

/-- Whether a version is one that is understood. -/
def isKnownVersion (major minor : Nat) : Bool :=
  major == 1 && (minor == 1 || minor == 2)

/-- The tokens after directives, and what they say about handles. There may be one directive about
the version and one about each handle. -/
def directives? (hasVersion : Bool) (handles : List (String × Tag)) :
    List Token → Option (List (String × Tag) × List Token)
  | .version major minor :: rest =>
    if hasVersion ∨ ¬ isKnownVersion major minor then none else directives? true handles rest
  | .tagHandle handle start :: rest =>
    if (handles.lookup handle).isSome then none
    else directives? hasVersion ((handle, start) :: handles) rest
  | tokens => some (handles, tokens)

/-- Whether a token can only stand outside of the content of a document. -/
def isOutside : Option Token → Bool
  | none | some (.version _ _) | some (.tagHandle _ _) | some .documentStart
  | some .documentEnd => true
  | _ => false

/-- Whether a document can start at a token without a mark. -/
def startsBare : Option Token → Bool
  | none | some (.version _ _) | some (.tagHandle _ _) | some .documentStart => false
  | _ => true

/-- The steps that tokens can take at most. -/
def enough (tokens : List Token) : Nat := 4 * tokens.length + 4

/-- The content of a document, with what the handles stand for, and the tokens after it. -/
def content? (handles : List (String × Tag)) (tokens : List Token) :
    Option (Document × List Token) := do
  let (root, p) ← node? (enough tokens) .block ⟨tokens, handles ++ defaultHandles, .empty⟩
  return (⟨root, p.anchors⟩, p.tokens)

/-- A document with directives and a mark at its start, and the tokens after it. -/
def marked? (tokens : List Token) : Option (Document × List Token) := do
  let (handles, tokens) ← directives? false [] tokens
  match tokens with
  | .documentStart :: tokens =>
    if isOutside tokens.head? then return (⟨.empty, .empty⟩, tokens) else content? handles tokens
  | _ => none

/-- The tokens after marks of the end of a document. -/
def skipEnds : List Token → List Token
  | .documentEnd :: rest => skipEnds rest
  | tokens => tokens

/-- The documents from the second one on. -/
def others? : Nat → List Token → Option (List Document)
  | 0, _ => none
  | fuel + 1, tokens =>
    match skipEnds tokens with
    | [] => some []
    | tokens => do
      let (document, tokens) ← marked? tokens
      return document :: (← others? fuel tokens)

end Composer

/-- The documents that tokens write. If there are no tokens at all, there is still one document,
which nothing is written for. -/
def Document.ofTokens? (tokens : List Token) : Option (List Document) := do
  if tokens.isEmpty then return [⟨.empty, .empty⟩]
  else
    let (document, rest) ←
      if Composer.startsBare tokens.head? then Composer.content? [] tokens
      else Composer.marked? tokens
    return document :: (← Composer.others? (tokens.length + 1) rest)

end DriverHandover.Yaml
