import DriverHandover.Cluster.Pem

/-!
# Certificates and keys

Certificates and keys are trees of items: each has a tag, a length, and either bytes or further
items. What counts here is their shape; whom they belong to and who vouches for them does not.

## Main definitions

* `Der.Item` – an item, with `Der.items?`.
* `Certificate.isSound` – whether bytes are a certificate.
* `PrivateKey.isSound` – whether bytes are a private key of a kind.
-/

namespace DriverHandover

namespace Der

/-- An item: its tag and its content. -/
structure Item where
  tag : UInt8
  content : List UInt8
  deriving DecidableEq, Repr

/-- The tag of an integer. -/
def integerTag : UInt8 := 0x02

/-- The tag of a string of bits. -/
def bitsTag : UInt8 := 0x03

/-- The tag of a string of bytes. -/
def bytesTag : UInt8 := 0x04

/-- The tag of the name of an algorithm or an extension. -/
def nameTag : UInt8 := 0x06

/-- The tag of a sequence of items. -/
def sequenceTag : UInt8 := 0x30

/-- The tag of a marked part with a number. -/
def partTag (n : UInt8) : UInt8 := 0xA0 + n

/-- The length at the start of bytes, in as few of them as it needs, and the bytes after it. -/
def readLength? : List UInt8 → Option (Nat × List UInt8)
  | a :: rest =>
    if a < 0x80 then some (a.toNat, rest)
    else
      match a, rest with
      | 0x81, b :: rest => if b < 0x80 then none else some (b.toNat, rest)
      | 0x82, b :: c :: rest =>
        if b = 0 then none else some (b.toNat * 256 + c.toNat, rest)
      | _, _ => none
  | [] => none

/-- The item at the start of bytes, and the bytes after it. -/
def readItem? (s : List UInt8) : Option (Item × List UInt8) :=
  match s with
  | tag :: rest => do
    let (length, rest) ← readLength? rest
    if tag &&& 0x1F = 0x1F ∨ rest.length < length then none
    else some (⟨tag, rest.take length⟩, rest.drop length)
  | [] => none

/-- The items of bytes, at most `fuel` of them. -/
def readItems? : Nat → List UInt8 → Option (List Item)
  | 0, _ => none
  | fuel + 1, s =>
    if s.isEmpty then some []
    else do
      let (item, rest) ← readItem? s
      return item :: (← readItems? fuel rest)

/-- The items of bytes. -/
def items? (s : List UInt8) : Option (List Item) :=
  readItems? (s.length + 1) s

/-- The items of a sequence that bytes consist of. -/
def sequence? (s : List UInt8) : Option (List Item) :=
  match items? s with
  | some [item] => if item.tag = sequenceTag then items? item.content else none
  | _ => none

/-- The items in an item of a tag. -/
def itemsIn? (tag : UInt8) (item : Item) : Option (List Item) :=
  if item.tag = tag then items? item.content else none

end Der

namespace Certificate

open Der

/-- Whether an item is an extension: its name, whether it has to be understood, and its value. -/
def isExtension (item : Item) : Bool :=
  match (itemsIn? sequenceTag item).map (·.map (·.tag)) with
  | some [name, value] => name == nameTag && value == bytesTag
  | some [name, _, value] => name == nameTag && value == bytesTag
  | _ => false

/-- Whether items are the extensions of a certificate, if they are any. -/
def areExtensions : List Item → Bool
  | [] => true
  | [part] =>
    match itemsIn? (partTag 3) part with
    | some [list] => ((itemsIn? sequenceTag list).map (·.all isExtension)).getD false
    | _ => false
  | _ => false

/-- Whether an item is the version of a certificate with extensions. -/
def isVersion (item : Item) : Bool :=
  itemsIn? (partTag 0) item == some [⟨integerTag, [2]⟩]

/-- Whether items are what a certificate says, where `algorithm` is the way it is signed: its
number, that algorithm, and the four parts about whom it is from, when it holds, whom it is about
and with which key. -/
def isStatement (algorithm : Item) : List Item → Bool
  | number :: signature :: a :: b :: c :: d :: rest =>
    number.tag == integerTag && signature == algorithm &&
      [a, b, c, d].all (·.tag == sequenceTag) && areExtensions rest
  | _ => false

/-- Whether bytes are a certificate. -/
def isSound (s : List UInt8) : Bool :=
  match sequence? s with
  | some [statement, algorithm, signature] =>
    algorithm.tag == sequenceTag && signature.tag == bitsTag &&
      signature.content.head? == some 0 &&
      match itemsIn? sequenceTag statement with
      | some (version :: rest) =>
        if isVersion version then isStatement algorithm rest
        else isStatement algorithm (version :: rest) && rest.length == 5
      | _ => false
  | _ => false

end Certificate

/-- The kinds of private keys. -/
inductive PrivateKeyKind where
  /-- A key of any algorithm, which it names. -/
  | named
  | rsa
  | curve
  deriving DecidableEq, Repr

namespace PrivateKeyKind

/-- All kinds. -/
def all : List PrivateKeyKind := [named, rsa, curve]

/-- What a block with a key of a kind says it is. -/
def label : PrivateKeyKind → List UInt8
  | named => Pem.ascii "PRIVATE KEY"
  | rsa => Pem.ascii "RSA PRIVATE KEY"
  | curve => Pem.ascii "EC PRIVATE KEY"

end PrivateKeyKind

namespace PrivateKey

open Der

/-- Whether bytes are a private key of a kind. -/
def isSound (kind : PrivateKeyKind) (s : List UInt8) : Bool :=
  match kind, (sequence? s).map (·.map (·.tag)) with
  | .named, some (version :: algorithm :: key :: _) =>
    version == integerTag && algorithm == sequenceTag && key == bytesTag
  | .rsa, some tags => tags.length == 9 && tags.all (· == integerTag)
  | .curve, some (version :: key :: _) => version == integerTag && key == bytesTag
  | _, _ => false

end PrivateKey

end DriverHandover
