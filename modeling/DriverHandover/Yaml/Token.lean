/-!
# Tokens of YAML

The tokens of a text are its marks and its pieces of text. Where a block of lines starts and ends is
a token as well, although no character shows it.

## Main definitions

* `Yaml.Token` – a token.
* `Yaml.ScalarStyle` – how a piece of text is written.
-/

namespace DriverHandover.Yaml

/-- How a piece of text is written: without any marks, or in quotes or a block. -/
inductive ScalarStyle where
  | plain
  | marked
  deriving DecidableEq, Repr

/-- A token. -/
inductive Token where
  /-- A directive about the version of the language. -/
  | version (major minor : Nat)
  /-- A directive about what a handle stands for in a tag. -/
  | tagHandle (handle : String) (start : List UInt8)
  | documentStart
  | documentEnd
  | blockSequenceStart
  | blockMappingStart
  | blockEnd
  | flowSequenceStart
  | flowSequenceEnd
  | flowMappingStart
  | flowMappingEnd
  | blockEntry
  | flowEntry
  | key
  | value
  | aliasOf (name : String)
  | anchor (name : String)
  /-- A tag: a handle, or none for a tag that stands for itself, and the rest. -/
  | tag (handle : Option String) (rest : List UInt8)
  | scalar (style : ScalarStyle) (text : String)
  deriving DecidableEq, Repr

end DriverHandover.Yaml
