/-!
# Server addresses

An address has a scheme, an authority and a path, or it is an authority alone or a path alone. The
authority is a host with what may stand before an `@` and after a colon; a host of several colons
stands in brackets.

## Main definitions

* `Address.isValid` – whether a text is an address.
* `Address.isAuthority`, `Address.isPath` – whether a text is one of its parts.
-/

namespace DriverHandover.Address

/-- Whether a character is a letter or a digit. -/
def isAlphanumeric (c : Char) : Bool :=
  c.isAlpha || c.isDigit

/-- Whether a character may stand in a scheme. -/
def isSchemeChar (c : Char) : Bool :=
  isAlphanumeric c || "+-.~".toList.contains c

/-- Whether a character may stand anywhere in an authority. -/
def isAuthorityChar (c : Char) : Bool :=
  isAlphanumeric c || "!$&'()*+,-.;=_~".toList.contains c

/-- Whether the code of a character lies between two bounds, both included. -/
def codeIn (low high : Nat) (c : Char) : Bool :=
  low ≤ c.toNat && c.toNat ≤ high

/-- Whether a character may stand in a path. -/
def isPathChar (c : Char) : Bool :=
  c == '!' || codeIn 0x24 0x3B c || c == '=' || codeIn 0x40 0x5F c || codeIn 0x61 0x7E c || c == '"'

/-- Whether a character may stand in a query. -/
def isQueryChar (c : Char) : Bool :=
  c == '!' || codeIn 0x24 0x3B c || c == '=' || codeIn 0x3F 0x7E c

/-- What matters of the part of an authority that has been read. -/
structure AuthorityState where
  /-- The colons since the last `@` or closing bracket. -/
  colons : Nat
  /-- Whether there has been a percent sign since then. -/
  percent : Bool
  opened : Bool
  closed : Bool
  /-- Whether the last character is an `@`. -/
  endsUser : Bool
  deriving DecidableEq, Repr

namespace AuthorityState

/-- Nothing has been read. -/
def start : AuthorityState := ⟨0, false, false, false, false⟩

/-- The colons that may follow one another in a host or before an `@`. -/
def maxColons : Nat := 8

/-- Reads one more character. -/
def step? (s : AuthorityState) (c : Char) : Option AuthorityState :=
  let s := { s with endsUser := false }
  if c = ':' then if s.colons < maxColons then some { s with colons := s.colons + 1 } else none
  else if c = '[' then if s.percent ∨ s.opened then none else some { s with opened := true }
  else if c = ']' then
    if s.opened ∧ ¬ s.closed then some { s with closed := true, colons := 0, percent := false }
    else none
  else if c = '@' then some { s with endsUser := true, colons := 0, percent := false }
  else if c = '%' then some { s with percent := true }
  else if isAuthorityChar c then some s
  else none

/-- Whether an authority may end here: a host has at most one colon outside of brackets and no
percent sign. -/
def isComplete (s : AuthorityState) : Bool :=
  s.opened == s.closed && s.colons ≤ 1 && !s.endsUser && !s.percent

end AuthorityState

/-- Whether a text is an authority; the empty one counts. -/
def isAuthority (s : List Char) : Bool :=
  (s.foldlM AuthorityState.step? AuthorityState.start).any (·.isComplete)

/-- Whether a text is a path, with what may follow it after `?` and after `#`; anything may follow
the latter. -/
def isPath (s : List Char) : Bool :=
  let marked (c : Char) : Bool := c == '?' || c == '#'
  (s.takeWhile (!marked ·)).all isPathChar &&
    match s.dropWhile (!marked ·) with
    | '?' :: query => (query.takeWhile (· != '#')).all isQueryChar
    | _ => true

/-- Whether a character ends an authority. -/
def endsAuthority (c : Char) : Bool :=
  c == '/' || c == '?' || c == '#'

/-- The length that a scheme may have. -/
def maxSchemeLength : Nat := 64

/-- The scheme of an address and what stands after it, if there is one. A scheme may be empty. -/
def splitScheme? (s : List Char) : Option (List Char × List Char) :=
  match s.dropWhile isSchemeChar with
  | ':' :: '/' :: '/' :: rest =>
    if s.length ≤ 3 then none else some (s.takeWhile isSchemeChar, rest)
  | _ => none

/-- The number of bytes that an address may have. -/
def maxLength : Nat := 65534

/-- Whether a text is an address. -/
def isValid (text : String) : Bool :=
  text.utf8ByteSize ≤ maxLength &&
    match text.toList with
    | [] => false
    | ['*'] => true
    | '/' :: rest => isPath ('/' :: rest)
    | s =>
      match splitScheme? s with
      | none => isAuthority s
      | some (scheme, rest) =>
        let authority := rest.takeWhile (!endsAuthority ·)
        scheme.length ≤ maxSchemeLength && !authority.isEmpty && isAuthority authority &&
          isPath (rest.dropWhile (!endsAuthority ·))

end DriverHandover.Address
