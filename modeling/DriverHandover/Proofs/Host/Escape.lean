import DriverHandover.Host.Mounts
import DriverHandover.Proofs.Text.Utf8

/-!
# Escapes and how they are undone

A byte that would break a line of the kernel is written as a backslash and three octal digits. A
field is scanned from left to right for such escapes. A backslash in front of three other bytes, or
of fewer than three, is no escape and stays as it is.

## Main definitions

* `Mounts.escapeBytes`, `Mounts.escape` – bytes, and a text, with those of a class written as
  escapes.
* `Mounts.escapeAt?` – the escape at the start of some bytes.
* `Mounts.turn?`, `Mounts.Scans` – one turn of the scan of a field, and the whole scan.

## Main statements

* `Mounts.unescapeBytes_escapeBytes`, `Mounts.unescape_escape` – escapes are undone.
* `Mounts.turn?_advances` – a turn looks at no byte outside of the field and leaves bytes behind.
* `Mounts.scans_iff` – what the scan puts out.
* `Mounts.unescapeBytes_append_backslash` – no escape reaches across a backslash.
-/

namespace DriverHandover.Mounts

/-- The octal digit of a number below eight. -/
def octalDigit (n : Nat) : Char := Char.ofNat (0x30 + n)

/-- A backslash and the three octal digits of a character. -/
def octalEscape (c : Char) : List Char :=
  ['\\', octalDigit (c.toNat / 64), octalDigit (c.toNat / 8 % 8), octalDigit (c.toNat % 8)]

/-- A text with the characters of a class written as escapes. -/
def escape (escaped : Char → Bool) (s : List Char) : List Char :=
  s.flatMap fun c => if escaped c then octalEscape c else [c]

/-- The octal digit of a number below eight, as a byte. -/
def octalByte (n : Nat) : UInt8 := UInt8.ofNat (0x30 + n)

/-- A backslash and the three octal digits of a byte. -/
def byteEscape (b : UInt8) : List UInt8 :=
  [backslash, octalByte (b.toNat / 64), octalByte (b.toNat / 8 % 8), octalByte (b.toNat % 8)]

/-- Bytes with those of a class written as escapes. -/
def escapeBytes (escaped : UInt8 → Bool) (bytes : List UInt8) : List UInt8 :=
  bytes.flatMap fun b => if escaped b then byteEscape b else [b]

/-- The byte that an escape at the start of some bytes denotes, and what is behind the escape. -/
def escapeAt? : List UInt8 → Option (UInt8 × List UInt8)
  | b :: d₁ :: d₂ :: d₃ :: rest =>
    if b = backslash then (octal? d₁ d₂ d₃).map fun value => (value, rest) else none
  | _ => none

variable {escaped : Char → Bool} {c : Char} {n : Nat}
variable {b value : UInt8} {rest tail front field out : List UInt8}

theorem escape_cons (c : Char) (s : List Char) :
    escape escaped (c :: s) = (if escaped c then octalEscape c else [c]) ++ escape escaped s :=
  List.flatMap_cons

theorem escapeBytes_cons (escaped : UInt8 → Bool) (b : UInt8) (bytes : List UInt8) :
    escapeBytes escaped (b :: bytes) =
      (if escaped b then byteEscape b else [b]) ++ escapeBytes escaped bytes :=
  List.flatMap_cons

theorem escapeBytes_append (escaped : UInt8 → Bool) (bytes others : List UInt8) :
    escapeBytes escaped (bytes ++ others) =
      escapeBytes escaped bytes ++ escapeBytes escaped others :=
  List.flatMap_append

theorem octalDigit?_octalByte (h : n < 8) : octalDigit? (octalByte n) = some n := by
  rw [octalDigit?, octalByte, Utf8.toNat_ofNat (by omega), if_pos (by omega),
    Nat.add_sub_cancel_left]

/-- Three octal digits denote a byte if their value is below 256. -/
theorem octal?_octalByte {high middle low : Nat} (hhigh : high < 8) (hmiddle : middle < 8)
    (hlow : low < 8) :
    octal? (octalByte high) (octalByte middle) (octalByte low) =
      if high * 64 + middle * 8 + low < 256
      then some (UInt8.ofNat (high * 64 + middle * 8 + low)) else none := by
  have hplus : (octalByte high).toNat ≠ 0x2B := by
    rw [octalByte, Utf8.toNat_ofNat (by omega)]
    omega
  rw [octal?, if_neg hplus, octalDigit?_octalByte hhigh, octalDigit?_octalByte hmiddle,
    octalDigit?_octalByte hlow]
  rfl

theorem octal?_digits (b : UInt8) :
    octal? (octalByte (b.toNat / 64)) (octalByte (b.toNat / 8 % 8)) (octalByte (b.toNat % 8)) =
      some b := by
  have hb : b.toNat < 256 := b.toNat_lt
  have hvalue : b.toNat / 64 * 64 + b.toNat / 8 % 8 * 8 + b.toNat % 8 = b.toNat := by omega
  rw [octal?_octalByte (by omega) (by omega) (by omega), hvalue, if_pos hb, UInt8.ofNat_toNat]

/-- The first byte of a field is read as what its escape denotes, or as itself. -/
theorem unescapeBytes_cons (b : UInt8) (tail : List UInt8) :
    unescapeBytes (b :: tail) =
      match escapeAt? (b :: tail) with
      | some (value, rest) => value :: unescapeBytes rest
      | none => b :: unescapeBytes tail := by
  match tail with
  | [] | [_] | [_, _] => rfl
  | d₁ :: d₂ :: d₃ :: rest =>
    rw [unescapeBytes, escapeAt?]
    by_cases hb : b = backslash
    · rw [if_pos hb, if_pos hb]
      cases octal? d₁ d₂ d₃ <;> rfl
    · rw [if_neg hb, if_neg hb]

theorem escapeAt?_of_ne (hb : b ≠ backslash) : escapeAt? (b :: tail) = none := by
  match tail with
  | [] | [_] | [_, _] => rfl
  | d₁ :: d₂ :: d₃ :: rest => exact if_neg hb

theorem escapeAt?_byteEscape (b : UInt8) (rest : List UInt8) :
    escapeAt? (byteEscape b ++ rest) = some (b, rest) := by
  rw [byteEscape]
  simp only [List.cons_append, List.nil_append, escapeAt?, if_pos, octal?_digits, Option.map_some]

/-- Escapes are undone, whatever else is written as one, if the byte that starts one is. -/
theorem unescapeBytes_escapeBytes {escaped : UInt8 → Bool} (hback : escaped backslash = true)
    (bytes : List UInt8) : unescapeBytes (escapeBytes escaped bytes) = bytes := by
  induction bytes with
  | nil => rfl
  | cons b bytes ih =>
    rw [escapeBytes_cons]
    split
    · rw [byteEscape, List.cons_append, unescapeBytes_cons, ← List.cons_append, ← byteEscape,
        escapeAt?_byteEscape]
      exact congrArg (b :: ·) ih
    · rename_i hb
      have hne : b ≠ backslash := fun heq => hb (heq ▸ hback)
      rw [List.singleton_append, unescapeBytes_cons, escapeAt?_of_ne hne]
      exact congrArg (b :: ·) ih

theorem encodeChar_octalDigit : ∀ n < 8, Utf8.encodeChar (octalDigit n) = [octalByte n] := by
  decide

theorem encode_octalEscape (h : c.toNat < 0x80) :
    Utf8.encode (octalEscape c) = byteEscape (UInt8.ofNat c.toNat) := by
  simp only [Utf8.encode, octalEscape, List.flatMap_cons, List.flatMap_nil]
  rw [encodeChar_octalDigit _ (by omega), encodeChar_octalDigit _ (by omega),
    encodeChar_octalDigit _ (by omega), byteEscape, Utf8.toNat_ofNat (by omega)]
  rfl

/-- If only characters of one byte are escaped, the bytes of a character are in the class as the
character itself. -/
theorem escaped_of_mem_encodeChar (hbyte : ∀ c, escaped c = true → c.toNat < 0x80)
    (hb : b ∈ Utf8.encodeChar c) : escaped (Char.ofNat b.toNat) = escaped c := by
  by_cases hc : c.toNat < 0x80
  · rw [Utf8.encodeChar_of_lt hc, List.mem_singleton] at hb
    rw [hb, Utf8.toNat_ofNat (by omega), Char.ofNat_toNat]
  · have hlow : 0x80 ≤ b.toNat := Utf8.le_of_mem_encodeChar (Nat.le_of_not_lt hc) hb
    have hhigh : b.toNat < 256 := b.toNat_lt
    have hvalid : b.toNat.isValidChar := .inl (by omega)
    have hchar : (Char.ofNat b.toNat).toNat = b.toNat := by
      rw [Char.ofNat, dif_pos hvalid]
      rfl
    have hout : escaped (Char.ofNat b.toNat) = false := by
      rw [Bool.eq_false_iff]
      intro h
      have hcode := hbyte _ h
      rw [hchar] at hcode
      omega
    rw [hout, eq_comm, Bool.eq_false_iff]
    exact fun h => hc (hbyte c h)

theorem escapeBytes_eq_self {escaped : UInt8 → Bool} {bytes : List UInt8}
    (h : ∀ b ∈ bytes, escaped b = false) : escapeBytes escaped bytes = bytes := by
  induction bytes with
  | nil => rfl
  | cons b bytes ih =>
    obtain ⟨hb, hbytes⟩ := List.forall_mem_cons.1 h
    rw [escapeBytes_cons, hb, ih hbytes]
    rfl

/-- Escaping characters of one byte is escaping bytes. -/
theorem encode_escape (hbyte : ∀ c, escaped c = true → c.toNat < 0x80) (s : List Char) :
    Utf8.encode (escape escaped s) =
      escapeBytes (fun b => escaped (Char.ofNat b.toNat)) (Utf8.encode s) := by
  induction s with
  | nil => rfl
  | cons c s ih =>
    have hencode : Utf8.encode (c :: s) = Utf8.encodeChar c ++ Utf8.encode s := List.flatMap_cons
    have hclass : ∀ b ∈ Utf8.encodeChar c, escaped (Char.ofNat b.toNat) = escaped c :=
      fun b hb => escaped_of_mem_encodeChar hbyte hb
    rw [escape_cons, Utf8.encode_append, ih, hencode, escapeBytes_append]
    congr 1
    cases hc : escaped c with
    | true =>
      have hlow := hbyte c hc
      have hone : Utf8.encodeChar c = [UInt8.ofNat c.toNat] := Utf8.encodeChar_of_lt hlow
      have hin : escaped (Char.ofNat (UInt8.ofNat c.toNat).toNat) = true :=
        (hclass _ (hone ▸ List.mem_singleton_self _)).trans hc
      rw [if_pos rfl, encode_octalEscape hlow, hone, escapeBytes_cons, if_pos hin]
      exact (List.append_nil _).symm
    | false =>
      rw [escapeBytes_eq_self fun b hb => (hclass b hb).trans hc]
      exact List.flatMap_singleton _ _

/-- Escapes of one-byte characters are undone, if the character that starts one is among them. -/
theorem unescape_escape (hback : escaped '\\' = true)
    (hbyte : ∀ c, escaped c = true → c.toNat < 0x80) (s : List Char) :
    unescape (escape escaped s) = s := by
  rw [unescape, encode_escape hbyte, unescapeBytes_escapeBytes hback, Utf8.decodeLossy_encode]

theorem escapeAt?_eq_some_iff {s : List UInt8} :
    escapeAt? s = some (value, rest) ↔
      ∃ d₁ d₂ d₃, s = backslash :: d₁ :: d₂ :: d₃ :: rest ∧ octal? d₁ d₂ d₃ = some value := by
  constructor
  · intro h
    match s with
    | [] | [_] | [_, _] | [_, _, _] => cases h
    | b :: d₁ :: d₂ :: d₃ :: later =>
      rw [escapeAt?] at h
      split at h
      · rename_i hb
        obtain ⟨found, hfound, hpair⟩ := Option.map_eq_some_iff.1 h
        obtain ⟨rfl, rfl⟩ := Prod.mk.inj hpair
        exact ⟨d₁, d₂, d₃, by rw [hb], hfound⟩
      · cases h
  · rintro ⟨d₁, d₂, d₃, rfl, hvalue⟩
    rw [escapeAt?, if_pos rfl, hvalue, Option.map_some]

/-- One turn of the scan of a field: the byte that is read at a position, and the position behind
what it is read from. There is none if a byte outside of the field would be looked at. -/
def turn? (field : List UInt8) (i : Nat) : Option (UInt8 × Nat) := do
  let b ← field[i]?
  if b = backslash ∧ i + 3 < field.length then
    match octal? (← field[i + 1]?) (← field[i + 2]?) (← field[i + 3]?) with
    | some value => return (value, i + 4)
    | none => return (b, i + 1)
  else return (b, i + 1)

/-- The scan of a field from a position on ends and puts out some bytes. -/
inductive Scans (field : List UInt8) : Nat → List UInt8 → Prop
  | done {i : Nat} (h : field.length ≤ i) : Scans field i []
  | turn {i j : Nat} {b : UInt8} {out : List UInt8} (hi : i < field.length)
      (h : turn? field i = some (b, j)) (hlater : Scans field j out) : Scans field i (b :: out)

/-- What is read at a position is read of the bytes from there on. -/
theorem turn?_eq {i : Nat} (hdrop : field.drop i = b :: tail) :
    turn? field i =
      match escapeAt? (b :: tail) with
      | some (value, _) => some (value, i + 4)
      | none => some (b, i + 1) := by
  have hget (k : Nat) : field[i + k]? = (b :: tail)[k]? := by rw [← hdrop, List.getElem?_drop]
  have hlength : field.length = i + (tail.length + 1) := by
    have h := congrArg List.length hdrop
    rw [List.length_drop, List.length_cons] at h
    omega
  have hfirst : field[i]? = some b := hget 0
  rw [turn?, hfirst, hget 1, hget 2, hget 3, hlength]
  match tail with
  | [] | [_] | [_, _] => simp [escapeAt?]
  | d₁ :: d₂ :: d₃ :: rest =>
    by_cases hb : b = backslash
    · simp [escapeAt?, hb]
      cases octal? d₁ d₂ d₃ <;> rfl
    · simp [escapeAt?, hb]

/-- A turn looks at no byte outside of the field and leaves at least one byte behind. -/
theorem turn?_advances {i : Nat} (hi : i < field.length) :
    ∃ b j, turn? field i = some (b, j) ∧ i < j ∧ j ≤ field.length ∧
      unescapeBytes (field.drop i) = b :: unescapeBytes (field.drop j) := by
  have hne : field.drop i ≠ [] := by
    rw [ne_eq, List.drop_eq_nil_iff]
    omega
  obtain ⟨b, tail, hdrop⟩ := List.exists_cons_of_ne_nil hne
  rw [turn?_eq hdrop, hdrop, unescapeBytes_cons]
  cases hescape : escapeAt? (b :: tail) with
  | none =>
    have htail : field.drop (i + 1) = tail := by rw [← List.drop_drop, hdrop]; rfl
    exact ⟨b, i + 1, rfl, by omega, hi, by rw [htail]⟩
  | some found =>
    obtain ⟨value, rest⟩ := found
    obtain ⟨d₁, d₂, d₃, hsplit, -⟩ := escapeAt?_eq_some_iff.1 hescape
    have hrest : field.drop (i + 4) = rest := by rw [← List.drop_drop, hdrop, hsplit]; rfl
    have hlength := congrArg List.length (hdrop.trans hsplit)
    simp only [List.length_drop, List.length_cons] at hlength
    exact ⟨value, i + 4, rfl, by omega, by omega, by rw [hrest]⟩

/-- The scan ends, with what is read of the bytes from its position on. -/
theorem scans_iff {i : Nat} : Scans field i out ↔ out = unescapeBytes (field.drop i) := by
  constructor
  · intro hscans
    induction hscans with
    | done h => rw [List.drop_eq_nil_of_le h, unescapeBytes]
    | turn hi h _ ih =>
      obtain ⟨b, j, hturn, -, -, hread⟩ := turn?_advances hi
      obtain ⟨rfl, rfl⟩ := Prod.mk.inj (Option.some.inj (h.symm.trans hturn))
      rw [hread, ih]
  · rintro rfl
    -- on what is left of the field
    induction hleft : field.length - i using Nat.strongRecOn generalizing i with
    | ind left ih =>
      rcases Nat.lt_or_ge i field.length with hi | hi
      · obtain ⟨b, j, hturn, hij, hj, hread⟩ := turn?_advances hi
        rw [hread]
        exact .turn hi hturn (ih (field.length - j) (by omega) rfl)
      · rw [List.drop_eq_nil_of_le hi, unescapeBytes]
        exact .done hi

/-- A byte that stands in no escape behind the backslash: neither an octal digit nor a plus sign. -/
def NoOctal (b : UInt8) : Prop :=
  b.toNat ≠ 0x2B ∧ (b.toNat < 0x30 ∨ 0x37 < b.toNat)

instance (b : UInt8) : Decidable (NoOctal b) :=
  inferInstanceAs (Decidable (_ ∧ _))

variable {d₁ d₂ d₃ : UInt8}

theorem NoOctal.octalDigit? (h : NoOctal b) : octalDigit? b = none := by
  obtain ⟨-, hrange⟩ := h
  exact if_neg (by omega)

theorem octal?_of_noOctal (h : ∃ d ∈ [d₁, d₂, d₃], NoOctal d) : octal? d₁ d₂ d₃ = none := by
  obtain ⟨d, hd, hno⟩ := h
  simp only [List.mem_cons, List.not_mem_nil, or_false] at hd
  rcases hd with rfl | rfl | rfl
  · rw [octal?, if_neg hno.1, hno.octalDigit?]
    rfl
  · simp [octal?, hno.octalDigit?]
  · simp [octal?, hno.octalDigit?]

/-- Three bytes behind a backslash that make up no escape: one of them is neither an octal digit nor
a plus sign, or they are octal digits of a number above 255. -/
def Refused (d₁ d₂ d₃ : UInt8) : Prop :=
  (∃ d ∈ [d₁, d₂, d₃], NoOctal d) ∨
    ∃ high < 8, ∃ middle < 8, ∃ low < 8, d₁ = octalByte high ∧ d₂ = octalByte middle ∧
      d₃ = octalByte low ∧ 255 < high * 64 + middle * 8 + low

theorem Refused.octal? (h : Refused d₁ d₂ d₃) : octal? d₁ d₂ d₃ = none := by
  rcases h with hno | ⟨high, hhigh, middle, hmiddle, low, hlow, rfl, rfl, rfl, hlarge⟩
  · exact octal?_of_noOctal hno
  · rw [octal?_octalByte hhigh hmiddle hlow, if_neg (by omega)]

theorem escapeAt?_append (h : escapeAt? front = some (value, rest)) (behind : List UInt8) :
    escapeAt? (front ++ behind) = some (value, rest ++ behind) := by
  obtain ⟨d₁, d₂, d₃, rfl, hvalue⟩ := escapeAt?_eq_some_iff.1 h
  exact escapeAt?_eq_some_iff.2 ⟨d₁, d₂, d₃, rfl, hvalue⟩

/-- Bytes that start with no escape do not come to start with one by a backslash behind them. -/
theorem escapeAt?_append_backslash (h : escapeAt? (b :: tail) = none) :
    escapeAt? (b :: tail ++ backslash :: rest) = none := by
  rw [Option.eq_none_iff_forall_ne_some]
  rintro ⟨value, later⟩ hescape
  obtain ⟨d₁, d₂, d₃, hsplit, hvalue⟩ := escapeAt?_eq_some_iff.1 hescape
  rw [List.cons_append, List.cons.injEq] at hsplit
  obtain ⟨rfl, hbehind⟩ := hsplit
  have hback : NoOctal backslash := by decide
  have hclear : backslash ∉ [d₁, d₂, d₃] := fun hmem =>
    absurd (hvalue.symm.trans (octal?_of_noOctal ⟨backslash, hmem, hback⟩)) (by simp)
  match tail with
  | [] | [_] | [_, _] =>
    simp only [List.nil_append, List.cons_append, List.cons.injEq] at hbehind
    simp [hbehind] at hclear
  | t₁ :: t₂ :: t₃ :: tail =>
    simp only [List.cons_append, List.cons.injEq] at hbehind
    obtain ⟨rfl, rfl, rfl, -⟩ := hbehind
    rw [escapeAt?, if_pos rfl, hvalue] at h
    cases h

/-- No escape reaches across a backslash, so what is in front of one is read by itself. -/
theorem unescapeBytes_append_backslash (front rest : List UInt8) :
    unescapeBytes (front ++ backslash :: rest) =
      unescapeBytes front ++ unescapeBytes (backslash :: rest) := by
  -- on the length, because an escape takes four bytes off the front
  induction hlength : front.length using Nat.strongRecOn generalizing front with
  | ind n ih =>
    cases front with
    | nil => rfl
    | cons b tail =>
      rw [List.length_cons] at hlength
      rw [List.cons_append, unescapeBytes_cons, unescapeBytes_cons, ← List.cons_append]
      cases hescape : escapeAt? (b :: tail) with
      | none =>
        rw [escapeAt?_append_backslash hescape]
        exact congrArg (b :: ·) (ih tail.length (by omega) tail rfl)
      | some found =>
        obtain ⟨value, later⟩ := found
        obtain ⟨d₁, d₂, d₃, hsplit, -⟩ := escapeAt?_eq_some_iff.1 hescape
        have hshort := congrArg List.length hsplit
        simp only [List.length_cons] at hshort
        rw [escapeAt?_append hescape]
        exact congrArg (value :: ·) (ih later.length (by omega) later rfl)

/-- The characters that would break a line of the kernel or start an escape or a comment in it. -/
def reserved : List Char := [' ', '\t', '\n', '\\', '#']

theorem toNat_lt_of_reserved (h : decide (c ∈ reserved) = true) : c.toNat < 0x80 := by
  have hall : ∀ d ∈ reserved, d.toNat < 0x80 := by simp [reserved]
  exact hall c (of_decide_eq_true h)

/-- The reserved characters are told by their bytes. -/
theorem reserved_byte (b : UInt8) :
    decide (Char.ofNat b.toNat ∈ reserved) = decide (b ∈ Utf8.encode reserved) := by
  have hall : ∀ n < 256, decide (Char.ofNat n ∈ reserved) =
      decide (UInt8.ofNat n ∈ Utf8.encode reserved) := by
    decide +kernel
  rw [hall b.toNat b.toNat_lt, UInt8.ofNat_toNat]

/-- Text with the reserved characters written as escapes, byte for byte, is read as it was. The scan
of any field looks at no byte outside of it, leaves at least one byte behind with every turn and so
ends, with what is read of the field. A backslash stays as it is in front of three bytes that make
up no escape, and in front of fewer than three. -/
theorem escapes_undone :
    (∀ s : List Char,
      Utf8.encode (escape (· ∈ reserved) s) =
        escapeBytes (· ∈ Utf8.encode reserved) (Utf8.encode s) ∧
      unescape (escape (· ∈ reserved) s) = s) ∧
    (∀ (field : List UInt8) (i : Nat), i < field.length →
      ∃ b j, turn? field i = some (b, j) ∧ i < j ∧ j ≤ field.length) ∧
    (∀ field out, Scans field 0 out ↔ out = unescapeBytes field) ∧
    (∀ front d₁ d₂ d₃ rest, Refused d₁ d₂ d₃ →
      unescapeBytes (front ++ backslash :: d₁ :: d₂ :: d₃ :: rest) =
        unescapeBytes front ++ backslash :: unescapeBytes (d₁ :: d₂ :: d₃ :: rest)) ∧
    ∀ front rest, rest.length < 3 →
      unescapeBytes (front ++ backslash :: rest) = unescapeBytes front ++ backslash :: rest := by
  refine ⟨fun s => ⟨?_, ?_⟩, fun field i hi => ?_, fun field out => scans_iff,
    fun front d₁ d₂ d₃ rest hrefused => ?_, fun front rest hshort => ?_⟩
  · rw [encode_escape (fun c => toNat_lt_of_reserved)]
    simp only [reserved_byte]
  · exact unescape_escape rfl (fun c => toNat_lt_of_reserved) s
  · obtain ⟨b, j, hturn, hij, hj, -⟩ := turn?_advances hi
    exact ⟨b, j, hturn, hij, hj⟩
  · rw [unescapeBytes_append_backslash, unescapeBytes_cons backslash, escapeAt?, if_pos rfl,
      hrefused.octal?]
    rfl
  · rw [unescapeBytes_append_backslash]
    match rest with
    | [] | [_] | [_, _] => rfl

/-- A text with escapes next to each other, to digits and to a character of two bytes is read as it
was; a number above 255, a digit eight, a character of two bytes and the end of the field make up no
escape behind a backslash. -/
theorem crowded_escapes_undone :
    unescape "\\134040\\040\\043é\\134".toList = "\\040 #é\\".toList ∧
      (∃ b j, turn? (Utf8.encode "\\7é".toList) 0 = some (b, j) ∧ 0 < j ∧ j ≤ 4) ∧
      Scans (Utf8.encode "\\7é".toList) 0 (Utf8.encode "\\7é".toList) ∧
      (Refused 0x37 0x37 0x37 ∧ Refused 0x30 0x38 0x31 ∧ Refused 0x37 0xC3 0xA9) ∧
      unescapeBytes (Utf8.encode "\\040\\777".toList) = Utf8.encode " \\777".toList ∧
      unescapeBytes (Utf8.encode "\\040\\04".toList) = Utf8.encode " \\04".toList := by
  obtain ⟨hundone, hturn, hscans, hrefused, htruncated⟩ := escapes_undone
  have hlarge : Refused 0x37 0x37 0x37 :=
    .inr ⟨7, by decide, 7, by decide, 7, by decide, rfl, rfl, rfl, by decide⟩
  refine ⟨(hundone "\\040 #é\\".toList).2, hturn _ 0 (by decide), (hscans _ _).2 rfl,
    ⟨hlarge, .inl (by decide), .inl (by decide)⟩, ?_, ?_⟩
  · exact hrefused (Utf8.encode "\\040".toList) _ _ _ [] hlarge
  · exact htruncated (Utf8.encode "\\040".toList) (Utf8.encode "04".toList) (by decide)

end DriverHandover.Mounts
