import DriverHandover.Text.Utf8

/-!
# Reading text back from its bytes

A character is written in one to four bytes. Each of these forms is told by its first byte, and the
bytes behind it are no more and no less than the ones that are written.

## Main statements

* `Utf8.sequences_encodeChar_append` – a character is read off the front of what is written.
* `Utf8.decodeLossy_encode` – text is read back from its bytes.
-/

namespace DriverHandover.Utf8

variable {n k : Nat} {c : Char} {rest : List UInt8}

/-- The bound is written out, so that it can be decided. -/
theorem toNat_ofNat (h : k < 256) : (UInt8.ofNat k).toNat = k :=
  UInt8.toNat_ofNat_of_lt' h

theorem within_ofNat {low high : Nat} (h : k < 256) :
    within low high (UInt8.ofNat k) = true ↔ low ≤ k ∧ k ≤ high := by
  rw [within, toNat_ofNat h, Bool.and_eq_true, decide_eq_true_eq, decide_eq_true_eq]

theorem isContinuation_ofNat (h : k < 64) : isContinuation (UInt8.ofNat (0x80 + k)) = true :=
  (within_ofNat (by omega)).2 (by omega)

theorem payload_ofNat (h : k < 64) : payload (UInt8.ofNat (0x80 + k)) = k := by
  have hbyte : (UInt8.ofNat (0x80 + k)).toNat = 0x80 + k := toNat_ofNat (by omega)
  unfold payload
  omega

/-- The second byte of a character of three bytes may follow the first. -/
theorem mayFollow_three (hlow : 0x800 ≤ n) (hhigh : n < 0x10000)
    (hvalid : n < 0xD800 ∨ 0xDFFF < n) :
    mayFollow (UInt8.ofNat (0xE0 + n / 4096)) (UInt8.ofNat (0x80 + n / 64 % 64)) = true := by
  rw [mayFollow, toNat_ofNat (by omega)]
  generalize hfirst : 0xE0 + n / 4096 = first
  split
  all_goals exact (within_ofNat (by omega)).2 (by omega)

/-- The second byte of a character of four bytes may follow the first. -/
theorem mayFollow_four (hlow : 0x10000 ≤ n) (hhigh : n < 0x110000) :
    mayFollow (UInt8.ofNat (0xF0 + n / 262144)) (UInt8.ofNat (0x80 + n / 4096 % 64)) = true := by
  rw [mayFollow, toNat_ofNat (by omega)]
  generalize hfirst : 0xF0 + n / 262144 = first
  split
  all_goals exact (within_ofNat (by omega)).2 (by omega)

theorem decodeOne_one (h : n < 0x80) :
    decodeOne (UInt8.ofNat n) rest = (some (Char.ofNat n), rest) := by
  simp only [decodeOne, toNat_ofNat (show n < 256 by omega), h, if_true]

theorem decodeOne_two (hlow : 0x80 ≤ n) (hhigh : n < 0x800) :
    decodeOne (UInt8.ofNat (0xC0 + n / 64)) (UInt8.ofNat (0x80 + n % 64) :: rest) =
      (some (Char.ofNat n), rest) := by
  have hfirst : 0xC0 + n / 64 < 256 := by omega
  have hlast : n % 64 < 64 := Nat.mod_lt _ (by omega)
  have hvalue : (0xC0 + n / 64 - 0xC0) * 64 + n % 64 = n := by omega
  simp only [decodeOne, toNat_ofNat hfirst]
  rw [if_neg (by omega), if_pos ((within_ofNat hfirst).2 (by omega)),
    if_pos (isContinuation_ofNat hlast), payload_ofNat hlast, hvalue]

theorem decodeOne_three (hlow : 0x800 ≤ n) (hhigh : n < 0x10000)
    (hvalid : n < 0xD800 ∨ 0xDFFF < n) :
    decodeOne (UInt8.ofNat (0xE0 + n / 4096))
        (UInt8.ofNat (0x80 + n / 64 % 64) :: UInt8.ofNat (0x80 + n % 64) :: rest) =
      (some (Char.ofNat n), rest) := by
  have hfirst : 0xE0 + n / 4096 < 256 := by omega
  have hsecond : n / 64 % 64 < 64 := Nat.mod_lt _ (by omega)
  have hlast : n % 64 < 64 := Nat.mod_lt _ (by omega)
  have hvalue : (0xE0 + n / 4096 - 0xE0) * 4096 + n / 64 % 64 * 64 + n % 64 = n := by omega
  simp only [decodeOne, toNat_ofNat hfirst]
  rw [if_neg (by omega), if_neg (by rw [within_ofNat hfirst]; omega),
    if_pos ((within_ofNat hfirst).2 (by omega)), if_pos (mayFollow_three hlow hhigh hvalid),
    if_pos (isContinuation_ofNat hlast), payload_ofNat hsecond, payload_ofNat hlast, hvalue]

theorem decodeOne_four (hlow : 0x10000 ≤ n) (hhigh : n < 0x110000) :
    decodeOne (UInt8.ofNat (0xF0 + n / 262144))
        (UInt8.ofNat (0x80 + n / 4096 % 64) :: UInt8.ofNat (0x80 + n / 64 % 64) ::
          UInt8.ofNat (0x80 + n % 64) :: rest) =
      (some (Char.ofNat n), rest) := by
  have hfirst : 0xF0 + n / 262144 < 256 := by omega
  have hsecond : n / 4096 % 64 < 64 := Nat.mod_lt _ (by omega)
  have hthird : n / 64 % 64 < 64 := Nat.mod_lt _ (by omega)
  have hlast : n % 64 < 64 := Nat.mod_lt _ (by omega)
  have hvalue : (0xF0 + n / 262144 - 0xF0) * 262144 + n / 4096 % 64 * 4096 + n / 64 % 64 * 64 +
      n % 64 = n := by omega
  simp only [decodeOne, toNat_ofNat hfirst]
  rw [if_neg (by omega), if_neg (by rw [within_ofNat hfirst]; omega),
    if_neg (by rw [within_ofNat hfirst]; omega), if_pos ((within_ofNat hfirst).2 (by omega)),
    if_pos (mayFollow_four hlow hhigh), if_pos (isContinuation_ofNat hthird),
    if_pos (isContinuation_ofNat hlast), payload_ofNat hsecond, payload_ofNat hthird,
    payload_ofNat hlast, hvalue]

theorem sequences_cons (first : UInt8) (rest : List UInt8) :
    sequences (first :: rest) = (decodeOne first rest).1 :: sequences (decodeOne first rest).2 := by
  rw [sequences]

/-- What is written of a character is read as that character. -/
theorem sequences_encodeChar_append (c : Char) (rest : List UInt8) :
    sequences (encodeChar c ++ rest) = some c :: sequences rest := by
  have hvalid : c.toNat < 0xD800 ∨ 0xDFFF < c.toNat ∧ c.toNat < 0x110000 := c.valid
  have hchar : Char.ofNat c.toNat = c := Char.ofNat_toNat c
  rw [encodeChar]
  generalize c.toNat = n at *
  dsimp only
  split
  · rw [List.cons_append, sequences_cons, decodeOne_one (by assumption), hchar, List.nil_append]
  split
  · simp only [List.cons_append, List.nil_append]
    rw [sequences_cons, decodeOne_two (by omega) (by assumption), hchar]
  split
  · simp only [List.cons_append, List.nil_append]
    rw [sequences_cons, decodeOne_three (by omega) (by assumption) (by omega), hchar]
  · simp only [List.cons_append, List.nil_append]
    rw [sequences_cons, decodeOne_four (by omega) (by omega), hchar]

theorem encodeChar_of_lt (h : c.toNat < 0x80) : encodeChar c = [UInt8.ofNat c.toNat] := by
  rw [encodeChar]
  exact if_pos h

/-- All bytes of a character that is not in ASCII lie outside of it. -/
theorem le_of_mem_encodeChar {b : UInt8} (h : 0x80 ≤ c.toNat) (hb : b ∈ encodeChar c) :
    0x80 ≤ b.toNat := by
  have hvalid : c.toNat < 0xD800 ∨ 0xDFFF < c.toNat ∧ c.toNat < 0x110000 := c.valid
  have hlarge (k : Nat) (hk : 0x80 ≤ k ∧ k < 256) : 0x80 ≤ (UInt8.ofNat k).toNat := by
    rw [toNat_ofNat hk.2]
    exact hk.1
  rw [encodeChar] at hb
  generalize c.toNat = n at *
  dsimp only at hb
  rw [if_neg (by omega)] at hb
  split at hb
  · simp only [List.mem_cons, List.not_mem_nil, or_false] at hb
    rcases hb with rfl | rfl <;> exact hlarge _ (by omega)
  split at hb
  · simp only [List.mem_cons, List.not_mem_nil, or_false] at hb
    rcases hb with rfl | rfl | rfl <;> exact hlarge _ (by omega)
  · simp only [List.mem_cons, List.not_mem_nil, or_false] at hb
    rcases hb with rfl | rfl | rfl | rfl <;> exact hlarge _ (by omega)

theorem encode_append (s t : List Char) : encode (s ++ t) = encode s ++ encode t :=
  List.flatMap_append

theorem sequences_encode (s : List Char) : sequences (encode s) = s.map some := by
  induction s with
  | nil => rw [encode, List.flatMap_nil, sequences, List.map_nil]
  | cons c s ih =>
    rw [encode, List.flatMap_cons, sequences_encodeChar_append, ← encode, ih, List.map_cons]

/-- Text is read back from its bytes. -/
theorem decodeLossy_encode (s : List Char) : decodeLossy (encode s) = s := by
  rw [decodeLossy, sequences_encode, List.map_map]
  exact List.map_id s

end DriverHandover.Utf8
