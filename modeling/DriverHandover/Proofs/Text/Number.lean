import DriverHandover.Text.Number

/-!
# The numbers that are read

A reader of numbers looks at one digit after the other and stops where the bound is passed. Since a
further digit never makes a number smaller, a text is read exactly if it denotes a number below the
bound, with any number of leading zeros.

## Main definitions

* `Number.DigitsOf` – the number that decimal digits denote.
* `Number.Denotes` – the number that a text denotes, with or without a plus sign.

## Main statements

* `Number.readUnsigned_eq_ok_iff` – which texts are read, and as what.
* `Number.denotes_toDigits` – a number is denoted by its digits.
-/

namespace DriverHandover.Number

/-- The number that decimal digits denote, of which there is at least one. -/
def DigitsOf (digits : List Char) (n : Nat) : Prop :=
  digits ≠ [] ∧ (∀ c ∈ digits, c.isDigit = true) ∧ n = Nat.ofDigitChars 10 digits 0

/-- The number that a text denotes: decimal digits, with at most one plus sign in front of them. -/
def Denotes (s : List Char) (n : Nat) : Prop :=
  DigitsOf s n ∨ ∃ digits, s = '+' :: digits ∧ DigitsOf digits n

variable {bound n value : Nat} {c : Char} {s : List Char}

theorem digit?_of_isDigit (h : c.isDigit = true) : digit? c = some (c.toNat - '0'.toNat) := by
  rw [Char.isDigit_iff_toNat] at h
  rw [digit?, if_pos]
  exact h

theorem digit?_of_not_isDigit (h : c.isDigit = false) : digit? c = none := by
  rw [← Bool.not_eq_true, Char.isDigit_iff_toNat] at h
  rw [digit?, if_neg]
  exact h

/-- Further digits never make a number smaller. -/
theorem le_ofDigitChars (digits : List Char) (value : Nat) :
    value ≤ Nat.ofDigitChars 10 digits value := by
  induction digits generalizing value with
  | nil => exact Nat.le_of_eq Nat.ofDigitChars_nil.symm
  | cons c digits ih =>
    rw [Nat.ofDigitChars_cons]
    have hstep := ih (10 * value + (c.toNat - '0'.toNat))
    omega

theorem readDigits_eq_ok_iff (hvalue : value < bound) :
    readDigits bound value s = .ok n ↔
      (∀ c ∈ s, c.isDigit = true) ∧ n = Nat.ofDigitChars 10 s value ∧ n < bound := by
  induction s generalizing value with
  | nil =>
    rw [readDigits, Except.ok.injEq, Nat.ofDigitChars_nil]
    constructor
    · rintro rfl
      exact ⟨List.forall_mem_nil _, rfl, hvalue⟩
    · rintro ⟨-, rfl, -⟩
      rfl
  | cons c s ih =>
    rw [readDigits, List.forall_mem_cons, Nat.ofDigitChars_cons, Nat.mul_comm 10 value]
    cases hc : c.isDigit with
    | false =>
      rw [digit?_of_not_isDigit hc]
      exact iff_of_false (by simp) (by simp)
    | true =>
      rw [digit?_of_isDigit hc]
      dsimp only
      split
      · rename_i hlt
        rw [ih hlt]
        simp
      · rename_i hge
        refine iff_of_false (by simp) ?_
        rintro ⟨-, rfl, hlt⟩
        have hstep := le_ofDigitChars s (value * 10 + (c.toNat - '0'.toNat))
        omega

theorem denotes_plus_iff : Denotes ('+' :: s) n ↔ DigitsOf s n := by
  constructor
  · rintro (⟨-, hdigits, -⟩ | ⟨digits, hsplit, hdigits⟩)
    · exact absurd (hdigits '+' List.mem_cons_self) (by decide)
    · rwa [(List.cons.inj hsplit).2]
  · exact fun h => .inr ⟨s, rfl, h⟩

theorem denotes_iff_of_no_plus (h : ∀ rest, s ≠ '+' :: rest) : Denotes s n ↔ DigitsOf s n :=
  or_iff_left fun ⟨digits, hsplit, _⟩ => h digits hsplit

theorem readDigits_eq_ok_iff_digitsOf (hbound : 0 < bound) (hne : s ≠ []) :
    readDigits bound 0 s = .ok n ↔ DigitsOf s n ∧ n < bound := by
  rw [readDigits_eq_ok_iff hbound, DigitsOf, and_iff_right hne, and_assoc]

/-- A text is read exactly if it denotes a number below the bound. -/
theorem readUnsigned_eq_ok_iff (hbound : 0 < bound) :
    readUnsigned bound s = .ok n ↔ Denotes s n ∧ n < bound := by
  unfold readUnsigned
  split
  · rw [denotes_iff_of_no_plus (by simp)]
    exact iff_of_false (by simp) fun h => h.1.1 rfl
  · rw [denotes_plus_iff]
    exact iff_of_false (by simp) fun h => h.1.1 rfl
  · rename_i rest hne
    rw [denotes_plus_iff, readDigits_eq_ok_iff_digitsOf hbound hne]
  · rename_i hne _ hplus
    rw [denotes_iff_of_no_plus hplus, readDigits_eq_ok_iff_digitsOf hbound hne]

theorem readUInt64_eq_ok_iff : readUInt64 s = .ok n ↔ Denotes s n ∧ n < UInt64.size :=
  readUnsigned_eq_ok_iff (by decide)

theorem readUInt32_eq_ok_iff : readUInt32 s = .ok n ↔ Denotes s n ∧ n < UInt32.size :=
  readUnsigned_eq_ok_iff (by decide)

theorem denotes_toDigits (n : Nat) : Denotes (Nat.toDigits 10 n) n :=
  .inl ⟨Nat.toDigits_ne_nil, fun _ h => Nat.isDigit_of_mem_toDigits (by decide) (by decide) h,
    Nat.ofDigitChars_ten_toDigits.symm⟩

end DriverHandover.Number
