/-!
# Loyalty.Text.Digits

Natural numbers as decimal digits.

`ofNat` writes the digits without leading zeros, `padded` with enough of them
to fill a width, and `toNat` reads any digits back.  `nat?` and `unsigned?`
are the two forms in which users and servers write counts: digits alone, or
digits after an optional `+`, of a number of bits; `signed?` takes a minus sign too.
-/

namespace Loyalty.Text.Digits

-- A power is the one of the core library.
attribute [local instance (high)] instPowNat

/-! ## writing -/

/-- The decimal digits of a number, without leading zeros. -/
def ofNat (n : Nat) : List Char := Nat.toDigits 10 n

/-- The decimal digits of a number, with leading zeros up to a width. -/
def padded (width n : Nat) : List Char :=
  List.replicate (width - (ofNat n).length) '0' ++ ofNat n

/-! ## reading -/

/-- The number that digits write. -/
def toNat (cs : List Char) : Nat := Nat.ofDigitChars 10 cs 0

/-- The number that a non-empty text of digits writes. -/
def nat? (cs : List Char) : Option Nat :=
  if !cs.isEmpty && cs.all Char.isDigit then some (toNat cs) else none

/-- A number of some bits, written in digits after an optional `+`. -/
def unsigned? (bits : Nat) (cs : List Char) : Option Nat :=
  let digits := match cs with
    | '+' :: rest => rest
    | _ => cs
  (nat? digits).filter (· < 2 ^ bits)

/-- A number of some bits besides its sign, in two's complement, written in digits after an optional
sign. -/
def signed? (bits : Nat) (cs : List Char) : Option Int :=
  match cs with
  | '-' :: rest => ((nat? rest).filter (· ≤ 2 ^ bits)).map fun n => -(n : Int)
  | _ => (unsigned? bits cs).map Int.ofNat

/-! ## round trips -/

/-- The value of the digits of a number is the number. -/
@[simp] theorem toNat_ofNat (n : Nat) : toNat (ofNat n) = n :=
  Nat.ofDigitChars_toDigits (by decide) (by decide)

/-- A number is written with digits only. -/
theorem isDigit_of_mem_ofNat {n : Nat} {c : Char} (h : c ∈ ofNat n) : c.isDigit = true :=
  Nat.isDigit_of_mem_toDigits (by decide) (by decide) h

/-- A number is written with at least one digit. -/
theorem ofNat_ne_nil (n : Nat) : ofNat n ≠ [] := Nat.toDigits_ne_nil

/-- Zeros in front are digits too. -/
theorem isDigit_of_mem_padded {width n : Nat} {c : Char} (h : c ∈ padded width n) :
    c.isDigit = true := by
  rcases List.mem_append.1 h with h | h
  · rw [List.eq_of_mem_replicate h]; decide
  · exact isDigit_of_mem_ofNat h

/-- A padded number is written with at least one digit. -/
theorem padded_ne_nil (width n : Nat) : padded width n ≠ [] := by
  simp [padded, ofNat_ne_nil]

/-- A number that fits is as long as its width. -/
theorem length_padded {width n : Nat} (hwidth : 0 < width) (h : n < 10 ^ width) :
    (padded width n).length = width := by
  have hle : (ofNat n).length ≤ width := (Nat.length_toDigits_le_iff (by decide) hwidth).2 h
  rw [padded, List.length_append, List.length_replicate]
  omega

/-- Leading zeros do not change the number. -/
@[simp] theorem toNat_padded (width n : Nat) : toNat (padded width n) = n := by
  have h : ∀ k, Nat.ofDigitChars 10 (List.replicate k '0' ++ ofNat n) 0 =
      Nat.ofDigitChars 10 (ofNat n) 0 := by
    intro k
    induction k with
    | zero => rfl
    | succ k ih => simpa [List.replicate_succ, Nat.ofDigitChars] using ih
  rw [toNat, padded, h]
  exact toNat_ofNat n

end Loyalty.Text.Digits
