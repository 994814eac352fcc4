/-!
# Loyalty.Text.Hex

Hexadecimal digits: written in lower case, read in either.
-/

namespace Loyalty.Text.Hex

-- A power is the one of the core library.
attribute [local instance (high)] instPowNat

/-- The lower-case digit of a number below sixteen. -/
def digit (n : Nat) : Char := Nat.digitChar (n % 16)

/-- The value of a digit in either case. -/
def value? (c : Char) : Option Nat :=
  if '0' ≤ c ∧ c ≤ '9' then some (c.toNat - '0'.toNat)
  else if 'a' ≤ c ∧ c ≤ 'f' then some (c.toNat - 'a'.toNat + 10)
  else if 'A' ≤ c ∧ c ≤ 'F' then some (c.toNat - 'A'.toNat + 10)
  else none

/-- A digit written is a digit read. -/
theorem value?_digit {n : Nat} (h : n < 16) : value? (digit n) = some n := by
  have hall : ∀ n : Fin 16, value? (digit n) = some n.val := by decide
  exact hall ⟨n, h⟩

/-- The number that digits write, the most significant first. -/
def number? (cs : List Char) : Option Nat :=
  cs.foldl (fun acc c => do return 16 * (← acc) + (← value? c)) (some 0)

/-- The last `width` digits of a number. -/
def digits (width n : Nat) : List Char :=
  (List.range width).map fun i => digit (n / 16 ^ (width - 1 - i))

end Loyalty.Text.Hex
