import Loyalty.Balance
import Loyalty.Binary64.Shortest
import Loyalty.Instant.Text
import Loyalty.Json.Basic

/-!
# Loyalty.Document.Response

The documents that clients get.

Amounts are numbers here, written as the shortest text of the binary number
that stands for them, and instants are whole seconds.  A decimal becomes a
binary number in steps that each round: its whole part, its places over a power
of ten, their sum, and that sum brought back to the number of places.
-/

namespace Loyalty

open Json

-- A power is the one of the core library.
attribute [local instance (high)] instPowNat

/-! ## amounts as binary numbers -/

/-- The binary number for a magnitude `whole + frac / 10 ^ scale`. -/
def Decimal.magnitude? (n scale : Nat) : Option Binary64 :=
  if scale = 0 ∨ n % 10 ^ scale = 0 then Binary64.ofNat? (n / 10 ^ scale)
  else do
    let power ← Binary64.ofNat? (10 ^ scale)
    let frac ← (← Binary64.ofNat? (n % 10 ^ scale)).div? power
    let value ← (← Binary64.ofNat? (n / 10 ^ scale)).add? frac
    (← (← value.mul? power).roundHalfUp?).div? power

/-- The binary number for a decimal. -/
def Decimal.toBinary64? (d : Decimal) : Option Binary64 :=
  (magnitude? d.coeff.natAbs d.scale).map fun x => { x with negative := d.isNegative }

/-- The number that shortest digits are written as: with at least one place behind the point from
10⁻⁵ to below 10¹⁶, otherwise with one digit before the point and an exponent. -/
def Json.Number.ofShortest (negative : Bool) (s : Binary64.Shortest) : Json.Number :=
  let digits := Text.Digits.ofNat s.digits
  let magnitude : Int := s.exponent + digits.length
  if s.digits = 0 then ⟨negative, ['0'], ['0'], none⟩
  else if -5 < magnitude ∧ magnitude ≤ 0 then
    ⟨negative, ['0'], List.replicate magnitude.natAbs '0' ++ digits, none⟩
  else if 0 < magnitude ∧ magnitude ≤ 16 then
    let places := digits.drop magnitude.toNat
    ⟨negative, digits.take magnitude.toNat ++ List.replicate s.exponent.toNat '0',
      if places.isEmpty then ['0'] else places, none⟩
  else ⟨negative, digits.take 1, digits.drop 1, some (magnitude - 1)⟩

/-- An amount as a number. -/
def Points.toNumber (amount : Points) : Json :=
  match amount.toBinary64? with
  | some x => .number (.ofShortest x.negative x.shortest)
  | none => .null

/-! ## documents -/

/-- An order as its owner sees it; an accrual that is not known is left out. -/
def Order.response (o : Order) : Json :=
  let accrual := match o.accrual with
    | some amount => [("accrual", Points.toNumber amount)]
    | none => []
  .record ([("number", .text o.number.text), ("status", .text o.status.name)] ++ accrual ++
    [("uploaded_at", .text o.uploadedAt.toSecondsText)])

/-- A balance as its owner sees it. -/
def Balance.response (b : Balance) : Json :=
  .record [("current", Points.toNumber b.current), ("withdrawn", Points.toNumber b.withdrawn)]

/-- A withdrawal as its owner sees it. -/
def Withdrawal.response (w : Withdrawal) : Json :=
  .record [("order", .text w.orderNumber.text), ("sum", Points.toNumber w.sum),
    ("processed_at", .text w.processedAt.toSecondsText)]

end Loyalty
