import Loyalty.Order

/-!
# Loyalty.Balance

Balances of points and the record of what was withdrawn from them.

`current` can be spent, `withdrawn` is all that was ever spent.  A credit adds
to the one, a debit moves from the one to the other; neither ever exceeds
`Points.max`, and a change that is refused leaves the balance as it was.
-/

namespace Loyalty

namespace Points

/-- The places that amounts of points have. -/
def places : Nat := 2

/-- The largest amount a balance can hold. -/
def max : Points where
  coeff := 999999999999999
  scale := 2

end Points

/-- What a user has and has spent. -/
structure Balance where
  userId : UserId
  current : Points
  withdrawn : Points
  deriving DecidableEq

/-- The record of a debit. -/
structure Withdrawal where
  id : WithdrawalId
  userId : UserId
  orderNumber : OrderNumber
  sum : Points
  processedAt : Instant
  deriving DecidableEq

/-! ## amounts -/

/-- Only positive amounts move. -/
def ensurePositive (amount : Points) : Except DomainError Unit :=
  if amount ≤ Decimal.zero then .error (.validation "amount must be positive") else .ok ()

/-- Amounts have no more places than points have, trailing zeros aside. -/
def ensureCents (amount : Points) : Except DomainError Unit :=
  if Points.places < amount.normalize.scale then
    .error (.validation "amount has more than two decimal places")
  else .ok ()

/-- A sum that a balance can hold. -/
def checkedSum (total amount : Points) : Except DomainError Points :=
  match total.add? amount with
  | some sum => if sum ≤ Points.max then .ok sum else .error (.validation "balance out of range")
  | none => .error (.validation "balance out of range")

/-- The test passes what is above zero. -/
theorem ensurePositive_eq_ok_iff {amount : Points} {u : Unit} :
    ensurePositive amount = .ok u ↔ 0 < amount.coeff := by
  unfold ensurePositive
  split <;> simp_all [Decimal.le_zero_iff]

/-- A sum passes if there is one and it is not beyond the limit of balances. -/
theorem checkedSum_eq_ok_iff {total amount sum : Points} :
    checkedSum total amount = .ok sum ↔ total.add? amount = some sum ∧ sum ≤ Points.max := by
  unfold checkedSum
  split
  · next s hs =>
    split
    · next h =>
      simp only [Except.ok.injEq, hs, Option.some.injEq]
      constructor
      · rintro rfl
        exact ⟨rfl, h⟩
      · exact fun h => h.1
    · next h =>
      simp only [reduceCtorEq, hs, Option.some.injEq, false_iff, not_and]
      rintro rfl
      exact h
  · next hs => simp [hs]

/-! ## changes -/

namespace Balance

/-- The balance of a user to whom nothing happened. -/
def zero (userId : UserId) : Balance := { userId, current := .zero, withdrawn := .zero }

/-- An amount added to what can be spent. -/
def credit (b : Balance) (amount : Points) : Except DomainError Balance := do
  ensurePositive amount
  let current ← checkedSum b.current amount
  return { b with current }

/-- The difference of two amounts, zero where there is none. An amount that is covered always
leaves one. -/
def remaining (current amount : Points) : Points := (current.sub? amount).getD .zero

/-- An amount moved from what can be spent to what was spent. -/
def debit (b : Balance) (amount : Points) : Except DomainError Balance := do
  ensurePositive amount
  if b.current < amount then .error .insufficientFunds
  else
    let withdrawn ← checkedSum b.withdrawn amount
    return { b with current := remaining b.current amount, withdrawn }

end Balance

end Loyalty
