import Loyalty.Proofs.Memory.Ledger
import Loyalty.Proofs.Memory.Numbers

/-!
# Loyalty.Proofs.Memory.View

What one user sees of the stores.

Orders and withdrawals of all users are kept in one list each, balances in one
table.  A `View` is what the lists and the table come to for one user.  A call
that names another user leaves it as it is, as does one that names nobody,
updates of the status of an order aside (`view_step`).
-/

namespace Loyalty.Store.Memory

/-- What a user sees of the stores. -/
structure View where
  balance : Balance
  orders : List Order
  withdrawals : List Withdrawal

/-- What a user sees of a state. -/
def State.view (s : State) (u : UserId) : View where
  balance := s.balanceOf u
  orders := s.ordersOf u
  withdrawals := s.withdrawalsOf u

/-- Whether an order has a number, and then whether a user owns it. -/
def State.owned? (s : State) (u : UserId) (n : OrderNumber) : Option Bool :=
  (s.order? n).map fun o => decide (o.userId = u)

section

variable {s s' : State} {e : Event} {a : UserId}

/-- What another user moves is not in this user's balance. -/
theorem Moves.balanceOf_eq (h : Moves s e s') (hother : e.call.user? ≠ some a) :
    s'.balanceOf a = s.balanceOf a := by
  cases h with
  | nothing _ hbalances _ => exact hbalances a
  | credit _ hbalances _ =>
      rw [hbalances]
      exact if_neg fun heq => hother (congrArg some heq)
  | debit _ hbalances _ _ =>
      rw [hbalances]
      exact if_neg fun heq => hother (congrArg some heq)

/-- What another user withdraws is not in this user's list. -/
theorem Moves.withdrawalsOf_eq (h : Moves s e s') (hother : e.call.user? ≠ some a) :
    s'.withdrawalsOf a = s.withdrawalsOf a := by
  unfold State.withdrawalsOf
  cases h with
  | nothing _ _ hwithdrawals => rw [hwithdrawals]
  | credit _ _ hwithdrawals => rw [hwithdrawals]
  | @debit u _ _ _ w _ _ _ hwithdrawals hrecord =>
      have hne : w.userId ≠ a := by
        rw [hrecord.1]
        exact fun heq => hother (congrArg some heq)
      rw [hwithdrawals, List.reverse_append]
      simp [hne]

/-- What another user submits is not in this user's list. -/
theorem Files.ordersOf_eq (h : Files s e s') (hother : e.call.user? ≠ some a)
    (hcall : ∀ n status accrual, e.call ≠ .updateStatus n status accrual) :
    s'.ordersOf a = s.ordersOf a := by
  unfold State.ordersOf
  cases h with
  | nothing horders _ => rw [horders]
  | @created u _ o _ _ horder horders _ =>
      have hne : o.userId ≠ a := by
        rw [horder.2.1]
        exact fun heq => hother (congrArg some heq)
      rw [horders, List.reverse_append]
      simp [hne]
  | updated => exact absurd rfl (hcall _ _ _)

end

namespace State

/-- A call that names another user or nobody, and updates no status, leaves what a user sees. -/
theorem view_step (s : State) (stamp : Stamp) {call : StoreCall} {a : UserId}
    (hother : call.user? ≠ some a)
    (hcall : ∀ n status accrual, call ≠ .updateStatus n status accrual) :
    (step stamp s call).2.view a = s.view a := by
  have hmoves := s.moves_step stamp call
  have hfiles := s.files_step stamp call
  unfold view
  rw [hmoves.balanceOf_eq hother, hfiles.ordersOf_eq hother hcall, hmoves.withdrawalsOf_eq hother]

/-- Whether a debit is granted is told by the balance, also where there is none yet. -/
theorem debit_answer (s : State) (stamp : Stamp) (u : UserId) (n : OrderNumber) {amount : Points}
    (hpositive : 0 < amount.coeff) :
    (s.debit stamp u n amount).1.map (fun _ => ()) =
      (((s.balanceOf u).debit amount).mapError StoreError.ofDomain).map fun _ => () := by
  cases hbalance : s.balances.get? u with
  | some balance =>
      simp only [debit, balanceOf, hbalance, Option.getD_some]
      cases balance.debit amount <;> rfl
  | none =>
      have hlt : Decimal.zero < amount := (Decimal.zero_lt_iff amount).mpr hpositive
      have hensure : ensurePositive amount = .ok () := ensurePositive_eq_ok_iff.mpr hpositive
      have hrefused : (Balance.zero u).debit amount = .error .insufficientFunds := by
        unfold Balance.debit
        rw [hensure]
        exact if_pos hlt
      simp only [debit, balanceOf, hbalance, Option.getD_none, hrefused]
      rfl

end State

end Loyalty.Store.Memory
