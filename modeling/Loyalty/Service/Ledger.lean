import Loyalty.Service.Orders

/-!
# Loyalty.Service.Ledger

Balances and spending from them.

What is asked for is checked before the stores are asked: the number is given,
the amount is positive and has no fractions of a cent, and the number is one.
Whether the balance covers the amount is for the store to say, in the one step
that also debits it.
-/

namespace Loyalty.Ledger

open UseCase

/-- The balance of a user. -/
def balance (userId : UserId) : UseCase Balance := call (.balance userId) fun b => .done (.ok b)

/-- An amount spent by a user on the order that a text names. -/
def withdraw (userId : UserId) (raw : String) (amount : Points) : UseCase Withdrawal :=
  require (Orders.ensureNumber raw) fun _ =>
  require (ensurePositive amount) fun _ =>
  require (ensureCents amount) fun _ =>
  require (OrderNumber.parse raw) fun number =>
  call (.debit userId number amount) fun withdrawal => .done (.ok withdrawal)

/-- The withdrawals of a user, newest first. -/
def withdrawals (userId : UserId) : UseCase (List Withdrawal) :=
  call (.listWithdrawals userId) fun list => .done (.ok list)

end Loyalty.Ledger
