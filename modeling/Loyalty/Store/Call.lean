import Loyalty.Balance
import Loyalty.User

/-!
# Loyalty.Store.Call

What is asked of the stores.

The stores keep users, orders, balances and withdrawals.  A call is a value, and
each has its own type of results, so that whatever stands between a use case and
the stores — retries, a server, a script of failures — treats all calls alike.

A login belongs to one user and a number to one order, for good.  Balances of
users of whom nothing is known are zero; a debit and the record of it happen
together or not at all.  Lists of what belongs to a user are newest first,
pending orders are oldest first.
-/

namespace Loyalty

/-- A call of the stores. -/
inductive StoreCall
  | createUser (login passwordHash : String)
  | findByLogin (login : String)
  | createOrder (userId : UserId) (number : OrderNumber)
  | findByNumber (number : OrderNumber)
  | listByUser (userId : UserId)
  /-- All orders whose status is not final. -/
  | listPending
  | updateStatus (number : OrderNumber) (status : OrderStatus) (accrual : Option Points)
  /-- A balance of zero for a user who has none. -/
  | openBalance (userId : UserId)
  | credit (userId : UserId) (amount : Points)
  | debit (userId : UserId) (number : OrderNumber) (amount : Points)
  | balance (userId : UserId)
  | listWithdrawals (userId : UserId)
  deriving DecidableEq

namespace StoreCall

/-- What a call gives when it succeeds. -/
@[reducible] def Value : StoreCall → Type
  | createUser _ _ => User
  | findByLogin _ => Option User
  | createOrder _ _ => Order
  | findByNumber _ => Option Order
  | listByUser _ => List Order
  | listPending => List Order
  | updateStatus _ _ _ => Unit
  | openBalance _ => Unit
  | credit _ _ => Unit
  | debit _ _ _ => Withdrawal
  | balance _ => Balance
  | listWithdrawals _ => List Withdrawal

/-- What a call gives. -/
@[reducible] def Answer (call : StoreCall) : Type := Except StoreError call.Value

/-- The name of what a call does. -/
def name : StoreCall → String
  | createUser _ _ => "create_user"
  | findByLogin _ => "find_by_login"
  | createOrder _ _ => "create_order"
  | findByNumber _ => "find_by_number"
  | listByUser _ => "list_by_user"
  | listPending => "list_pending"
  | updateStatus _ _ _ => "update_status"
  | openBalance _ => "open"
  | credit _ _ => "credit"
  | debit _ _ _ => "debit"
  | balance _ => "balance"
  | listWithdrawals _ => "list_withdrawals"

/-- The user whose things a call is about, if it names one. -/
def user? : StoreCall → Option UserId
  | createOrder userId _ | listByUser userId | openBalance userId | credit userId _
  | debit userId _ _ | balance userId | listWithdrawals userId => some userId
  | createUser _ _ | findByLogin _ | findByNumber _ | listPending | updateStatus _ _ _ => none

end StoreCall

end Loyalty
