import Loyalty.Error
import Loyalty.Order

/-!
# Loyalty.Accrual.Outcome

What the accrual service says about an order.
-/

namespace Loyalty.Accrual

/-- An answer of the accrual service. -/
inductive Outcome
  /-- The order is known; the accrual is whatever was reported. -/
  | registered (status : OrderStatus) (accrual : Option Points)
  /-- The order is not known yet. -/
  | notRegistered
  /-- Nothing is answered for a number of milliseconds. -/
  | throttled (ms : Nat)
  deriving DecidableEq

end Loyalty.Accrual
