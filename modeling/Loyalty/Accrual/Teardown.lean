import Loyalty.Program

/-!
# Loyalty.Accrual.Teardown

How the work in the background is stopped.

The worker writes through the stores, and the retries of the stores end at a
signal of their own.  The worker is stopped first: were the stores told while a
pass is under way, an order could be left processed and not credited.
-/

namespace Loyalty.Accrual.Teardown

/-- What stopping asks of its surroundings. -/
inductive Question
  /-- The worker's signal is fired. -/
  | tellWorker
  /-- The worker has ended, and with it the pass that was under way. -/
  | join
  /-- The signal is fired that ends the retries of the stores. -/
  | tellStores
  deriving DecidableEq

/-- Nothing is learned from any of them. -/
@[reducible] def Question.Answer (_ : Question) : Type := Unit

/-- The work in the background is stopped. -/
def stop : Program Question.Answer Unit :=
  .ask .tellWorker fun _ => .ask .join fun _ => .ask .tellStores fun _ => .done ()

end Loyalty.Accrual.Teardown
