import Loyalty.Accrual.Gateway
import Loyalty.Store.Database.Address
import Loyalty.Store.Database.Calls

/-!
# Loyalty.Simulation.Offline

The program where no server can be reached.

Every connection is refused, so the accrual service gives no answer and no
statement gets to a database.  Two things are still told apart without one: an
address that is none, and connections that were closed for good.
-/

namespace Loyalty.Simulation.Offline

/-- Why there is no connection. -/
def refused : String := "Connection refused"

/-- The answer to the getting of an address. -/
def get (q : Accrual.Gateway.Get) : q.Answer := .error refused

/-- The accrual service asked about an order. -/
def fetch (base : String) (number : OrderNumber) : Except GatewayError Accrual.Outcome :=
  ((Accrual.Gateway.fetch base number).run (fun q (_ : Unit) => (get q, ())) ()).1

/-- The failure of whatever needs a connection. -/
def failure (closed : Bool) : Database.Failure := if closed then .poolClosed else .io refused

/-- The answers to what is asked of connections, which may have been closed. -/
def answer (q : Database.Question) (closed : Bool) : q.Answer × Bool :=
  match q with
  | .connect address =>
    (.error (if Database.Address.isAddress address then .io refused else .other "invalid address"),
      closed)
  | .start => (.error (failure closed), closed)
  | .run _ => (.error (failure closed), closed)
  | .commit => (.error (failure closed), closed)
  | .rollback => (.error (failure closed), closed)
  | .abandon => ((), closed)
  | .fresh => (default, closed)

/-- A computation that asks a database. -/
def run {α : Type} (p : Database.Session α) (closed : Bool) : Except StoreError α :=
  (p.run answer closed).1

end Loyalty.Simulation.Offline
