import Loyalty.Retry
import Loyalty.Store.Call

/-!
# Loyalty.Store.Retrying

Store calls that are tried again.

Each call has the attempts of the whole schedule to itself, and only a failure
to reach the store is worth another one.  When the program is stopping before an
attempt or during a wait, the call ends as cancelled.
-/

namespace Loyalty.Store

/-- The end of a run of attempts as a failure of the store. -/
def failure : RetryError StoreError → StoreError
  | .cancelled => .cancelled
  | .operation e => e

/-- The policy of store calls: a schedule, and the failures that are worth another attempt. -/
def retryPolicy (p : RetryPolicy StoreError) : RetryPolicy StoreError :=
  p.withPredicate StoreError.isRetryable

/-- A call under a schedule of delays. -/
def retrying (p : RetryPolicy StoreError) (call : StoreCall) :
    Program (RetryPolicy.Question.Answer StoreError call.Value) call.Answer :=
  (retryPolicy p).run.bind fun r => .done (r.mapError failure)

end Loyalty.Store
