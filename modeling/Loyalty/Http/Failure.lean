import Loyalty.Error
import Loyalty.Http.Message

/-!
# Loyalty.Http.Failure

How failures are answered: a status, and a document with a code and a message.

What the rules of the program refuse is said in its own words, except that a
login is never told whether it was the name or the password.  What else fails
is not shown.
-/

namespace Loyalty.Http

/-- The answer to a request that failed. -/
def failure (status : Nat) (code message : String) : Response :=
  .ofJson status (.record [("error", .text code), ("message", .text message)])

/-- The answer to a request whose body is not what was expected. -/
def badRequest (message : String) : Response := failure 400 "invalid_request" message

/-- The answer to what the rules refuse. -/
def domainFailure (e : DomainError) : Response :=
  match e with
  | .validation _ | .invalidId _ => failure 400 "validation_error" e.message
  | .invalidOrderNumber _ => failure 422 "invalid_order_number" e.message
  | .notFound => failure 404 "not_found" e.message
  | .conflict _ => failure 409 "conflict" e.message
  | .insufficientFunds => failure 402 "insufficient_funds" e.message
  | .unauthorized => failure 401 "unauthorized" "invalid login or password"

/-- The answer to a failure that is not shown. -/
def hiddenFailure (code : String) : Response := failure 500 code "internal server error"

/-- The answer to what a use case ended in. -/
def serviceFailure : ServiceError → Response
  | .domain e => domainFailure e
  | .store _ => hiddenFailure "store_error"
  | .token _ => hiddenFailure "token_error"
  | .password _ | .internal _ => hiddenFailure "internal_error"

end Loyalty.Http
