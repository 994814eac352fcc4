/-!
# Loyalty.Error

What can go wrong, as causes, and the text of each cause.

`DomainError` is what the rules of the program refuse; its text is shown to who
asked.  `StoreError`, `TokenError`, `PasswordError` and `GatewayError` come
from the parts the program stands on, and `ServiceError` is any of what a use
case can end in.
-/

namespace Loyalty

/-! ## rules -/

/-- A refusal that the rules of the program ask for. -/
inductive DomainError
  /-- A value that is missing, malformed or out of range. -/
  | validation (reason : String)
  /-- A number that is no digit string or fails its checksum. -/
  | invalidOrderNumber (number : String)
  /-- A text that is no identifier of the kind named first. -/
  | invalidId (reason : String)
  | notFound
  /-- A login that is taken, or an order of somebody else. -/
  | conflict (reason : String)
  | insufficientFunds
  | unauthorized
  deriving DecidableEq, Inhabited

/-- The text of an error. -/
def DomainError.message : DomainError → String
  | .validation reason => "validation failed: " ++ reason
  | .invalidOrderNumber number => "invalid order number: " ++ number
  | .invalidId reason => "invalid identifier: " ++ reason
  | .notFound => "not found"
  | .conflict reason => "conflict: " ++ reason
  | .insufficientFunds => "insufficient funds"
  | .unauthorized => "unauthorized"

/-! ## stores -/

/-- A failure of a store. -/
inductive StoreError
  /-- A login or an order number that is there already. -/
  | duplicate
  | notFound
  | insufficientFunds
  /-- A passing failure to reach the store; the one that is worth another attempt. -/
  | connection (reason : String)
  | database (reason : String)
  /-- The program began to stop before the call got through. -/
  | cancelled
  deriving DecidableEq, Inhabited

namespace StoreError

/-- The text of an error. -/
def message : StoreError → String
  | duplicate => "duplicate record"
  | notFound => "record not found"
  | insufficientFunds => "insufficient funds"
  | connection reason => "connection error: " ++ reason
  | database reason => "database error: " ++ reason
  | cancelled => "operation cancelled"

/-- Only a failure to reach the store is worth another attempt. -/
def isRetryable : StoreError → Bool
  | connection _ => true
  | _ => false

/-- A refused change of a balance, as a failure of the store that keeps it. -/
def ofDomain : DomainError → StoreError
  | .insufficientFunds => .insufficientFunds
  | e => .database e.message

end StoreError

/-! ## tokens and passwords -/

/-- Why claims do not hold now. -/
inductive ClaimsError
  | expired
  | notYetValid
  | invalidTimeWindow
  deriving DecidableEq, Inhabited

/-- The text of an error. -/
def ClaimsError.message : ClaimsError → String
  | .expired => "token has expired"
  | .notYetValid => "token not yet valid (issued_at is in the future)"
  | .invalidTimeWindow => "invalid token time window (expires_at <= issued_at)"

/-- A failure to issue a token or to accept one. -/
inductive TokenError
  | signing (reason : String)
  /-- A text that is no token of this secret. -/
  | malformed (reason : String)
  /-- A token that holds at another time, or at none. -/
  | claims (error : ClaimsError)
  deriving DecidableEq, Inhabited

/-- The text of an error. -/
def TokenError.message : TokenError → String
  | .signing reason => "token signing failed: " ++ reason
  | .malformed reason => "malformed or tampered token: " ++ reason
  | .claims error => error.message

/-- A failure to hash a password or to read a stored hash. -/
inductive PasswordError
  | hash (reason : String)
  | malformedHash (reason : String)
  deriving DecidableEq, Inhabited

/-- The text of an error. -/
def PasswordError.message : PasswordError → String
  | .hash reason => "password hashing failed: " ++ reason
  | .malformedHash reason => "stored password hash is malformed: " ++ reason

/-! ## the accrual service -/

/-- A failure to learn an accrual. -/
inductive GatewayError
  /-- An answer whose status says nothing about the order. -/
  | unavailable (reason : String)
  /-- No answer. -/
  | transport (reason : String)
  /-- An answer that cannot be read. -/
  | decode (reason : String)
  deriving DecidableEq, Inhabited

/-- The text of an error. -/
def GatewayError.message : GatewayError → String
  | .unavailable reason => "accrual service unavailable: " ++ reason
  | .transport reason => "accrual request failed: " ++ reason
  | .decode reason => "malformed accrual response: " ++ reason

/-! ## use cases -/

/-- What a use case can end in. -/
inductive ServiceError
  | domain (error : DomainError)
  | store (error : StoreError)
  | token (error : TokenError)
  | password (error : PasswordError)
  | internal (reason : String)
  deriving DecidableEq, Inhabited

namespace ServiceError

/-- The text of an error. -/
def message : ServiceError → String
  | domain e => e.message
  | store e => e.message
  | token e => e.message
  | password e => e.message
  | internal reason => "internal error: " ++ reason

/-- A failure of a store as the end of a use case; a lack of funds is the caller's affair. -/
def ofStore : StoreError → ServiceError
  | .insufficientFunds => .domain .insufficientFunds
  | e => .store e

end ServiceError

end Loyalty
