import Loyalty.Accrual.Outcome
import Loyalty.Balance
import Loyalty.Http.Message
import Loyalty.Http.Status
import Loyalty.Json.Amount
import Loyalty.Json.Reader
import Loyalty.Json.Record
import Loyalty.Program
import Loyalty.Text.Blank

/-!
# Loyalty.Accrual.Gateway

The accrual service asked over HTTP.

An order is asked about by getting an address that ends with its number.  What
the answer means is a function of its status, its headers and its body alone:
only an answer that says so makes an order final, and an accrual is kept in
whole cents.  A status name that is not known counts as not processed yet.

Getting an address is the affair of the surroundings, where a connection may
fail, be redirected, or end before the body does.
-/

namespace Loyalty.Accrual.Gateway

open Json Text

/-! ## addresses -/

/-- A base address without the slashes at its end. -/
def trimBase (base : String) : String :=
  String.ofList (base.toList.reverse.dropWhile (· = '/')).reverse

/-- The address of an order. -/
def address (base : String) (number : OrderNumber) : String :=
  s!"{trimBase base}/api/orders/{number.text}"

/-! ## answers -/

/-- An answer to the getting of an address; there is no body if the connection ended within it. -/
structure Answer where
  status : Nat
  headers : Http.Headers
  body : Option (List UInt8)

/-- The status that a name reported means. -/
def statusOf (name : String) : OrderStatus :=
  if name = "REGISTERED" then .new
  else if name = "PROCESSING" then .processing
  else if name = "INVALID" then .invalid
  else if name = "PROCESSED" then .processed
  else .new

/-- What an answer reports of an order. -/
structure Report where
  status : String
  accrual : Option Points
  deriving DecidableEq

/-- The report of a document; the accrual may be missing, in an array too. -/
def Report.ofJson? (v : Json) : Option Report := do
  let parts ← match v with
    | .array [status] => some [some status, none]
    | v => fields? ["status", "accrual"] v
  match parts with
  | [some status, accrual] =>
      return { status := ← status.asText?, accrual := ← optional? toDecimal? accrual }
  | _ => none

/-- What a report means; fractions of a cent are rounded away, halves to the even cent. -/
def Report.outcome (r : Report) : Outcome :=
  .registered (statusOf r.status) (r.accrual.map (·.round Points.places))

/-- How long the service is left alone when it does not say, in seconds. -/
def defaultRetryAfter : Nat := 60

/-- The seconds that a header asks for. -/
def retryAfter (headers : Http.Headers) : Nat :=
  (((headers.first? "retry-after").bind Http.headerText?).bind fun value =>
    Digits.unsigned? 64 (trim value).toList).getD defaultRetryAfter

/-- What an answer means. -/
def read (a : Answer) : Except GatewayError Outcome :=
  if a.status = 200 then
    match a.body.bind readBytes? with
    | none => .error (.decode "error decoding response body")
    | some v =>
      match Report.ofJson? v with
      | some report => .ok report.outcome
      | none => .error (.decode "error decoding response body")
  else if a.status = 204 then .ok .notRegistered
  else if a.status = 429 then .ok (.throttled (1000 * retryAfter a.headers))
  else .error (.unavailable s!"unexpected status {Http.Status.text a.status}")

/-! ## asking -/

/-- An address to get. -/
structure Get where
  address : String
  deriving DecidableEq

/-- What getting an address gives, or why it gives nothing. -/
@[reducible] def Get.Answer : Get → Type := fun _ => Except String Gateway.Answer

/-- The service asked about an order. -/
def fetch (base : String) (number : OrderNumber) :
    Program Get.Answer (Except GatewayError Outcome) :=
  .ask { address := address base number } fun r =>
  match r with
  | .error reason => .done (.error (.transport reason))
  | .ok a => .done (read a)

end Loyalty.Accrual.Gateway
