import Loyalty.Service.UseCase
import Loyalty.Text.Blank

/-!
# Loyalty.Service.Orders

Submitting orders.

The first who submits a number owns it.  Submitting it again is told apart from
submitting somebody else's by looking the order up once the store has said that
the number is there.
-/

namespace Loyalty

/-- How a submission ends that is not refused. -/
inductive Submission
  /-- The order is new. -/
  | accepted (order : Order)
  /-- The same user submitted it before. -/
  | already (order : Order)
  deriving DecidableEq

namespace Orders

open UseCase

/-- A text that is not blank. -/
def ensureNumber (raw : String) : Except DomainError Unit :=
  if Text.isBlankText raw then .error (.validation "order number is required") else .ok ()

/-- How the submission of a number ends that is there, by who submitted it first. -/
def resubmitted (userId : UserId) : Option Order → UseCase Submission
  | none => .done (.error (.ofStore .notFound))
  | some order =>
    if order.userId = userId then .done (.ok (.already order))
    else refuse (.conflict "order number belongs to another user")

/-- What follows from the store's answer to a submission: its end, or a look at the order that is
there. -/
def filed (userId : UserId) (number : OrderNumber) : Except StoreError Order → UseCase Submission
  | .ok order => .done (.ok (.accepted order))
  | .error .duplicate => call (.findByNumber number) (resubmitted userId)
  | .error e => .done (.error (.ofStore e))

/-- The number that a text holds, submitted by a user. -/
def submit (userId : UserId) (raw : String) : UseCase Submission :=
  require (ensureNumber raw) fun _ =>
  require (OrderNumber.parse raw) fun number =>
  .ask (.store (.createOrder userId number)) (filed userId number)

/-- The orders of a user, newest first. -/
def list (userId : UserId) : UseCase (List Order) :=
  call (.listByUser userId) fun orders => .done (.ok orders)

end Orders

end Loyalty
