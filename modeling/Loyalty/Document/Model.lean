import Loyalty.Balance
import Loyalty.Instant.Text
import Loyalty.Json.Amount
import Loyalty.Json.Reader
import Loyalty.Json.Record
import Loyalty.Json.Writer
import Loyalty.Token.Claims
import Loyalty.User

/-!
# Loyalty.Document.Model

The things of the domain as JSON documents.

Identifiers, numbers, names of statuses, amounts and instants are strings; an
amount keeps its places and an instant its nanoseconds.  Things are records in
the order of their fields.  A document is read by the rules of
`Loyalty.Json.Record`, and every part by the one reader that its kind has
everywhere.

The password of a user is read and never written.
-/

namespace Loyalty

open Json

/-! ## parts -/

namespace Uuid

/-- An identifier as a value. -/
def toJson (id : Uuid) : Json := .text id.toText

/-- The identifier of a value. -/
def ofJson? (v : Json) : Option Uuid := v.asText?.bind ofText?

end Uuid

namespace Instant

/-- An instant as a value. -/
def toJson (a : Instant) : Json := .text a.toText

/-- The instant of a value. -/
def ofJson? (v : Json) : Option Instant := v.asText?.bind ofText?

end Instant

namespace OrderNumber

/-- A number as a value. -/
def toJson (number : OrderNumber) : Json := .text number.text

/-- The number of a value. -/
def ofJson? (v : Json) : Option OrderNumber := v.asText?.bind parse?

end OrderNumber

namespace OrderStatus

/-- A status as a value. -/
def toJson (status : OrderStatus) : Json := .text status.name

/-- The status of a value. -/
def ofJson? (v : Json) : Option OrderStatus := (variant? v).bind ofName?

end OrderStatus

/-- An optional amount as a value. -/
def accrualToJson : Option Points → Json
  | none => .null
  | some amount => ofDecimal amount

/-! ## records -/

namespace Order

/-- An order as a document. -/
def toJson (o : Order) : Json :=
  .record [("id", o.id.uuid.toJson), ("number", o.number.toJson), ("user_id", o.userId.uuid.toJson),
    ("status", o.status.toJson), ("accrual", accrualToJson o.accrual),
    ("uploaded_at", o.uploadedAt.toJson)]

/-- The order of a document. -/
def ofJson? (v : Json) : Option Order := do
  match ← fields? ["id", "number", "user_id", "status", "accrual", "uploaded_at"] v with
  | [some id, some orderNumber, some userId, some status, accrual, some uploadedAt] =>
    return {
      id := ⟨← Uuid.ofJson? id⟩, number := ← OrderNumber.ofJson? orderNumber,
      userId := ⟨← Uuid.ofJson? userId⟩, status := ← OrderStatus.ofJson? status,
      accrual := ← optional? toDecimal? accrual, uploadedAt := ← Instant.ofJson? uploadedAt }
  | _ => none

end Order

namespace Balance

/-- A balance as a document. -/
def toJson (b : Balance) : Json :=
  .record [("user_id", b.userId.uuid.toJson), ("current", ofDecimal b.current),
    ("withdrawn", ofDecimal b.withdrawn)]

/-- The balance of a document. -/
def ofJson? (v : Json) : Option Balance := do
  match ← fields? ["user_id", "current", "withdrawn"] v with
  | [some userId, some current, some withdrawn] =>
    return {
      userId := ⟨← Uuid.ofJson? userId⟩, current := ← toDecimal? current,
      withdrawn := ← toDecimal? withdrawn }
  | _ => none

end Balance

namespace Withdrawal

/-- A withdrawal as a document. -/
def toJson (w : Withdrawal) : Json :=
  .record [("id", w.id.uuid.toJson), ("user_id", w.userId.uuid.toJson),
    ("order_number", w.orderNumber.toJson), ("sum", ofDecimal w.sum),
    ("processed_at", w.processedAt.toJson)]

/-- The withdrawal of a document. -/
def ofJson? (v : Json) : Option Withdrawal := do
  match ← fields? ["id", "user_id", "order_number", "sum", "processed_at"] v with
  | [some id, some userId, some orderNumber, some sum, some processedAt] =>
    return {
      id := ⟨← Uuid.ofJson? id⟩, userId := ⟨← Uuid.ofJson? userId⟩,
      orderNumber := ← OrderNumber.ofJson? orderNumber, sum := ← toDecimal? sum,
      processedAt := ← Instant.ofJson? processedAt }
  | _ => none

end Withdrawal

namespace Claims

/-- Claims as a document. -/
def toJson (c : Claims) : Json :=
  .record [("sub", c.sub.uuid.toJson), ("issued_at", c.issuedAt.toJson),
    ("expires_at", c.expiresAt.toJson)]

/-- The claims of a document. -/
def ofJson? (v : Json) : Option Claims := do
  match ← fields? ["sub", "issued_at", "expires_at"] v with
  | [some sub, some issuedAt, some expiresAt] =>
    return {
      sub := ⟨← Uuid.ofJson? sub⟩, issuedAt := ← Instant.ofJson? issuedAt,
      expiresAt := ← Instant.ofJson? expiresAt }
  | _ => none

end Claims

namespace User

/-- A user as a document, without the password. -/
def toJson (u : User) : Json :=
  .record [("id", u.id.uuid.toJson), ("login", .text u.login), ("created_at", u.createdAt.toJson)]

/-- The user of a document. -/
def ofJson? (v : Json) : Option User := do
  match ← fields? ["id", "login", "password_hash", "created_at"] v with
  | [some id, some login, some passwordHash, some createdAt] =>
    return {
      id := ⟨← Uuid.ofJson? id⟩, login := ← login.asText?, passwordHash := ← passwordHash.asText?,
      createdAt := ← Instant.ofJson? createdAt }
  | _ => none

end User

end Loyalty
