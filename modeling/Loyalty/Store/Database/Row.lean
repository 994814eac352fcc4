import Loyalty.Balance
import Loyalty.Store.Database.Failure
import Loyalty.User

/-!
# Loyalty.Store.Database.Row

Rows that a database server sends, read column by column.

A column that is missing, holds nothing, or is of another type than the one that
is asked for makes the row unreadable.  What a row says is then checked once
more where its columns are texts: numbers of orders and names of statuses.
-/

namespace Loyalty.Database

/-- What a column holds. -/
inductive Cell
  | null
  | text (value : String)
  /-- A number, or the one that is no number. -/
  | numeric (value : Option Decimal)
  | uuid (value : Uuid)
  | timestamp (value : Instant)
  | integer (value : Int)
  deriving DecidableEq

/-- The columns of a row by their names. -/
abbrev Row := List (String × Cell)

/-- What a server says to a statement: rows, and how many rows it changed. -/
structure Reply where
  rows : List Row
  affected : Nat
  deriving DecidableEq

namespace Row

/-- What a column holds. -/
def cell (row : Row) (name : String) : Except Failure Cell :=
  match row.find? (·.1 = name) with
  | some (_, cell) => .ok cell
  | none => .error (.other s!"no column found for name: {name}")

/-- The failure of a column that is not of the type asked for. -/
def mismatch {α : Type} (name : String) : Except Failure α :=
  .error (.other s!"error occurred while decoding column {name}")

/-- A text. -/
def text (row : Row) (name : String) : Except Failure String := do
  match ← row.cell name with
  | .text value => return value
  | _ => mismatch name

/-- An identifier. -/
def uuid (row : Row) (name : String) : Except Failure Uuid := do
  match ← row.cell name with
  | .uuid value => return value
  | _ => mismatch name

/-- An instant. -/
def timestamp (row : Row) (name : String) : Except Failure Instant := do
  match ← row.cell name with
  | .timestamp value => return value
  | _ => mismatch name

/-- An amount as it is sent; zero is sent without its places. -/
def sent (value : Decimal) : Points := if value.coeff = 0 then .zero else value

/-- An amount. -/
def points (row : Row) (name : String) : Except Failure Points := do
  match ← row.cell name with
  | .numeric (some value) => return sent value
  | _ => mismatch name

/-- An amount or nothing. -/
def points? (row : Row) (name : String) : Except Failure (Option Points) := do
  match ← row.cell name with
  | .null => return none
  | .numeric (some value) => return some (sent value)
  | _ => mismatch name

end Row

/-! ## what rows say -/

/-- The user of a row. -/
def readUser (row : Row) : Except Failure User := do
  return {
    id := ⟨← row.uuid "id"⟩, login := ← row.text "login", passwordHash := ← row.text "password",
    createdAt := ← row.timestamp "created_at" }

/-- An order whose texts were not looked at. -/
structure OrderRow where
  id : Uuid
  userId : Uuid
  number : String
  status : String
  accrual : Option Points
  uploadedAt : Instant

/-- The columns of an order. -/
def readOrder (row : Row) : Except Failure OrderRow := do
  return {
    id := ← row.uuid "id", userId := ← row.uuid "user_id", number := ← row.text "number",
    status := ← row.text "status", accrual := ← row.points? "accrual",
    uploadedAt := ← row.timestamp "uploaded_at" }

/-- The order of a row. -/
def OrderRow.toOrder (row : OrderRow) : Except StoreError Order := do
  let number ← (OrderNumber.parse row.number).mapError (rowError "orders")
  let status ← (OrderStatus.parse row.status).mapError (rowError "orders")
  return {
    id := ⟨row.id⟩, number, userId := ⟨row.userId⟩, status, accrual := row.accrual,
    uploadedAt := row.uploadedAt }

/-- A withdrawal whose number was not looked at. -/
structure WithdrawalRow where
  id : Uuid
  userId : Uuid
  orderNumber : String
  sum : Points
  processedAt : Instant

/-- The columns of a withdrawal. -/
def readWithdrawal (row : Row) : Except Failure WithdrawalRow := do
  return {
    id := ← row.uuid "id", userId := ← row.uuid "user_id", orderNumber := ← row.text "order_number",
    sum := ← row.points "sum", processedAt := ← row.timestamp "processed_at" }

/-- The withdrawal of a row. -/
def WithdrawalRow.toWithdrawal (row : WithdrawalRow) : Except StoreError Withdrawal := do
  let orderNumber ← (OrderNumber.parse row.orderNumber).mapError (rowError "withdrawals")
  return {
    id := ⟨row.id⟩, userId := ⟨row.userId⟩, orderNumber, sum := row.sum,
    processedAt := row.processedAt }

/-- The balance of a user in a row. -/
def readBalance (userId : UserId) (row : Row) : Except Failure Balance := do
  return { userId, current := ← row.points "current", withdrawn := ← row.points "withdrawn" }

/-! ## replies -/

namespace Reply

/-- The one row that there must be. -/
def one {α : Type} (read : Row → Except Failure α) (r : Reply) : Except Failure α :=
  match r.rows with
  | [] => .error .rowNotFound
  | row :: _ => read row

/-- The first row, if there is one. -/
def first? {α : Type} (read : Row → Except Failure α) (r : Reply) : Except Failure (Option α) :=
  match r.rows with
  | [] => .ok none
  | row :: _ => (read row).map some

/-- All rows. -/
def all {α : Type} (read : Row → Except Failure α) (r : Reply) : Except Failure (List α) :=
  r.rows.mapM read

end Reply

end Loyalty.Database
