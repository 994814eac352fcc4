import Loyalty.Balance
import Loyalty.Decimal.Text

/-!
# Loyalty.Store.Database.Statement

The statements that the stores send to a database server.

A statement is a value with what it is about, so that what a server does with
it can be told without reading its text; `text` and `parameters` are what is
sent.
-/

namespace Loyalty.Database

/-! ## the schema -/

/-- The statements that make the tables; each does nothing when it was done before. -/
def schema : List String :=
  ["CREATE TABLE IF NOT EXISTS users ( id UUID PRIMARY KEY, login VARCHAR(255) UNIQUE NOT NULL, " ++
    "password VARCHAR(255) NOT NULL, created_at TIMESTAMPTZ NOT NULL DEFAULT NOW() )",
   "CREATE TABLE IF NOT EXISTS balances ( user_id UUID PRIMARY KEY REFERENCES users(id), " ++
    "current NUMERIC(15, 2) NOT NULL DEFAULT 0 CHECK (current >= 0), " ++
    "withdrawn NUMERIC(15, 2) NOT NULL DEFAULT 0 CHECK (withdrawn >= 0) )",
   "CREATE TABLE IF NOT EXISTS orders ( id UUID PRIMARY KEY, " ++
    "user_id UUID NOT NULL REFERENCES users(id), number VARCHAR(255) UNIQUE NOT NULL, " ++
    "status VARCHAR(50) NOT NULL DEFAULT 'NEW', accrual NUMERIC(15, 2), " ++
    "uploaded_at TIMESTAMPTZ NOT NULL DEFAULT NOW() )",
   "CREATE INDEX IF NOT EXISTS idx_orders_user_id ON orders(user_id)",
   "CREATE INDEX IF NOT EXISTS idx_orders_status ON orders(status)",
   "CREATE TABLE IF NOT EXISTS withdrawals ( id UUID PRIMARY KEY, " ++
    "user_id UUID NOT NULL REFERENCES users(id), order_number VARCHAR(255) NOT NULL, " ++
    "sum NUMERIC(15, 2) NOT NULL, processed_at TIMESTAMPTZ NOT NULL DEFAULT NOW() )",
   "CREATE INDEX IF NOT EXISTS idx_withdrawals_user_id ON withdrawals(user_id)"]

/-- The key of the lock under which the schema is made. -/
def schemaLock : Nat := 0x6c6f79616c7479

/-! ## statements -/

/-- A statement. -/
inductive Statement
  | lockSchema
  /-- One statement of the schema. -/
  | define (text : String)
  | insertUser (id : UserId) (login passwordHash : String)
  | selectUser (login : String)
  | insertOrder (id : OrderId) (userId : UserId) (number : OrderNumber)
  | selectOrder (number : OrderNumber)
  | selectOrdersOf (userId : UserId)
  | selectPending
  | updateOrder (number : OrderNumber) (status : OrderStatus) (accrual : Option Points)
  /-- A balance of zero, if there is none. -/
  | insertBalance (userId : UserId)
  /-- A balance with an amount more, or of that amount. -/
  | creditBalance (userId : UserId) (amount : Points)
  /-- A balance, held until the end of the transaction. -/
  | lockBalance (userId : UserId)
  | debitBalance (userId : UserId) (amount : Points)
  | insertWithdrawal (id : WithdrawalId) (userId : UserId) (number : OrderNumber) (amount : Points)
  | selectBalance (userId : UserId)
  | selectWithdrawals (userId : UserId)
  deriving DecidableEq

namespace Statement

/-- The columns of an order. -/
def orderColumns : String := "id, user_id, number, status, accrual, uploaded_at"

/-- The text of a statement. -/
def text : Statement → String
  | lockSchema => "SELECT pg_advisory_xact_lock($1)"
  | define text => text
  | insertUser _ _ _ =>
    "INSERT INTO users (id, login, password) VALUES ($1, $2, $3) " ++
      "RETURNING id, login, password, created_at"
  | selectUser _ => "SELECT id, login, password, created_at FROM users WHERE login = $1"
  | insertOrder _ _ _ =>
    "INSERT INTO orders (id, user_id, number, status) VALUES ($1, $2, $3, $4) " ++
      s!"RETURNING {orderColumns}"
  | selectOrder _ => s!"SELECT {orderColumns} FROM orders WHERE number = $1"
  | selectOrdersOf _ =>
      s!"SELECT {orderColumns} FROM orders WHERE user_id = $1 ORDER BY uploaded_at DESC"
  | selectPending =>
      s!"SELECT {orderColumns} FROM orders WHERE status IN ($1, $2) ORDER BY uploaded_at ASC"
  | updateOrder _ _ _ => "UPDATE orders SET status = $1, accrual = $2 WHERE number = $3"
  | insertBalance _ =>
    "INSERT INTO balances (user_id, current, withdrawn) VALUES ($1, 0, 0) " ++
      "ON CONFLICT (user_id) DO NOTHING"
  | creditBalance _ _ =>
    "INSERT INTO balances (user_id, current, withdrawn) VALUES ($1, $2, 0) " ++
      "ON CONFLICT (user_id) DO UPDATE SET current = balances.current + EXCLUDED.current"
  | lockBalance _ => "SELECT current FROM balances WHERE user_id = $1 FOR UPDATE"
  | debitBalance _ _ =>
    "UPDATE balances SET current = current - $1, withdrawn = withdrawn + $1 WHERE user_id = $2"
  | insertWithdrawal _ _ _ _ =>
    "INSERT INTO withdrawals (id, user_id, order_number, sum) VALUES ($1, $2, $3, $4) " ++
      "RETURNING processed_at"
  | selectBalance _ => "SELECT current, withdrawn FROM balances WHERE user_id = $1"
  | selectWithdrawals _ =>
    "SELECT id, user_id, order_number, sum, processed_at FROM withdrawals WHERE user_id = $1 " ++
      "ORDER BY processed_at DESC"

/-- What a statement is sent with, as texts; nothing stands for an amount that is not there. -/
def parameters : Statement → List (Option String)
  | lockSchema => [some (toString schemaLock)]
  | define _ => []
  | insertUser id login passwordHash => [some id.uuid.toText, some login, some passwordHash]
  | selectUser login => [some login]
  | insertOrder id userId number =>
    [some id.uuid.toText, some userId.uuid.toText, some number.text, some OrderStatus.new.name]
  | selectOrder number => [some number.text]
  | selectOrdersOf userId => [some userId.uuid.toText]
  | selectPending => [some OrderStatus.new.name, some OrderStatus.processing.name]
  | updateOrder number status accrual =>
    [some status.name, (Order.persistedAccrual status accrual).map Decimal.toText, some number.text]
  | insertBalance userId => [some userId.uuid.toText]
  | creditBalance userId amount => [some userId.uuid.toText, some amount.toText]
  | lockBalance userId => [some userId.uuid.toText]
  | debitBalance userId amount => [some amount.toText, some userId.uuid.toText]
  | insertWithdrawal id userId number amount =>
    [some id.uuid.toText, some userId.uuid.toText, some number.text, some amount.toText]
  | selectBalance userId => [some userId.uuid.toText]
  | selectWithdrawals userId => [some userId.uuid.toText]

end Statement

end Loyalty.Database
