import Loyalty.Program
import Loyalty.Store.Call
import Loyalty.Store.Database.Row
import Loyalty.Store.Database.Statement

/-!
# Loyalty.Store.Database.Calls

The calls of the stores as statements to a database server.

Every call but the debit is one statement.  A debit is a transaction: the
balance is locked and read, and only if it covers the amount it is changed and
the withdrawal recorded; the call succeeds exactly when the server has
acknowledged the end of the transaction.  A transaction that cannot go on is let
go of, which undoes it.
-/

namespace Loyalty.Database

/-- What the stores ask of the connections to a server. -/
inductive Question
  /-- Connections to a server at an address. -/
  | connect (address : String)
  /-- A transaction, on a connection of its own. -/
  | start
  | run (statement : Statement)
  | commit
  | rollback
  /-- The transaction is let go of. -/
  | abandon
  /-- An identifier that nothing has. -/
  | fresh
  deriving DecidableEq

/-- The answers of each question. -/
@[reducible] def Question.Answer : Question → Type
  | connect _ => Except Failure Unit
  | start => Except Failure Unit
  | run _ => Except Failure Reply
  | commit => Except Failure Unit
  | rollback => Except Failure Unit
  | abandon => Unit
  | fresh => Uuid

/-- A computation that asks a server. -/
abbrev Session (α : Type) := Program Question.Answer (Except StoreError α)

variable {α β : Type}

/-! ## single statements -/

/-- A statement and what its reply says. -/
def query (operation : String) (s : Statement) (read : Reply → Except Failure α) : Session α :=
  .ask (.run s) fun r => .done ((r.bind read).mapError (Failure.toStore operation))

/-- Something that follows what a computation gives. -/
def andThen (p : Session α) (next : α → Except StoreError β) : Session β :=
  p.bind fun r => .done (r.bind next)

/-! ## transactions -/

/-- A transaction that is let go of because of a failure. -/
def giveUp (operation : String) (e : Failure) : Session α :=
  .ask .abandon fun _ => .done (.error (e.toStore operation))

/-- A statement within a transaction. -/
def step (operation : String) (s : Statement) (read : Reply → Except Failure α)
    (next : α → Session β) : Session β :=
  .ask (.run s) fun r =>
  match r.bind read with
  | .ok a => next a
  | .error e => giveUp operation e

/-- A transaction. -/
def transaction (operation : String) (body : Session α) : Session α :=
  .ask .start fun r =>
  match r with
  | .ok _ => body
  | .error e => .done (.error (e.toStore operation))

/-- The end of a transaction that is kept. -/
def commit (operation : String) (result : α) : Session α :=
  .ask .commit fun r =>
  match r with
  | .ok _ => .done (.ok result)
  | .error e => giveUp operation e

/-- The end of a transaction that is undone. -/
def rollback (operation : String) (result : StoreError) : Session α :=
  .ask .rollback fun r =>
  match r with
  | .ok _ => .done (.error result)
  | .error e => giveUp operation e

/-! ## the schema -/

/-- Statements of the schema one after the other. -/
def defineAll : List String → Session Unit
  | [] => commit "migrate" ()
  | text :: rest => step "migrate" (.define text) (fun _ => .ok ()) fun _ => defineAll rest

/-- The schema made in one transaction, under a lock that lets only one program do it at a time. -/
def migrate : Session Unit :=
  transaction "migrate" (step "migrate" .lockSchema (fun _ => .ok ()) fun _ => defineAll schema)

/-- Connections to a server whose schema is made. -/
def connect (address : String) : Session Unit :=
  .ask (.connect address) fun r =>
  match r with
  | .ok _ => migrate
  | .error e => .done (.error (e.toStore "connect"))

/-! ## calls -/

/-- Whether a balance covers an amount. -/
def covers (current : Option Points) (amount : Points) : Bool :=
  match current with
  | some current => amount ≤ current
  | none => false

/-- The record of a debit, and the end of its transaction. -/
def recordDebit (userId : UserId) (number : OrderNumber) (amount : Points) (id : Uuid) :
    Session Withdrawal :=
  step "insert_withdrawal" (.insertWithdrawal ⟨id⟩ userId number amount)
    (Reply.one (·.timestamp "processed_at"))
    fun processedAt =>
  commit "commit" { id := ⟨id⟩, userId, orderNumber := number, sum := amount, processedAt }

/-- A debit of a balance that covers the amount. -/
def takeDebit (userId : UserId) (number : OrderNumber) (amount : Points) : Session Withdrawal :=
  step "debit_balance" (.debitBalance userId amount) (fun _ => .ok ()) fun _ =>
  .ask .fresh fun id => recordDebit userId number amount id

/-- A debit of a balance that is locked first. -/
def lockDebit (userId : UserId) (number : OrderNumber) (amount : Points) : Session Withdrawal :=
  step "lock_balance" (.lockBalance userId) (Reply.first? (·.points "current")) fun current =>
  if covers current amount then takeDebit userId number amount
  else rollback "rollback" .insufficientFunds

/-- A debit and the record of it. -/
def debit (userId : UserId) (number : OrderNumber) (amount : Points) : Session Withdrawal :=
  transaction "begin_transaction" (lockDebit userId number amount)

/-- A call of the stores. -/
def call : (c : StoreCall) → Session c.Value
  | .createUser login passwordHash => .ask .fresh fun id =>
    query "create_user" (.insertUser ⟨id⟩ login passwordHash) (Reply.one readUser)
  | .findByLogin login => query "find_by_login" (.selectUser login) (Reply.first? readUser)
  | .createOrder userId number => .ask .fresh fun id =>
    andThen (query "create_order" (.insertOrder ⟨id⟩ userId number) (Reply.one readOrder))
      (·.toOrder)
  | .findByNumber number =>
    andThen (query "find_by_number" (.selectOrder number) (Reply.first? readOrder)) fun row? =>
    match row? with
    | none => .ok none
    | some row => row.toOrder.map some
  | .listByUser userId =>
    andThen (query "list_by_user" (.selectOrdersOf userId) (Reply.all readOrder))
      (·.mapM (·.toOrder))
  | .listPending =>
      andThen (query "list_pending" .selectPending (Reply.all readOrder)) (·.mapM (·.toOrder))
  | .updateStatus number status accrual =>
    andThen (query "update_status" (.updateOrder number status accrual) fun r => .ok r.affected)
      fun affected =>
    if affected = 0 then .error .notFound else .ok ()
  | .openBalance userId => query "open_balance" (.insertBalance userId) fun _ => .ok ()
  | .credit userId amount => query "credit" (.creditBalance userId amount) fun _ => .ok ()
  | .debit userId number amount => debit userId number amount
  | .balance userId =>
    query "balance" (.selectBalance userId) fun r =>
      (r.first? (readBalance userId)).map (·.getD (.zero userId))
  | .listWithdrawals userId =>
    andThen (query "list_withdrawals" (.selectWithdrawals userId) (Reply.all readWithdrawal))
      (·.mapM (·.toWithdrawal))

end Loyalty.Database
