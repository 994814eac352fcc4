import Loyalty.Proofs.Database.Server

/-!
# Loyalty.Proofs.Database.Sequential

A database server that nobody disturbs.

One client makes one call after the other.  The server carries out the
statements of the ledger as the schema asks for it: amounts are `NUMERIC(15, 2)`
and are refused outside of its range, no amount of a balance becomes negative,
balances and withdrawals belong to users who are registered, numbers of orders
have at most 255 characters, and no two withdrawals have one identifier.  A
statement outside of transactions is one of its own.  A statement that is
refused aborts its transaction, after which nothing but the end of it is carried
out, and that undoes it.
-/

namespace Loyalty.Database.Sequential

open Server (Connection)

/-! ## statements -/

/-- A server refuses a number that a column is too small for. -/
def overflow : Failure := .server "22003" "numeric field overflow"

/-- A server refuses a text that a column is too small for. -/
def tooLong : Failure := .server "22001" "value too long for type character varying(255)"

/-- A server refuses a row that a `CHECK` does not allow. -/
def checkViolation : Failure := .server "23514" "new row violates check constraint"

/-- A server refuses a row of a user who is not registered. -/
def foreignKeyViolation : Failure :=
  .server "23503" "insert or update violates foreign key constraint"

/-- A server refuses a row whose key another row has. -/
def duplicateKey : Failure :=
  .server Failure.uniqueViolation "duplicate key value violates unique constraint"

/-- Nothing is carried out within a transaction that is aborted. -/
def inAborted : Failure := .server "25P02" "current transaction is aborted"

/-- A row of balances that the schema allows. -/
def isAllowed (a : Account) : Bool := 0 ≤ a.current.cents && 0 ≤ a.withdrawn.cents

/-- What a statement is refused for by its parameters and the keys of other rows. -/
def violation? (registered : UserId → Bool) (tables : Tables) (t : Transaction) :
    Statement → Option Failure
  | .insertBalance u | .creditBalance u _ =>
    if (t.account tables u).isSome || registered u then none else some foreignKeyViolation
  | .insertWithdrawal id u number _ =>
    if 255 < number.text.length then some tooLong
    else if (tables.records ++ t.records).any (·.id = id) then some duplicateKey
    else if registered u then none
    else some foreignKeyViolation
  | _ => none

/-- A row of balances as it is sent. -/
def accountRow (a : Account) : Row :=
  [("current", .numeric (some a.current.toDecimal)),
    ("withdrawn", .numeric (some a.withdrawn.toDecimal))]

/-- A row of withdrawals as it is sent. -/
def recordRow (r : Record) : Row :=
  [("id", .uuid r.id.uuid), ("user_id", .uuid r.userId.uuid), ("order_number", .text r.number.text),
    ("sum", .numeric (some r.sum.toDecimal)), ("processed_at", .timestamp r.processedAt)]

/-- The records of a user, the newest first. -/
def newestFirst (records : List Record) (u : UserId) : List Record :=
  (records.reverse.filter (·.userId = u)).mergeSort fun a b => b.processedAt ≤ a.processedAt

/-- A statement of the ledger carried out, or why it is refused. -/
def perform (registered : UserId → Bool) (now : Instant) (tables : Tables) (t : Transaction)
    (st : Statement) :
    Except Failure (Reply × Transaction) :=
  match violation? registered tables t st with
  | some e => .error e
  | none =>
    match st with
    | .insertBalance u =>
      match t.account tables u with
      | some _ => .ok (⟨[], 0⟩, t)
      | none => .ok (⟨[], 1⟩, t.write u .zero)
    | .selectBalance u => .ok (⟨((t.account tables u).map accountRow).toList, 0⟩, t)
    | .selectWithdrawals u =>
        .ok (⟨(newestFirst (tables.records ++ t.records) u).map recordRow, 0⟩, t)
    | .creditBalance u _ | .debitBalance u _ =>
      match execute 0 now tables t st with
      | none => .error overflow
      | some (reply, t') =>
        if (t'.account tables u).all isAllowed then .ok (reply, t') else .error checkViolation
    | .lockBalance _ | .insertWithdrawal _ _ _ _ =>
      match execute 0 now tables t st with
      | none => .error overflow
      | some done => .ok done
    | _ => .error (.protocol "not a statement of the ledger")

section

variable {registered : UserId → Bool} {now : Instant} {tables : Tables} {t : Transaction}
  {u : UserId} {amount : Points}

theorem perform_selectBalance :
    perform registered now tables t (.selectBalance u) =
      .ok (⟨((t.account tables u).map accountRow).toList, 0⟩, t) := by
  rfl

theorem perform_selectWithdrawals :
    perform registered now tables t (.selectWithdrawals u) =
      .ok (⟨(newestFirst (tables.records ++ t.records) u).map recordRow, 0⟩, t) := by
  rfl

/-- The row of a user who is registered is inserted unless it is there. -/
theorem perform_insertBalance (hu : registered u = true) :
    perform registered now tables t (.insertBalance u) =
      match t.account tables u with
      | some _ => .ok (⟨[], 0⟩, t)
      | none => .ok (⟨[], 1⟩, t.write u .zero) := by
  unfold perform violation?
  simp [hu]

/-- A credit of a user who is registered is refused only for the sums that it comes to. -/
theorem perform_creditBalance (hu : registered u = true) :
    perform registered now tables t (.creditBalance u amount) =
      match execute 0 now tables t (.creditBalance u amount) with
      | none => .error overflow
      | some (reply, t') =>
        if (t'.account tables u).all isAllowed then .ok (reply, t') else .error checkViolation := by
  unfold perform violation?
  simp [hu]

theorem perform_debitBalance :
    perform registered now tables t (.debitBalance u amount) =
      match execute 0 now tables t (.debitBalance u amount) with
      | none => .error overflow
      | some (reply, t') =>
        if (t'.account tables u).all isAllowed then .ok (reply, t') else .error checkViolation := by
  rfl

theorem perform_lockBalance {done : Reply × Transaction}
    (h : execute 0 now tables t (.lockBalance u) = some done) :
    perform registered now tables t (.lockBalance u) = .ok done := by
  unfold perform violation?
  simp only [h]

/-- A withdrawal with a number that fits and an identifier of its own is recorded. -/
theorem perform_insertWithdrawal (hu : registered u = true) {id : WithdrawalId}
    {number : OrderNumber} (hnumber : number.text.length ≤ 255)
    (hid : ∀ r ∈ tables.records ++ t.records, r.id ≠ id) {done : Reply × Transaction}
    (h : execute 0 now tables t (.insertWithdrawal id u number amount) = some done) :
    perform registered now tables t (.insertWithdrawal id u number amount) = .ok done := by
  have hfits : ¬ 255 < number.text.length := by omega
  have hnew : (tables.records ++ t.records).any (fun r => decide (r.id = id)) = false := by
    rw [List.any_eq_false]
    exact fun r hr => by simpa using hid r hr
  unfold perform violation?
  simp only [if_neg hfits, hnew, hu, h, Bool.false_eq_true, if_false, if_true]

end

/-! ## connections -/

/-- What is there when a call is made. -/
structure Moment where
  now : Instant
  /-- An identifier for what the call brings into being. -/
  id : Uuid

/-- The tables, and the connection of the client. -/
structure State where
  tables : Tables
  connection : Connection

/-- Empty tables, and a client that does nothing. -/
def State.start : State := { tables := .empty, connection := .idle }

/-- A statement over a connection. -/
def State.run (registered : UserId → Bool) (now : Instant) (s : State) (st : Statement) :
    Except Failure Reply × State :=
  match s.connection with
  | .idle =>
    match perform registered now s.tables .empty st with
    | .ok (reply, t) => (.ok reply, { s with tables := s.tables.publish t })
    | .error e => (.error e, s)
  | .within t =>
    match perform registered now s.tables t st with
    | .ok (reply, t) => (.ok reply, { s with connection := .within t })
    | .error e => (.error e, { s with connection := .aborted })
  | .aborted => (.error inAborted, s)
  | .closed => (.error .poolClosed, s)

/-- The end of a transaction: what it did is seen by everybody, unless it was aborted. -/
def State.commit (s : State) : State :=
  match s.connection with
  | .within t => { tables := s.tables.publish t, connection := .idle }
  | _ => { s with connection := .idle }

/-- The answers of the server to the questions of a call. -/
def answer (registered : UserId → Bool) (moment : Moment) :
    (q : Question) → State → q.Answer × State
  | .connect _, s => (.ok (), s)
  | .start, s => (.ok (), { s with connection := .within .empty })
  | .run st, s => s.run registered moment.now st
  | .commit, s => (.ok (), s.commit)
  | .rollback, s => (.ok (), { s with connection := .idle })
  | .abandon, s => ((), { s with connection := .idle })
  | .fresh, s => (moment.id, s)

/-- A call made of the server. -/
def ask (registered : UserId → Bool) (moment : Moment) (s : State) (call : StoreCall) :
    call.Answer × State :=
  (Database.call call).run (answer registered moment) s

/-! ## single statements -/

section

variable {registered : UserId → Bool} {moment : Moment} {tables : Tables} {u : UserId}
  {amount : Points} {α : Type}

@[simp] theorem publish_empty (tables : Tables) : tables.publish .empty = tables := by
  simp [Tables.publish, Transaction.account, Transaction.empty]

/-- A row written by a transaction that ends. -/
theorem accounts_publish_write (tables : Tables) (u v : UserId) (a : Account) :
    (tables.publish (Transaction.empty.write u a)).accounts v = if v = u then some a
      else tables.accounts v := by
  by_cases hv : v = u
  · subst hv
    simp
  · rw [if_neg hv, Tables.publish_accounts, Transaction.account,
      Transaction.accounts_write_of_ne _ _ _ hv]
    rfl

/-- A statement that is carried out is seen by everybody at once. -/
theorem run_query_of_ok {st : Statement} {reply : Reply} {t : Transaction}
    (h : perform registered moment.now tables .empty st = .ok (reply, t)) (operation : String)
    (read : Reply → Except Failure α) :
    (query operation st read).run (answer registered moment) ⟨tables, .idle⟩ =
      ((read reply).mapError (Failure.toStore operation), ⟨tables.publish t, .idle⟩) := by
  simp [query, Program.run_ask, answer, State.run, h, Except.bind]

/-- A statement that is refused changes nothing. -/
theorem run_query_of_error {st : Statement} {e : Failure}
    (h : perform registered moment.now tables .empty st = .error e) (operation : String)
    (read : Reply → Except Failure α) :
    (query operation st read).run (answer registered moment) ⟨tables, .idle⟩ =
      (.error (e.toStore operation), ⟨tables, .idle⟩) := by
  simp [query, Program.run_ask, answer, State.run, h, Except.bind, Except.mapError]

/-- The row of a user is there after it was opened. -/
theorem ask_openBalance (hu : registered u = true) :
    ∃ tables', ask registered moment ⟨tables, .idle⟩ (.openBalance u) = (.ok (), ⟨tables', .idle⟩) ∧
      (∀ v, tables'.accounts v = if v = u then some ((tables.accounts u).getD .zero)
        else tables.accounts v) ∧
      tables'.records = tables.records := by
  cases ha : tables.accounts u with
  | none =>
      have hperform : perform registered moment.now tables .empty (.insertBalance u) =
          .ok (⟨[], 1⟩, Transaction.empty.write u .zero) := by
        rw [perform_insertBalance hu, Transaction.account_empty, ha]
      exact ⟨_, run_query_of_ok hperform ..,
        fun v => accounts_publish_write tables u v _, by simp [Tables.publish]⟩
  | some a =>
      have hperform : perform registered moment.now tables .empty (.insertBalance u) =
          .ok (⟨[], 0⟩, .empty) := by
        rw [perform_insertBalance hu, Transaction.account_empty, ha]
      refine ⟨_, run_query_of_ok hperform .., fun v => ?_, by simp⟩
      split
      · next hv => rw [publish_empty, hv, ha, Option.getD_some]
      · rw [publish_empty]

/-- A credit that the columns have room for is added to the row, which is inserted if there is
none. -/
theorem ask_credit_of_some (hu : registered u = true) {a : Account}
    (h : ((tables.accounts u).getD .zero).credit? amount = some a) (ha : isAllowed a = true) :
    ∃ tables', ask registered moment ⟨tables, .idle⟩ (.credit u amount) =
      (.ok (), ⟨tables', .idle⟩) ∧
      (∀ v, tables'.accounts v = if v = u then some a else tables.accounts v) ∧
        tables'.records = tables.records := by
  have hperform : perform registered moment.now tables .empty (.creditBalance u amount) =
      .ok (⟨[], 1⟩, (Transaction.empty.write u a).note { userId := u, amount, client := 0 }) := by
    rw [perform_creditBalance hu]
    simp [execute, h, ha]
  exact ⟨_, run_query_of_ok hperform ..,
    fun v => accounts_publish_write tables u v a, by simp [Tables.publish]⟩

/-- A credit that the columns have no room for is refused. -/
theorem ask_credit_of_none (hu : registered u = true)
    (h : ((tables.accounts u).getD .zero).credit? amount = none) :
    ask registered moment ⟨tables, .idle⟩ (.credit u amount) =
      (.error (overflow.toStore "credit"), ⟨tables, .idle⟩) := by
  have hperform :
      perform registered moment.now tables .empty (.creditBalance u amount) = .error overflow := by
    rw [perform_creditBalance hu]
    simp [execute, h]
  exact run_query_of_error hperform ..

/-- The balance of a row as it is read. -/
def balanceOfRow (u : UserId) (a : Account) : Balance where
  userId := u
  current := Row.sent a.current.toDecimal
  withdrawn := Row.sent a.withdrawn.toDecimal

theorem readBalance_accountRow (u : UserId) (a : Account) :
    readBalance u (accountRow a) = .ok (balanceOfRow u a) := by
  rfl

/-- The balance of a user is that of the row, or nothing. -/
theorem ask_balance :
    ask registered moment ⟨tables, .idle⟩ (.balance u) =
      (.ok (((tables.accounts u).map (balanceOfRow u)).getD (.zero u)), ⟨tables, .idle⟩) := by
  rw [ask, call, run_query_of_ok perform_selectBalance, publish_empty, Transaction.account_empty]
  cases tables.accounts u with
  | none => rfl
  | some a => simp [Reply.first?, readBalance_accountRow, Except.map, Except.mapError]

/-- The columns of a record as they are read. -/
def rowOfRecord (r : Record) : WithdrawalRow where
  id := r.id.uuid
  userId := r.userId.uuid
  orderNumber := r.number.text
  sum := Row.sent r.sum.toDecimal
  processedAt := r.processedAt

/-- A record as it is listed. -/
def withdrawalOfRecord (r : Record) : Withdrawal where
  id := r.id
  userId := r.userId
  orderNumber := r.number
  sum := Row.sent r.sum.toDecimal
  processedAt := r.processedAt

theorem readWithdrawal_recordRow (r : Record) :
    readWithdrawal (recordRow r) = .ok (rowOfRecord r) := by
  rfl

/-- The text of a number is read as the number. -/
theorem toWithdrawal_rowOfRecord (r : Record) :
    (rowOfRecord r).toWithdrawal = .ok (withdrawalOfRecord r) := by
  simp [WithdrawalRow.toWithdrawal, rowOfRecord,
    OrderNumber.parse_eq_ok_iff.mpr (OrderNumber.parse?_text r.number), withdrawalOfRecord,
    Except.mapError, bind, Except.bind, pure, Except.pure]

theorem mapM_map_ok {ε β γ : Type} {f : β → Except ε γ} {g : α → β} {k : α → γ}
    (h : ∀ a, f (g a) = .ok (k a)) (as : List α) : (as.map g).mapM f = .ok (as.map k) := by
  induction as with
  | nil => rfl
  | cons a as ih => rw [List.map_cons, List.mapM_cons, h, ih]; rfl

/-- The list of a user has all records, the newest first. -/
theorem ask_listWithdrawals :
    ask registered moment ⟨tables, .idle⟩ (.listWithdrawals u) =
      (.ok ((newestFirst tables.records u).map withdrawalOfRecord), ⟨tables, .idle⟩) := by
  have hread := mapM_map_ok readWithdrawal_recordRow (newestFirst tables.records u)
  have hrows := mapM_map_ok toWithdrawal_rowOfRecord (newestFirst tables.records u)
  rw [ask, call, andThen, Program.run_bind, run_query_of_ok perform_selectWithdrawals,
    publish_empty, Transaction.records_empty, List.append_nil, Program.run_done]
  simp only [Reply.all, hread, Except.mapError, Except.bind, hrows]

/-! ## debits -/

/-- A statement of a transaction that is carried out. -/
theorem run_step_of_ok {β : Type} {st : Statement} {t t' : Transaction} {reply : Reply} {a : α}
    {read : Reply → Except Failure α} {next : α → Session β}
    (h : perform registered moment.now tables t st = .ok (reply, t')) (hread : read reply = .ok a)
    (operation : String) :
    (step operation st read next).run (answer registered moment) ⟨tables, .within t⟩ =
      (next a).run (answer registered moment) ⟨tables, .within t'⟩ := by
  simp [step, Program.run_ask, answer, State.run, h, Except.bind, hread]

/-- A statement of a transaction that is refused undoes the transaction. -/
theorem run_step_of_error {β : Type} {st : Statement} {t : Transaction} {e : Failure}
    {read : Reply → Except Failure α} {next : α → Session β}
    (h : perform registered moment.now tables t st = .error e) (operation : String) :
    (step operation st read next).run (answer registered moment) ⟨tables, .within t⟩ =
      (.error (e.toStore operation), ⟨tables, .idle⟩) := by
  simp [step, Program.run_ask, answer, State.run, h, Except.bind, giveUp]

/-- A debit that the balance does not cover is undone. -/
theorem ask_debit_of_not_covers (number : OrderNumber)
    (h : covers ((tables.accounts u).map fun a => Row.sent a.current.toDecimal) amount = false) :
    ask registered moment ⟨tables, .idle⟩ (.debit u number amount) =
      (.error .insufficientFunds, ⟨tables, .idle⟩) := by
  obtain ⟨reply, t, hexecute, hreply⟩ := exists_execute_lockBalance 0 moment.now tables u
  rw [ask, call, debit, transaction, Program.run_ask]
  change (lockDebit u number amount).run (answer registered moment) ⟨tables, .within .empty⟩ = _
  rw [lockDebit, run_step_of_ok (perform_lockBalance hexecute) hreply, h]
  rfl

/-- A debit that the balance covers goes on with the row locked. -/
theorem ask_debit_of_covers (number : OrderNumber) {a : Account} (ha : tables.accounts u = some a)
    (h : amount ≤ Row.sent a.current.toDecimal) :
    ask registered moment ⟨tables, .idle⟩ (.debit u number amount) =
      (takeDebit u number amount).run (answer registered moment)
        ⟨tables, .within (Transaction.empty.lock u)⟩ := by
  have hexecute : execute 0 moment.now tables .empty (.lockBalance u) =
      some (⟨[[("current", .numeric (some a.current.toDecimal))]], 1⟩,
        Transaction.empty.lock u) := by
    simp [execute, ha]
  have hcovers : covers (some (Row.sent a.current.toDecimal)) amount = true := by
    simpa [covers] using h
  rw [ask, call, debit, transaction, Program.run_ask]
  change (lockDebit u number amount).run (answer registered moment) ⟨tables, .within .empty⟩ = _
  rw [lockDebit, run_step_of_ok (perform_lockBalance hexecute)
    (a := some (Row.sent a.current.toDecimal)) rfl, hcovers]
  rfl

/-- A debit that the columns have no room for is refused. -/
theorem ask_debit_of_none (number : OrderNumber) {a : Account} (ha : tables.accounts u = some a)
    (hcovers : amount ≤ Row.sent a.current.toDecimal) (h : a.debit? amount = none) :
    ask registered moment ⟨tables, .idle⟩ (.debit u number amount) =
      (.error (overflow.toStore "debit_balance"), ⟨tables, .idle⟩) := by
  have hperform :
      perform registered moment.now tables (Transaction.empty.lock u) (.debitBalance u amount) =
      .error overflow := by
    rw [perform_debitBalance]
    simp [execute, ha, h]
  rw [ask_debit_of_covers number ha hcovers, takeDebit, run_step_of_error hperform]

/-- A debit that the columns have room for is carried out and recorded. -/
theorem ask_debit_of_some (hu : registered u = true) {number : OrderNumber}
    (hnumber : number.text.length ≤ 255) {a a' : Account} (ha : tables.accounts u = some a)
    (hcovers : amount ≤ Row.sent a.current.toDecimal) (h : a.debit? amount = some a')
    (hallowed : isAllowed a' = true) {sum : Numeric}
    (hsum : Numeric.ofRat? amount.toRat = some sum)
    (hid : ∀ r ∈ tables.records, r.id ≠ ⟨moment.id⟩) :
    ∃ tables', ask registered moment ⟨tables, .idle⟩ (.debit u number amount) =
        (.ok { id := ⟨moment.id⟩, userId := u, orderNumber := number, sum := amount,
               processedAt := moment.now },
          ⟨tables', .idle⟩) ∧
      (∀ v, tables'.accounts v = if v = u then some a' else tables.accounts v) ∧
      tables'.records = tables.records ++
        [{ id := ⟨moment.id⟩, userId := u, number, sum, processedAt := moment.now,
           client := 0 }] := by
  have hdebit :
      perform registered moment.now tables (Transaction.empty.lock u) (.debitBalance u amount) =
      .ok (⟨[], 1⟩, (Transaction.empty.lock u).write u a') := by
    rw [perform_debitBalance]
    simp [execute, ha, h, hallowed]
  have hrecord : execute 0 moment.now tables ((Transaction.empty.lock u).write u a')
      (.insertWithdrawal ⟨moment.id⟩ u number amount) =
      some (⟨[[("processed_at", .timestamp moment.now)]], 1⟩,
        ((Transaction.empty.lock u).write u a').record
        { id := ⟨moment.id⟩, userId := u, number, sum, processedAt := moment.now,
          client := 0 }) := by
    simp [execute, hsum]
  refine ⟨tables.publish (((Transaction.empty.lock u).write u a').record
    { id := ⟨moment.id⟩, userId := u, number, sum, processedAt := moment.now, client := 0 }), ?_,
    fun v => accounts_publish_write tables u v a', by simp [Tables.publish]⟩
  rw [ask_debit_of_covers number ha hcovers, takeDebit, run_step_of_ok hdebit (a := ()) rfl,
    Program.run_ask]
  change (recordDebit u number amount moment.id).run (answer registered moment)
    ⟨tables, .within ((Transaction.empty.lock u).write u a')⟩ = _
  rw [recordDebit, run_step_of_ok (perform_insertWithdrawal hu hnumber (by simpa using hid) hrecord)
    (a := moment.now) rfl]
  rfl

end

end Loyalty.Database.Sequential
