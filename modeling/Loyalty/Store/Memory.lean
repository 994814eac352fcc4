import Loyalty.Store.Call
import Loyalty.Store.Table

/-!
# Loyalty.Store.Memory

The stores in memory.

Users and balances are tables; orders and withdrawals are kept in the order in
which they came, and an index finds an order by its number.  Every call is one
step of the whole state, so a debit and its record cannot come apart.

What is new gets its identifier and its instant from the stamp of the call.
Nothing is asked of the clock, which may stand still or run backwards: lists are
ordered by their instants, and what has equal instants by when it came.
-/

namespace Loyalty.Store.Memory

/-- Everything the stores keep. -/
structure State where
  users : Table String User
  /-- Oldest first. -/
  orders : List Order
  /-- The place of a number in `orders`. -/
  index : Table OrderNumber Nat
  balances : Table UserId Balance
  /-- Oldest first. -/
  withdrawals : List Withdrawal
  deriving DecidableEq

/-- Stores that keep nothing yet. -/
def State.empty : State :=
  { users := .empty, orders := [], index := .empty, balances := .empty, withdrawals := [] }

/-- The identifier and the instant of what a call brings into being. -/
structure Stamp where
  id : Uuid
  now : Instant
  deriving DecidableEq, Inhabited

namespace State

/-! ## users -/

/-- A user under a login that nobody has. -/
def createUser (s : State) (stamp : Stamp) (login passwordHash : String) :
    Except StoreError User × State :=
  if s.users.contains login then (.error .duplicate, s)
  else
    let user : User := { id := ⟨stamp.id⟩, login, passwordHash, createdAt := stamp.now }
    (.ok user, { s with users := s.users.insert login user })

/-! ## orders -/

/-- The order of a number. -/
def order? (s : State) (number : OrderNumber) : Option Order :=
  (s.index.get? number).bind (s.orders[·]?)

/-- An order under a number that no order has. -/
def createOrder (s : State) (stamp : Stamp) (userId : UserId) (number : OrderNumber) :
    Except StoreError Order × State :=
  if s.index.contains number then (.error .duplicate, s)
  else
    let order := Order.submitted ⟨stamp.id⟩ userId number stamp.now
    (.ok order, { s with
      orders := s.orders ++ [order]
      index := s.index.insert number s.orders.length })

/-- The orders of a user, newest first. -/
def ordersOf (s : State) (userId : UserId) : List Order :=
  (s.orders.reverse.filter (·.userId = userId)).mergeSort fun a b => b.uploadedAt ≤ a.uploadedAt

/-- The orders whose status is not final, oldest first. -/
def pending (s : State) : List Order :=
  (s.orders.filter (!·.status.isFinal)).mergeSort fun a b => a.uploadedAt ≤ b.uploadedAt

/-- The order of a number with another status, and the accrual that this status keeps. -/
def updateStatus (s : State) (number : OrderNumber) (status : OrderStatus)
    (accrual : Option Points) :
    Except StoreError Unit × State :=
  match s.index.get? number with
  | none => (.error .notFound, s)
  | some place =>
    (.ok (), { s with
      orders := s.orders.modify place fun o =>
        { o with status, accrual := Order.persistedAccrual status accrual } })

/-! ## balances -/

/-- The balance of a user. -/
def balanceOf (s : State) (userId : UserId) : Balance :=
  (s.balances.get? userId).getD (.zero userId)

/-- A balance of zero for a user who has none. -/
def openBalance (s : State) (userId : UserId) : State :=
  { s with balances := s.balances.insert userId (s.balanceOf userId) }

/-- An amount added to a balance, which is there afterwards even if the amount is refused. -/
def credit (s : State) (userId : UserId) (amount : Points) : Except StoreError Unit × State :=
  let s := s.openBalance userId
  match (s.balanceOf userId).credit amount with
  | .error e => (.error (.ofDomain e), s)
  | .ok balance => (.ok (), { s with balances := s.balances.insert userId balance })

/-- An amount moved from what can be spent to what was spent, and the record of it. -/
def debit (s : State) (stamp : Stamp) (userId : UserId) (number : OrderNumber) (amount : Points) :
    Except StoreError Withdrawal × State :=
  match s.balances.get? userId with
  | none => (.error .insufficientFunds, s)
  | some balance =>
    match balance.debit amount with
    | .error e => (.error (.ofDomain e), s)
    | .ok balance =>
      let withdrawal : Withdrawal :=
        { id := ⟨stamp.id⟩, userId, orderNumber := number, sum := amount, processedAt := stamp.now }
      (.ok withdrawal, { s with
        balances := s.balances.insert userId balance,
        withdrawals := s.withdrawals ++ [withdrawal] })

/-- The withdrawals of a user, newest first. -/
def withdrawalsOf (s : State) (userId : UserId) : List Withdrawal :=
  (s.withdrawals.reverse.filter (·.userId = userId)).mergeSort fun a b =>
    b.processedAt ≤ a.processedAt

end State

/-! ## calls -/

/-- A call: what it gives and what the stores keep after it. -/
def step (stamp : Stamp) (s : State) : (call : StoreCall) → call.Answer × State
  | .createUser login passwordHash => s.createUser stamp login passwordHash
  | .findByLogin login => (.ok (s.users.get? login), s)
  | .createOrder userId number => s.createOrder stamp userId number
  | .findByNumber number => (.ok (s.order? number), s)
  | .listByUser userId => (.ok (s.ordersOf userId), s)
  | .listPending => (.ok s.pending, s)
  | .updateStatus number status accrual => s.updateStatus number status accrual
  | .openBalance userId => (.ok (), s.openBalance userId)
  | .credit userId amount => s.credit userId amount
  | .debit userId number amount => s.debit stamp userId number amount
  | .balance userId => (.ok (s.balanceOf userId), s)
  | .listWithdrawals userId => (.ok (s.withdrawalsOf userId), s)

section

variable (stamp : Stamp) (s : State)

/-- The order of a number is what the call for it answers. -/
@[simp] theorem step_findByNumber (number : OrderNumber) :
    step stamp s (.findByNumber number) = (.ok (s.order? number), s) := rfl

/-- The orders of a user are what the call for them answers. -/
@[simp] theorem step_listByUser (userId : UserId) :
    step stamp s (.listByUser userId) = (.ok (s.ordersOf userId), s) := rfl

/-- The pending orders are what the call for them answers. -/
@[simp] theorem step_listPending : step stamp s .listPending = (.ok s.pending, s) := rfl

/-- The balance of a user is what the call for it answers. -/
@[simp] theorem step_balance (userId : UserId) :
    step stamp s (.balance userId) = (.ok (s.balanceOf userId), s) := rfl

/-- The withdrawals of a user are what the call for them answers. -/
@[simp] theorem step_listWithdrawals (userId : UserId) :
    step stamp s (.listWithdrawals userId) = (.ok (s.withdrawalsOf userId), s) := rfl

end

end Loyalty.Store.Memory
