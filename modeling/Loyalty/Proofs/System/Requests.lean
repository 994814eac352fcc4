import Loyalty.Proofs.Program
import Loyalty.Service.Account
import Loyalty.Service.Ledger

/-!
# Loyalty.Proofs.System.Requests

What users ask for, and which calls of the stores that can come to.

A request is an `Action`, its use case a program.  `Makes` lists the calls of
each request together with what was checked of them before they were made, and
`Action.asks_program` says that the use cases keep to that list.  So whatever is
to be known of the calls of users is read off the list: users neither credit
amounts nor touch the status of orders, only a submission creates an order, and
what names a user names the one who asks.
-/

namespace Loyalty.System

/-- What a user can ask for. -/
inductive Action
  | register (name password : String)
  | login (name password : String)
  | submit (userId : UserId) (raw : String)
  | orders (userId : UserId)
  | balance (userId : UserId)
  | withdraw (userId : UserId) (raw : String) (amount : Points)
  | withdrawals (userId : UserId)

namespace Action

/-- What a request gives when it succeeds. -/
@[reducible] def Result : Action → Type
  | register _ _ => String
  | login _ _ => String
  | submit _ _ => Submission
  | orders _ => List Order
  | balance _ => Balance
  | withdraw _ _ _ => Withdrawal
  | withdrawals _ => List Withdrawal

/-- The use case of a request. -/
def program (passwords : PasswordScheme) (tokens : TokenScheme) :
    (action : Action) → UseCase action.Result
  | register name password => Account.register passwords tokens name password
  | login name password => Account.login passwords tokens name password
  | submit userId raw => Orders.submit userId raw
  | orders userId => Orders.list userId
  | balance userId => Ledger.balance userId
  | withdraw userId raw amount => Ledger.withdraw userId raw amount
  | withdrawals userId => Ledger.withdrawals userId

/-- The user for whom something is done, unless that is who registers or logs in. -/
def user? : Action → Option UserId
  | register _ _ | login _ _ => none
  | submit userId _ | orders userId | balance userId | withdraw userId _ _ | withdrawals userId =>
      some userId

/-- The calls that a request can come to. -/
inductive Makes : Action → StoreCall → Prop
  | createUser {name password hash : String} :
      Makes (register name password) (.createUser name hash)
  | openBalance {name password : String} {u : UserId} :
      Makes (register name password) (.openBalance u)
  | findByLogin {name password : String} : Makes (login name password) (.findByLogin name)
  | createOrder {u : UserId} {raw : String} {n : OrderNumber}
      (hn : OrderNumber.parse? raw = some n) :
      Makes (submit u raw) (.createOrder u n)
  | findByNumber {u : UserId} {raw : String} {n : OrderNumber}
      (hn : OrderNumber.parse? raw = some n) :
      Makes (submit u raw) (.findByNumber n)
  | listByUser {u : UserId} : Makes (orders u) (.listByUser u)
  | balance {u : UserId} : Makes (balance u) (.balance u)
  | debit {u : UserId} {raw : String} {n : OrderNumber} {amount : Points}
      (hpositive : 0 < amount.coeff) (hcents : ensureCents amount = .ok ()) :
      Makes (withdraw u raw amount) (.debit u n amount)
  | listWithdrawals {u : UserId} : Makes (withdrawals u) (.listWithdrawals u)

/-- Users never update the status of an order. -/
theorem Makes.ne_updateStatus {action : Action} {call : StoreCall} (h : action.Makes call)
    (n : OrderNumber) (status : OrderStatus) (accrual : Option Points) :
    call ≠ .updateStatus n status accrual := by
  rintro rfl
  cases h

/-- What is done for a user names no other user. -/
theorem Makes.user?_ne {action : Action} {call : StoreCall} {a b : UserId} (h : action.Makes call)
    (hb : action.user? = some b) (hne : a ≠ b) : call.user? ≠ some a := by
  have hother : some b ≠ some a := fun heq => hne (Option.some.inj heq).symm
  cases h with
  | createUser | openBalance | findByLogin => contradiction
  | findByNumber => nofun
  | createOrder | listByUser | balance | debit | listWithdrawals =>
      rw [← hb] at hother
      exact hother

/-- The questions that a request can come to. -/
def Needs (action : Action) : Need → Prop
  | .store call => action.Makes call
  | .now | .salt => True

end Action

/-! ## what the parts of use cases ask -/

section

variable {α β : Type} {P : Need → Prop}

theorem asks_refuse (e : DomainError) : (UseCase.refuse e : UseCase α).Asks P := .done _

/-- What a check guards needs to be good only where the check holds. -/
theorem asks_require {check : Except DomainError β} {next : β → UseCase α}
    (h : ∀ b, check = .ok b → (next b).Asks P) : (UseCase.require check next).Asks P := by
  cases check with
  | error e => exact asks_refuse e
  | ok b => exact h b rfl

theorem asks_call {c : StoreCall} {next : c.Value → UseCase α} (hc : P (.store c))
    (h : ∀ v, (next v).Asks P) : (UseCase.call c next).Asks P := by
  refine .ask hc fun r => ?_
  cases r with
  | error e => exact .done _
  | ok v => exact h v

theorem asks_issueToken (hnow : P .now) (tokens : TokenScheme) (userId : UserId) :
    (Account.issueToken tokens userId).Asks P :=
  .ask hnow fun _ => .done _

theorem asks_resubmitted (userId : UserId) (order? : Option Order) :
    (Orders.resubmitted userId order?).Asks P := by
  unfold Orders.resubmitted
  split
  · exact .done _
  · split
    · exact .done _
    · exact asks_refuse _

end

/-! ## what requests ask -/

theorem asks_register (passwords : PasswordScheme) (tokens : TokenScheme) (name password : String) :
    (Account.register passwords tokens name password).Asks
      (Action.register name password).Needs := by
  unfold Account.register
  refine asks_require fun _ _ => .ask trivial fun salt => ?_
  split
  · exact .done _
  · refine .ask .createUser fun r => ?_
    split
    · exact asks_call .openBalance fun _ => asks_issueToken trivial tokens _
    · exact asks_refuse _
    · exact .done _

theorem asks_login (passwords : PasswordScheme) (tokens : TokenScheme) (name password : String) :
    (Account.login passwords tokens name password).Asks (Action.login name password).Needs := by
  unfold Account.login
  refine asks_require fun _ _ => asks_call .findByLogin fun user? => ?_
  split
  · exact asks_refuse _
  · split
    · exact .done _
    · exact asks_issueToken trivial tokens _
    · exact asks_refuse _

/-- The submission of a text with a number asks for an order at once. -/
theorem submit_of_parse? {raw : String} {n : OrderNumber} (hparse : OrderNumber.parse? raw = some n)
    (userId : UserId) :
    Orders.submit userId raw = .ask (.store (.createOrder userId n)) (Orders.filed userId n) := by
  have hblank : Orders.ensureNumber raw = .ok () := by
    simp [Orders.ensureNumber, OrderNumber.isBlankText_of_parse? hparse]
  rw [Orders.submit, hblank, OrderNumber.parse_eq_ok_iff.mpr hparse]
  rfl

/-- A submission is about the number that its text holds. -/
theorem asks_submit (userId : UserId) (raw : String) :
    (Orders.submit userId raw).Asks (Action.submit userId raw).Needs := by
  unfold Orders.submit
  refine asks_require fun _ _ => asks_require fun number hparse => ?_
  have hn := OrderNumber.parse_eq_ok_iff.mp hparse
  refine .ask (.createOrder hn) fun r => ?_
  unfold Orders.filed
  split
  · exact .done _
  · exact asks_call (.findByNumber hn) (asks_resubmitted userId)
  · exact .done _

/-- What a withdrawal debits has passed the checks before. -/
theorem asks_withdraw (userId : UserId) (raw : String) (amount : Points) :
    (Ledger.withdraw userId raw amount).Asks (Action.withdraw userId raw amount).Needs := by
  unfold Ledger.withdraw
  refine asks_require fun _ _ => asks_require fun _ hpositive => asks_require fun _ hcents =>
    asks_require fun number _ => ?_
  exact asks_call (.debit (ensurePositive_eq_ok_iff.mp hpositive) hcents) fun _ => .done _

/-- Every request keeps to its calls. -/
theorem Action.asks_program (passwords : PasswordScheme) (tokens : TokenScheme) (action : Action) :
    (action.program passwords tokens).Asks action.Needs := by
  cases action with
  | register name password => exact asks_register passwords tokens name password
  | login name password => exact asks_login passwords tokens name password
  | submit userId raw => exact asks_submit userId raw
  | withdraw userId raw amount => exact asks_withdraw userId raw amount
  | orders userId => exact asks_call .listByUser fun _ => .done _
  | balance userId => exact asks_call .balance fun _ => .done _
  | withdrawals userId => exact asks_call .listWithdrawals fun _ => .done _

end Loyalty.System
