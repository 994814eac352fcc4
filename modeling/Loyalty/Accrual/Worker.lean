import Loyalty.Accrual.Outcome
import Loyalty.Program
import Loyalty.Store.Call

/-!
# Loyalty.Accrual.Worker

Following pending orders until their status is final.

A pass asks the accrual service about every pending order, oldest first, and
writes down what it says: the status, and then the accrual as a credit of the
order's owner.  The status is written first.  An order whose status is final is
no longer pending, so a credit that fails is not made up for later, and none is
made twice.

A service that wants to be left alone ends the pass.  It is left alone for whole
poll intervals: each pass within that time only makes the rest of it shorter.
A failure with one order is no reason to leave out the others; only a stop of
the program is, and it is looked for before each order.
-/

namespace Loyalty.Accrual

/-- What a pass asks of its surroundings. -/
inductive Question
  /-- Whether the service is to be left alone; if so, for one interval less from now on. -/
  | coolDown (interval : Nat)
  /-- The service is to be left alone for a number of milliseconds. -/
  | startCooldown (ms : Nat)
  /-- Whether the program is stopping. -/
  | stopping
  /-- What the service says about an order. -/
  | fetch (number : OrderNumber)
  | store (call : StoreCall)
  deriving DecidableEq

/-- The answers of each question. -/
@[reducible] def Question.Answer : Question → Type
  | coolDown _ => Bool
  | startCooldown _ => Unit
  | stopping => Bool
  | fetch _ => Except GatewayError Outcome
  | store call => call.Answer

/-- What a pass did. -/
structure Report where
  /-- The pass did nothing because the service is to be left alone. -/
  cooledDown : Bool
  /-- Orders the service was asked about. -/
  polled : Nat
  updated : Nat
  credited : Nat
  /-- The milliseconds for which the service wants to be left alone, if it said so. -/
  throttled : Option Nat
  deriving DecidableEq

namespace Report

/-- The report of a pass that did nothing. -/
def empty : Report :=
  { cooledDown := false, polled := 0, updated := 0, credited := 0, throttled := none }

end Report

/-- What is left of a cool-down after one interval. -/
def remainingCooldown (cooldown interval : Nat) : Nat := cooldown - interval

/-- The accrual of an order credited to its owner, if there is one. -/
def credit (order : Order) (accrual : Option Points) (report : Report) :
    Program Question.Answer Report :=
  match accrual with
  | none => .done report
  | some amount => .ask (.store (.credit order.userId amount)) fun r =>
    match r with
    | .ok _ => .done { report with credited := report.credited + 1 }
    | .error _ => .done report

/-- What the service said about an order, written down. -/
def record (order : Order) (status : OrderStatus) (accrual : Option Points) (report : Report) :
    Program Question.Answer Report :=
  let kept := Order.persistedAccrual status accrual
  .ask (.store (.updateStatus order.number status kept)) fun r =>
  match r with
  | .ok _ => credit order kept { report with updated := report.updated + 1 }
  | .error _ => .done report

/-- What follows from the answer about an order: the rest of the pass, or its end when the service
is to be left alone. -/
def heard (order : Order) (rest : Report → Program Question.Answer Report) (report : Report) :
    Except GatewayError Outcome → Program Question.Answer Report
  | .error _ | .ok .notRegistered => rest report
  | .ok (.throttled ms) =>
      .ask (.startCooldown ms) fun _ => .done { report with throttled := some ms }
  | .ok (.registered status accrual) => (record order status accrual report).bind rest

/-- The orders of a pass, one after the other. -/
def reconcile (report : Report) : List Order → Program Question.Answer Report
  | [] => .done report
  | order :: orders => .ask .stopping fun stopping =>
    if stopping then .done report
    else .ask (.fetch order.number)
      (heard order (fun report => reconcile report orders)
        { report with polled := report.polled + 1 })

/-- The pending orders, or nothing when they cannot be had. -/
def listed : Except StoreError (List Order) → Program Question.Answer Report
  | .error _ => .done .empty
  | .ok orders => reconcile .empty orders

/-- One pass over the pending orders. -/
def pass (interval : Nat) : Program Question.Answer Report :=
  .ask (.coolDown interval) fun cooling =>
  if cooling then .done { Report.empty with cooledDown := true }
  else .ask (.store .listPending) listed

end Loyalty.Accrual
