import Loyalty.Accrual.Worker
import Loyalty.Proofs.Program

/-!
# Loyalty.Proofs.Accrual.Stage

Where a pass over the pending orders stands.

A pass is a program, and what is left of it after some answers is a program too.
`Stage` names the programs that a pass comes to by what they still have to do,
and `Stage.Moves` says how an answer leads from one stage to the next.  So an
invariant of the worker is a predicate of stages and has one case per move, and a
pass is a `Stage.Trail` of them.
-/

namespace Loyalty.Accrual

/-- Where a pass stands. -/
inductive Stage
  /-- It is about to look whether the service is to be left alone. -/
  | starting (interval : Nat)
  /-- It is about to ask for the pending orders. -/
  | listing
  /-- These orders are left; without any it is over. -/
  | left (report : Report) (orders : List Order)
  /-- It is about to ask about an order. -/
  | fetching (report : Report) (order : Order) (orders : List Order)
  /-- It is about to leave the service alone. -/
  | throttled (report : Report) (ms : Nat)
  /-- It is about to write down what was said about an order. -/
  | updating (report : Report) (order : Order) (status : OrderStatus) (accrual : Option Points)
    (orders : List Order)
  /-- It is about to credit the accrual of an order. -/
  | crediting (report : Report) (order : Order) (amount : Points) (orders : List Order)

namespace Stage

/-- What is left to do at a stage. -/
def program : Stage → Program Question.Answer Report
  | starting interval => pass interval
  | listing => .ask (.store .listPending) listed
  | left report orders => reconcile report orders
  | fetching report order orders =>
    .ask (.fetch order.number) (heard order (fun report => reconcile report orders) report)
  | throttled report ms =>
      .ask (.startCooldown ms) fun _ => .done { report with throttled := some ms }
  | updating report order status accrual orders =>
    (record order status accrual report).bind fun report => reconcile report orders
  | crediting report order amount orders =>
    (credit order (some amount) report).bind fun report => reconcile report orders

/-- The orders of the listing that the pass has not written down. -/
def waiting : Stage → List Order
  | starting _ | listing | throttled _ _ => []
  | left _ orders => orders
  | fetching _ order orders => order :: orders
  | updating _ order _ _ orders => order :: orders
  | crediting _ _ _ orders => orders

/-- The order that the pass is at. -/
def hand? : Stage → Option Order
  | starting _ | listing | left _ _ | throttled _ _ => none
  | fetching _ order _ | updating _ order _ _ _ | crediting _ order _ _ => some order

/-- How an answer leads from a stage to the next. -/
inductive Moves : Stage → (q : Question) → q.Answer → Stage → Prop
  | cooling (interval : Nat) :
      Moves (starting interval) (.coolDown interval) true
        (left { Report.empty with cooledDown := true } [])
  | begins (interval : Nat) : Moves (starting interval) (.coolDown interval) false listing
  | unlisted (e : StoreError) : Moves listing (.store .listPending) (.error e) (left .empty [])
  | listed (orders : List Order) :
      Moves listing (.store .listPending) (.ok orders) (left .empty orders)
  | stops (report : Report) (order : Order) (orders : List Order) :
      Moves (left report (order :: orders)) .stopping true (left report [])
  | goes (report : Report) (order : Order) (orders : List Order) :
      Moves (left report (order :: orders)) .stopping false
        (fetching { report with polled := report.polled + 1 } order orders)
  | fails (report : Report) (order : Order) (orders : List Order) (e : GatewayError) :
      Moves (fetching report order orders) (.fetch order.number) (.error e) (left report orders)
  | unknown (report : Report) (order : Order) (orders : List Order) :
      Moves (fetching report order orders) (.fetch order.number) (.ok .notRegistered)
        (left report orders)
  | throttles (report : Report) (order : Order) (orders : List Order) (ms : Nat) :
      Moves (fetching report order orders) (.fetch order.number) (.ok (.throttled ms))
        (throttled report ms)
  | hears (report : Report) (order : Order) (orders : List Order) (status : OrderStatus)
      (accrual : Option Points) :
      Moves (fetching report order orders) (.fetch order.number) (.ok (.registered status accrual))
        (updating report order status accrual orders)
  | cools (report : Report) (ms : Nat) :
      Moves (throttled report ms) (.startCooldown ms) ()
        (left { report with throttled := some ms } [])
  | unwritten (report : Report) (order : Order) (status : OrderStatus) (accrual : Option Points)
      (orders : List Order) (e : StoreError) :
      Moves (updating report order status accrual orders)
        (.store (.updateStatus order.number status (Order.persistedAccrual status accrual)))
        (.error e)
        (left report orders)
  /-- The status was written and nothing was earned. -/
  | wrote (report : Report) (order : Order) (status : OrderStatus) (accrual : Option Points)
      (orders : List Order) (hkept : Order.persistedAccrual status accrual = none) :
      Moves (updating report order status accrual orders)
        (.store (.updateStatus order.number status (Order.persistedAccrual status accrual)))
        (.ok ())
        (left { report with updated := report.updated + 1 } orders)
  /-- The status was written and there is an accrual to credit. -/
  | earns (report : Report) (order : Order) (status : OrderStatus) (accrual : Option Points)
      (orders : List Order) (amount : Points)
      (hkept : Order.persistedAccrual status accrual = some amount) :
      Moves (updating report order status accrual orders)
        (.store (.updateStatus order.number status (Order.persistedAccrual status accrual)))
        (.ok ())
        (crediting { report with updated := report.updated + 1 } order amount orders)
  | credited (report : Report) (order : Order) (amount : Points) (orders : List Order) :
      Moves (crediting report order amount orders) (.store (.credit order.userId amount)) (.ok ())
        (left { report with credited := report.credited + 1 } orders)
  | uncredited (report : Report) (order : Order) (amount : Points) (orders : List Order)
      (e : StoreError) :
      Moves (crediting report order amount orders) (.store (.credit order.userId amount)) (.error e)
        (left report orders)

/-- Every answer to what a stage asks leads to a stage. -/
theorem moves {stage : Stage} {q : Question} {next : q.Answer → Program Question.Answer Report}
    (h : stage.program = .ask q next) (r : q.Answer) :
    ∃ stage', stage.Moves q r stage' ∧ next r = stage'.program := by
  cases stage with
  | starting interval =>
      cases h
      cases r with
      | true => exact ⟨_, .cooling interval, rfl⟩
      | false => exact ⟨_, .begins interval, rfl⟩
  | listing =>
      cases h
      cases r with
      | error e => exact ⟨_, .unlisted e, rfl⟩
      | ok orders => exact ⟨_, .listed orders, rfl⟩
  | left report orders =>
      cases orders with
      | nil => cases h
      | cons order orders =>
          cases h
          cases r with
          | true => exact ⟨_, .stops report order orders, rfl⟩
          | false => exact ⟨_, .goes report order orders, rfl⟩
  | fetching report order orders =>
      cases h
      match r with
      | .error e => exact ⟨_, .fails report order orders e, rfl⟩
      | .ok .notRegistered => exact ⟨_, .unknown report order orders, rfl⟩
      | .ok (.throttled ms) => exact ⟨_, .throttles report order orders ms, rfl⟩
      | .ok (.registered status accrual) =>
          exact ⟨_, .hears report order orders status accrual, rfl⟩
  | throttled report ms =>
      cases h
      exact ⟨_, .cools report ms, rfl⟩
  | updating report order status accrual orders =>
      cases h
      cases r with
      | error e => exact ⟨_, .unwritten report order status accrual orders e, rfl⟩
      | ok u =>
          rcases Option.eq_none_or_eq_some
            (Order.persistedAccrual status accrual) with hkept | ⟨amount, hkept⟩
          · refine ⟨_, .wrote report order status accrual orders hkept, ?_⟩
            dsimp only
            rw [hkept]
            rfl
          · refine ⟨_, .earns report order status accrual orders amount hkept, ?_⟩
            dsimp only
            rw [hkept]
            rfl
  | crediting report order amount orders =>
      cases h
      cases r with
      | error e => exact ⟨_, .uncredited report order amount orders e, rfl⟩
      | ok u => exact ⟨_, .credited report order amount orders, rfl⟩

/-- A pass is over when no order is left. -/
theorem eq_left_nil {stage : Stage} {report : Report} (h : stage.program = .done report) :
    stage = left report [] := by
  cases stage with
  | left report orders =>
      cases orders with
      | nil =>
          cases h
          rfl
      | cons order orders => cases h
  | starting | listing | fetching | throttled | updating | crediting => cases h

/-- A stage moves only by answers to what it asks. -/
theorem Moves.program_eq {stage stage' : Stage} {q : Question} {r : q.Answer}
    (h : stage.Moves q r stage') :
    ∃ next, stage.program = .ask q next ∧ next r = stage'.program := by
  cases h with
  | cooling | begins | unlisted | listed | stops | goes | fails | unknown | throttles | hears
  | cools | unwritten | credited | uncredited => exact ⟨_, rfl, rfl⟩
  | wrote report order status accrual orders hkept
  | earns report order status accrual orders amount hkept =>
      refine ⟨_, rfl, ?_⟩
      dsimp only
      rw [hkept]
      rfl

/-- A pass asks only about the order that it is at. -/
theorem Moves.of_fetch {stage stage' : Stage} {number : OrderNumber}
    {r : Except GatewayError Outcome} (h : stage.Moves (.fetch number) r stage') :
    ∃ report order orders, stage = fetching report order orders ∧ order.number = number := by
  cases h with
  | fails report order orders | unknown report order orders | throttles report order orders
  | hears report order orders => exact ⟨report, order, orders, rfl, rfl⟩

/-- A pass writes down only the status that was said of the order that it is at. -/
theorem Moves.of_update {stage stage' : Stage} {number : OrderNumber} {status : OrderStatus}
    {kept : Option Points} {r : Except StoreError Unit}
    (h : stage.Moves (.store (.updateStatus number status kept)) r stage') :
    ∃ report order accrual orders, stage = updating report order status accrual orders ∧
      order.number = number ∧ kept = Order.persistedAccrual status accrual := by
  cases h with
  | unwritten report order status accrual orders | wrote report order status accrual orders
  | earns report order status accrual orders =>
      exact ⟨report, order, accrual, orders, rfl, rfl, rfl⟩

/-! ## along a pass -/

/-- A pass goes from one stage to another by these exchanges, the first one first. -/
inductive Trail : Stage → List (Program.Exchange Question.Answer) → Stage → Prop
  | here (stage : Stage) : Trail stage [] stage
  | move {stage stage' stage'' : Stage} {q : Question} {r : q.Answer}
      {log : List (Program.Exchange Question.Answer)} (hmoves : stage.Moves q r stage')
      (h : Trail stage' log stage'') : Trail stage (⟨q, r⟩ :: log) stage''

variable {stage stage' : Stage} {log log' : List (Program.Exchange Question.Answer)}
  {report : Report}

/-- What is left of a pass goes from its stage to the end. -/
theorem trail_of_gives {stage : Stage} (h : stage.program.Gives log report) :
    ∃ report', Trail stage log (left report' []) := by
  generalize hp : stage.program = p at h
  induction h generalizing stage with
  | done a => exact ⟨a, eq_left_nil hp ▸ .here _⟩
  | ask r _ ih =>
      obtain ⟨next, hmoves, hnext⟩ := moves hp r
      obtain ⟨report', htrail⟩ := ih hnext.symm
      exact ⟨report', .move hmoves htrail⟩

/-- Going on from where one came to is going all the way. -/
theorem trail_append_iff :
    Trail stage (log ++ log') stage' ↔ ∃ mid, Trail stage log mid ∧ Trail mid log' stage' := by
  induction log generalizing stage with
  | nil =>
      constructor
      · exact fun h => ⟨stage, .here stage, h⟩
      · rintro ⟨mid, hmid, h⟩
        cases hmid
        exact h
  | cons x log ih =>
      constructor
      · intro h
        cases h with
        | move hmoves h =>
            obtain ⟨mid, hmid, h⟩ := ih.mp h
            exact ⟨mid, .move hmoves hmid, h⟩
      · rintro ⟨mid, hmid, h⟩
        cases hmid with
        | move hmoves hmid => exact .move hmoves (ih.mpr ⟨mid, hmid, h⟩)

/-- The last exchange is the last move. -/
theorem trail_concat_iff {q : Question} {r : q.Answer} :
    Trail stage (log ++ [⟨q, r⟩]) stage' ↔ ∃ mid, Trail stage log mid ∧ mid.Moves q r stage' := by
  rw [trail_append_iff]
  constructor
  · rintro ⟨mid, hmid, h⟩
    cases h with
    | move hmoves h =>
        cases h
        exact ⟨mid, hmid, hmoves⟩
  · rintro ⟨mid, hmid, hmoves⟩
    exact ⟨mid, hmid, .move hmoves (.here _)⟩

end Stage

end Loyalty.Accrual
