import Loyalty.Proofs.Background.Basic

/-!
# Loyalty.Proofs.Background.Dues

What the worker still has to do, told from what was noted.

What the service says of an order has to be written down, and what the order
earned is then to be credited to its owner.  `Owes due log` reads the log as an
automaton does and says what is left of that after its last event.  Between two
passes, and when the worker has ended, nothing is left (`Logged.owes`).
-/

namespace Loyalty.Background

open Accrual (Question Report Outcome Stage)

/-! ## dues -/

/-- What the worker has to do next. -/
inductive Due
  | nothing
  /-- What the service said of an order is to be written down. -/
  | update (order : Order) (status : OrderStatus) (accrual : Option Points)
  /-- The owner of an order is to be credited. -/
  | credit (order : Order) (amount : Points)

/-- The orders of the last listing. -/
def listing : List Event → List Order
  | [] => []
  | .called .listPending _ (.ok orders) :: _ => orders
  | .called .listPending _ (.error _) :: _ => []
  | _ :: log => listing log

/-- What was noted, newest first, leaves something to do. -/
inductive Owes : Due → List Event → Prop
  | nil : Owes .nothing []
  | lists {log : List Event} (answers : List StoreCall.listPending.Answer)
      (r : StoreCall.listPending.Answer) (h : Owes .nothing log) :
      Owes .nothing (.called .listPending answers r :: log)
  /-- The service said nothing of an order that is to be written down. -/
  | unsaid {log : List Event} (number : OrderNumber) {answer : Except GatewayError Outcome}
      (hanswer : ∀ status accrual, answer ≠ .ok (.registered status accrual))
      (h : Owes .nothing log) :
      Owes .nothing (.fetched number answer :: log)
  | said {log : List Event} {order : Order} (status : OrderStatus) (accrual : Option Points)
      (horder : order ∈ listing log) (h : Owes .nothing log) :
      Owes (.update order status accrual)
        (.fetched order.number (.ok (.registered status accrual)) :: log)
  /-- The store did not take what was said, so the order goes on waiting. -/
  | unwritten {log : List Event} {order : Order} {status : OrderStatus} {accrual : Option Points}
      (answers : List (Except StoreError Unit)) (e : StoreError)
      (h : Owes (.update order status accrual) log) :
      Owes .nothing
        (.called (.updateStatus order.number status (Order.persistedAccrual status accrual)) answers
        (.error e) :: log)
  | unearned {log : List Event} {order : Order} {status : OrderStatus} {accrual : Option Points}
      (answers : List (Except StoreError Unit))
      (hkept : Order.persistedAccrual status accrual = none)
      (h : Owes (.update order status accrual) log) :
      Owes .nothing
        (.called (.updateStatus order.number status (Order.persistedAccrual status accrual)) answers
        (.ok ()) :: log)
  | earned {log : List Event} {order : Order} {status : OrderStatus} {accrual : Option Points}
      {amount : Points} (answers : List (Except StoreError Unit))
      (hkept : Order.persistedAccrual status accrual = some amount)
      (h : Owes (.update order status accrual) log) :
      Owes (.credit order amount) (.called (.updateStatus order.number status
        (Order.persistedAccrual status accrual)) answers (.ok ()) :: log)
  /-- The credit was attempted, whatever came of it. -/
  | credited {log : List Event} {order : Order} {amount : Points}
      (answers : List (Except StoreError Unit)) (r : Except StoreError Unit)
      (h : Owes (.credit order amount) log) :
      Owes .nothing (.called (.credit order.userId amount) answers r :: log)

/-- What a stage has to do. -/
def due : Option Stage → Due
  | some (.updating _ order status accrual _) => .update order status accrual
  | some (.crediting _ order amount _) => .credit order amount
  | none | some (.starting _) | some .listing | some (.left _ _) | some (.fetching _ _ _)
  | some (.throttled _ _) =>
    .nothing

/-- The orders that a pass has still to go through. -/
def ahead (stage? : Option Stage) : List Order := stage?.elim [] Stage.waiting

/-- What holds of a log when the worker is at a stage, or in no pass. -/
structure Logged (stage? : Option Stage) (log : List Event) : Prop where
  owes : Owes (due stage?) log
  /-- A pass has its orders from the last listing. -/
  listed : ahead stage? ⊆ listing log

namespace Logged

variable {p : RetryPolicy StoreError} {told : Bool} {log added : List Event} {stage stage' : Stage}
  {stage? stage?' : Option Stage}

theorem start : Logged none [] := ⟨.nil, by simp [ahead]⟩

/-- What is noted of a move is in keeping with where it leads. -/
theorem moves (h : Logged (some stage) log) {q : Question} {r : q.Answer}
    (hmoves : stage.Moves q r stage') (hnotes : Notes p told q r added) :
    Logged (some stage') (added ++ log) := by
  obtain ⟨howes, hlisted⟩ := h
  cases hmoves with
  | cooling | begins | cools =>
      obtain rfl := hnotes
      exact ⟨howes, List.nil_subset _⟩
  | unlisted | listed =>
      obtain ⟨answers, -, rfl⟩ := hnotes
      exact ⟨.lists answers _ howes, List.Subset.refl _⟩
  | stops =>
      obtain ⟨-, rfl⟩ := hnotes
      exact ⟨howes, List.nil_subset _⟩
  | goes =>
      obtain ⟨-, rfl⟩ := hnotes
      exact ⟨howes, hlisted⟩
  | fails | unknown =>
      obtain rfl := hnotes
      exact ⟨.unsaid _ nofun howes, List.subset_of_cons_subset hlisted⟩
  | throttles =>
      obtain rfl := hnotes
      exact ⟨.unsaid _ nofun howes, List.nil_subset _⟩
  | hears report order orders status accrual =>
      obtain rfl := hnotes
      exact ⟨.said status accrual (hlisted (List.mem_cons_self ..)) howes, hlisted⟩
  | unwritten report order status accrual orders e =>
      obtain ⟨answers, -, rfl⟩ := hnotes
      exact ⟨.unwritten answers e howes, List.subset_of_cons_subset hlisted⟩
  | wrote report order status accrual orders hkept =>
      obtain ⟨answers, -, rfl⟩ := hnotes
      exact ⟨.unearned answers hkept howes, List.subset_of_cons_subset hlisted⟩
  | earns report order status accrual orders amount hkept =>
      obtain ⟨answers, -, rfl⟩ := hnotes
      exact ⟨.earned answers hkept howes, List.subset_of_cons_subset hlisted⟩
  | credited | uncredited =>
      obtain ⟨answers, -, rfl⟩ := hnotes
      exact ⟨.credited answers _ howes, hlisted⟩

/-- What a step notes is in keeping with where it leads. -/
theorem turn (h : Logged stage? log) (hturn : Turn p told stage? added stage?') :
    Logged stage?' (added ++ log) := by
  cases hturn with
  | still => exact h
  | begins interval => exact ⟨h.owes, List.nil_subset _⟩
  | ends report => exact ⟨h.owes, List.nil_subset _⟩
  | moves hmoves hnotes => exact h.moves hmoves hnotes

end Logged

end Loyalty.Background
