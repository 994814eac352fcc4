import Loyalty.Store.Memory
import Loyalty.Proofs.Balance

/-!
# Loyalty.Proofs.Memory.Trace

The stores in memory with the calls that they answered.

A `Trace` is a state and its history.  `ask` puts one more call to the stores,
`run` puts a list of them to stores that keep nothing yet.  Whoever shares the
stores with others — users, the worker that follows orders — leaves a trace too,
so what holds of every trace holds whatever the interleaving.
-/

namespace Loyalty

/-- The amount that a call would move. -/
def StoreCall.amount? : StoreCall → Option Points
  | .credit _ amount => some amount
  | .debit _ _ amount => some amount
  | _ => none

namespace Store.Memory

/-- A call with the stamp for what it brings into being. -/
structure Request where
  stamp : Stamp
  call : StoreCall

/-- A call that was answered. -/
structure Event where
  call : StoreCall
  answer : call.Answer

namespace Event

/-- The amount of a credit that was granted to a user. -/
def creditTo? (userId : UserId) : Event → Option Points
  | ⟨.credit u amount, .ok ()⟩ => if u = userId then some amount else none
  | _ => none

/-- The user and the amount of a credit, and whether it was granted. -/
def credit? : Event → Option (UserId × Points × Bool)
  | ⟨.credit u amount, answer⟩ => some (u, amount, answer.isOk)
  | _ => none

/-- The credits granted to a user are among the credits. -/
theorem creditTo?_eq (e : Event) (userId : UserId) :
    e.creditTo? userId = e.credit?.bind fun c => if c.1 = userId ∧ c.2.2 then some c.2.1
      else none := by
  obtain ⟨call, answer⟩ := e
  cases call with
  | credit u amount =>
      cases answer with
      | error e => simp [creditTo?, credit?, Except.isOk, Except.toBool]
      | ok _ => simp [creditTo?, credit?, Except.isOk, Except.toBool]
  | _ => rfl

end Event

/-- What the stores keep and what they answered. -/
structure Trace where
  state : State
  /-- Newest first. -/
  history : List Event

namespace Trace

/-- Stores of which nothing was asked. -/
def start : Trace := { state := .empty, history := [] }

/-- One more call. -/
def ask (t : Trace) (r : Request) : Trace where
  state := (step r.stamp t.state r.call).2
  history := ⟨r.call, (step r.stamp t.state r.call).1⟩ :: t.history

/-- Stores that answered a list of calls, the first one first. -/
def run (requests : List Request) : Trace := requests.foldl ask start

/-- The credits granted to a user, newest first. -/
def creditsOf (t : Trace) (userId : UserId) : List Points :=
  t.history.filterMap (Event.creditTo? userId)

/-- All credits that were asked for, newest first. -/
def creditCalls (t : Trace) : List (UserId × Points × Bool) := t.history.filterMap Event.credit?

/-- Every amount that was to be moved is a whole number of cents. -/
def InCents (t : Trace) : Prop :=
  ∀ e ∈ t.history, ∀ amount ∈ e.call.amount?, ensureCents amount = .ok ()

@[simp] theorem run_nil : run [] = start := rfl

@[simp] theorem run_concat (requests : List Request) (r : Request) :
    run (requests ++ [r]) = (run requests).ask r := by
  simp [run]

theorem inCents_start : start.InCents := fun e he => by simp [start] at he

/-- One more call in cents leaves a trace in cents. -/
theorem InCents.ask {t : Trace} {r : Request} (h : t.InCents)
    (hr : ∀ amount ∈ r.call.amount?, ensureCents amount = .ok ()) : (t.ask r).InCents := by
  intro e he
  rcases List.mem_cons.mp he with rfl | he
  · exact hr
  · exact h e he

theorem InCents.of_ask {t : Trace} {r : Request} (h : (t.ask r).InCents) : t.InCents :=
  fun e he => h e (List.mem_cons_of_mem _ he)

/-- A call that is no credit adds no credit. -/
theorem creditCalls_ask {t : Trace} {r : Request} (hcall : ∀ u amount, r.call ≠ .credit u amount) :
    (t.ask r).creditCalls = t.creditCalls := by
  rw [creditCalls, ask, List.filterMap_cons, creditCalls]
  obtain ⟨stamp, call⟩ := r
  cases call with
  | credit u amount => exact absurd rfl (hcall u amount)
  | _ => rfl

/-- The credits granted to a user are those of all credits that were granted to that user. -/
theorem creditsOf_eq (t : Trace) (userId : UserId) :
    t.creditsOf userId =
      t.creditCalls.filterMap fun c => if c.1 = userId ∧ c.2.2 then some c.2.1 else none := by
  rw [creditsOf, creditCalls, List.filterMap_filterMap]
  exact List.filterMap_congr fun e _ => e.creditTo?_eq userId

/-- What one more call keeps, every run keeps. -/
theorem run_induction {P : Trace → Prop} (hstart : P start) (hask : ∀ t r, P t → P (t.ask r))
    (requests : List Request) : P (run requests) := by
  induction requests using List.reverseRecOn with
  | nil => exact hstart
  | append_singleton requests r ih =>
      rw [run_concat]
      exact hask _ r ih

end Trace

end Store.Memory

end Loyalty
