import Loyalty.Proofs.Memory.Listings
import Loyalty.Proofs.Memory.Numbers

/-!
# Loyalty.Proofs.Memory.Index

Finding and updating an order by its number, in every run.

That the index is faithful (`Indexed`) is kept by every call.  Here is what it is
good for: the index leads to the places of the orders and to no other
(`get?_index_eq_some_iff`), so nothing is looked up outside of the list; a number
finds the one order that was created under it, as later updates left it
(`order?_run`); and an update changes what it should and nothing else
(`step_updateStatus`).
-/

namespace Loyalty.Store.Memory

namespace State.Indexed

variable {s : State} {number : OrderNumber} {place : ℕ} (hs : s.Indexed)
include hs

/-- The index leads from a number to the place of its order, and from no other number anywhere. -/
theorem get?_index_eq_some_iff :
    s.index.get? number = some place ↔
      ∃ h : place < s.orders.length, s.orders[place].number = number := by
  constructor
  · intro hplace
    obtain ⟨o, ho, hnumber⟩ := hs.sound hplace
    obtain ⟨h, rfl⟩ := List.getElem?_eq_some_iff.mp ho
    exact ⟨h, hnumber⟩
  · rintro ⟨h, rfl⟩
    exact hs.complete (List.getElem?_eq_getElem h)

theorem get?_index_eq_none_iff :
    s.index.get? number = none ↔ ∀ o ∈ s.orders, o.number ≠ number := by
  rw [Option.eq_none_iff_forall_ne_some]
  constructor
  · rintro hnone o ho rfl
    obtain ⟨place, hplace⟩ := List.mem_iff_getElem?.mp ho
    exact hnone place (hs.complete hplace)
  · intro hnone place hplace
    obtain ⟨o, ho, hnumber⟩ := hs.sound hplace
    exact hnone o (List.mem_of_getElem? ho) hnumber

/-- An update is refused, and changes nothing, exactly where no order has the number; else it
changes the status and the accrual of the order of the number. -/
theorem step_updateStatus (stamp : Stamp) (number : OrderNumber) (status : OrderStatus)
    (accrual : Option Points) :
    ((∀ o ∈ s.orders, o.number ≠ number) ∧
      step stamp s (.updateStatus number status accrual) = (.error .notFound, s)) ∨
    ((∃ o ∈ s.orders, o.number = number) ∧
      step stamp s (.updateStatus number status accrual) =
        (.ok (), { s with orders := s.orders.map fun o =>
          if o.number = number then
            { o with status, accrual := Order.persistedAccrual status accrual } else o })) := by
  cases hplace : s.index.get? number with
  | none =>
      refine .inl ⟨hs.get?_index_eq_none_iff.mp hplace, ?_⟩
      simp only [step, updateStatus, hplace]
  | some place =>
      obtain ⟨o, ho, hnumber⟩ := hs.sound hplace
      refine .inr ⟨⟨o, List.mem_of_getElem? ho, hnumber⟩, ?_⟩
      simp only [step, updateStatus, hplace, hs.modify_eq_map hplace]

end State.Indexed

namespace Trace

/-- In every run a number finds the one order that was created under it, as later updates left
it. -/
theorem order?_run (requests : List Request) (number : OrderNumber) (o : Order) :
    (run requests).state.order? number = some o ↔
      ((run requests).filed fun _ => true).filter (·.number = number) = [o] := by
  have hs := indexed_run requests
  have hfiled : ((run requests).filed fun _ => true).filter (·.number = number) =
      ((run requests).state.orders.filter (·.number = number)).reverse := by
    rw [← filed_run, List.filter_true, List.filter_reverse]
  rw [hfiled]
  constructor
  · intro ho
    rw [hs.filter_number ho, List.reverse_singleton]
  · intro hone
    have hmem : o ∈ (run requests).state.orders.filter (·.number = number) := by
      rw [← List.mem_reverse, hone]
      exact List.mem_singleton_self o
    rw [List.mem_filter, decide_eq_true_iff] at hmem
    exact hs.order?_eq_some_iff.mpr hmem

/-- **The index of orders stays faithful**: after every run of calls, with whatever stamps,

* the index leads from a number exactly to the place in the list of an order that has the number, so
  that no place outside of the list is ever looked up, and no two orders have one number;
* a number finds an order exactly if that is the one order that was created under the number, as
  later updates left it;
* an update is refused as not found exactly if no order has the number, and then changes nothing;
  else it changes the status and the accrual of that order, and nothing else of whatever the stores
  keep. -/
theorem run_keeps_index (requests : List Request) :
    (∀ number place, (run requests).state.index.get? number = some place ↔
      ∃ h : place < (run requests).state.orders.length,
        (run requests).state.orders[place].number = number) ∧
    ((run requests).state.orders.map (·.number)).Nodup ∧
    (∀ number o, (run requests).state.order? number = some o ↔
      ((run requests).filed fun _ => true).filter (·.number = number) = [o]) ∧
    ∀ stamp number status accrual,
      ((∀ o ∈ (run requests).state.orders, o.number ≠ number) ∧
        step stamp (run requests).state (.updateStatus number status accrual) =
          (.error .notFound, (run requests).state)) ∨
      ((∃ o ∈ (run requests).state.orders, o.number = number) ∧
        step stamp (run requests).state (.updateStatus number status accrual) =
          (.ok (), { (run requests).state with orders := (run requests).state.orders.map fun o =>
            if o.number = number then
              { o with status, accrual := Order.persistedAccrual status accrual } else o })) :=
  have hs := indexed_run requests
  ⟨fun _ _ => hs.get?_index_eq_some_iff, hs.nodup_numbers, order?_run requests,
    hs.step_updateStatus⟩

end Trace

end Loyalty.Store.Memory
