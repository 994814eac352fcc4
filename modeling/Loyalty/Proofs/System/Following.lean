import Loyalty.Proofs.Accrual.Stage
import Loyalty.Proofs.Memory.Orders
import Loyalty.Proofs.System.Basic

/-!
# Loyalty.Proofs.System.Following

What the worker knows of the orders, and what the stores say by now.

A pass works from the orders that were pending when it began.  Users go on while
it does, but only the worker touches the status of an order, so the orders of
the snapshot that it has not come to yet are still there, still belong to their
owners and are still pending (`Snapshot`).  When a credit is due, the stores
have the order as processed, with just that accrual (`Owed`).

`Advance` is a step of the system with the stages that the worker goes through;
an invariant of a system has a case for users and a case for each move of the
worker.
-/

namespace Loyalty.System

open Accrual Store Store.Memory

/-! ## stages along a run -/

/-- A step of a system, and the stage that it takes the worker to. -/
inductive Advance (w : Setting) (s : State) (stage : Stage) : State → Stage → Prop
  | client {i : ℕ} {q : Need} {next : q.Answer → UseCase (s.clients i).action.Result} {r : q.Answer}
      {t : Trace} (hasks : (s.clients i).rest = .ask q next) (hserves : Serves s.trace q r t) :
      Advance w s stage
        { s with trace := t, clients := Function.update s.clients i ⟨(s.clients i).action, next r⟩ }
        stage
  | worker {q : Question} {r : q.Answer} {t : Trace} {stage' : Stage}
      (hmoves : stage.Moves q r stage') (htells : Tells w s.trace q r t) :
      Advance w s stage
        { s with trace := t, worker := stage'.program, asked := ⟨q, r⟩ :: s.asked } stage'
  | tick : Advance w s stage { s with worker := pass w.interval } (.starting w.interval)

/-- A state that a system can come to, and the stage of its worker. -/
inductive Run (w : Setting) : State → Stage → Prop
  | start : Run w (start w) (.left .empty [])
  | step {s s' : State} {stage stage' : Stage} (h : Run w s stage)
      (hadvance : Advance w s stage s' stage') :
      Run w s' stage'

/-- Every step takes the worker to some stage. -/
theorem Step.advance {w : Setting} {s s' : State} {stage : Stage} (h : Step w s s')
    (hworker : s.worker = stage.program) :
    ∃ stage', Advance w s stage s' stage' ∧ s'.worker = stage'.program := by
  cases h with
  | client hasks hserves => exact ⟨stage, .client hasks hserves, hworker⟩
  | worker hasks htells =>
      rw [hworker] at hasks
      obtain ⟨stage', hmoves, hnext⟩ := Stage.moves hasks _
      rw [hnext]
      exact ⟨stage', .worker hmoves htells, rfl⟩
  | tick => exact ⟨.starting w.interval, .tick, rfl⟩

/-- Whatever a system comes to, its worker is at some stage. -/
theorem Reachable.run {w : Setting} {s : State} (h : Reachable w s) :
    ∃ stage, Run w s stage ∧ s.worker = stage.program := by
  induction h with
  | start => exact ⟨_, .start, rfl⟩
  | step _ hstep ih =>
      obtain ⟨stage, hrun, hworker⟩ := ih
      obtain ⟨stage', hadvance, hworker'⟩ := hstep.advance hworker
      exact ⟨stage', hrun.step hadvance, hworker'⟩

/-- The worker makes every move of its stage that is answered. -/
theorem Reachable.move {w : Setting} {s : State} {stage stage' : Stage} (h : Reachable w s)
    (hworker : s.worker = stage.program) {q : Question} {r : q.Answer} {t : Trace}
    (hmoves : stage.Moves q r stage') (htells : Tells w s.trace q r t) :
    Reachable w { s with trace := t, worker := stage'.program, asked := ⟨q, r⟩ :: s.asked } := by
  obtain ⟨next, hasks, hnext⟩ := hmoves.program_eq
  rw [← hnext]
  exact h.step (.worker (hworker.trans hasks) htells)

/-! ## calls of users -/

/-- A question of a request changes nothing, or is a call that the request makes. -/
theorem Serves.trace_eq {t t' : Trace} {action : Action} {q : Need} {r : q.Answer}
    (h : Serves t q r t') (hq : action.Needs q) :
    t' = t ∨ ∃ stamp call, action.Makes call ∧ t' = t.ask ⟨stamp, call⟩ := by
  cases q with
  | store call =>
      obtain ⟨stamp, ht, -⟩ := h
      exact .inr ⟨stamp, call, hq, ht⟩
  | now => exact .inl h
  | salt => exact .inl h

/-! ## snapshots -/

/-- The stores have this order as pending, under the same owner. -/
def Waits (m : Memory.State) (o : Order) : Prop :=
  ∃ o', m.order? o.number = some o' ∧ o'.userId = o.userId ∧ o'.status.isFinal = false

/-- The stores have the order of a number as processed, with an accrual for a user. -/
def Owed (m : Memory.State) (number : OrderNumber) (u : UserId) (amount : Points) : Prop :=
  ∃ o, m.order? number = some o ∧ o.userId = u ∧ o.status = .processed ∧ o.accrual = some amount

/-- Orders under distinct numbers that all wait. -/
structure Snapshot (m : Memory.State) (orders : List Order) : Prop where
  distinct : (orders.map (·.number)).Nodup
  waits : ∀ o ∈ orders, Waits m o

section

variable {m m' : Memory.State} {o : Order} {orders : List Order}

theorem Snapshot.nil (m : Memory.State) : Snapshot m [] where
  distinct := List.nodup_nil
  waits := by simp

theorem Snapshot.tail (h : Snapshot m (o :: orders)) : Snapshot m orders where
  distinct := (List.nodup_cons.mp h.distinct).2
  waits o' ho' := h.waits o' (List.mem_cons_of_mem _ ho')

/-- What waits goes on waiting while the orders stay as they are. -/
theorem Snapshot.mono (h : Snapshot m orders)
    (hm : ∀ {n o}, m.order? n = some o → m'.order? n = some o) :
    Snapshot m' orders where
  distinct := h.distinct
  waits o ho := by
    obtain ⟨o', ho', hrest⟩ := h.waits o ho
    exact ⟨o', hm ho', hrest⟩

/-- Updating the first order of a snapshot leaves the others waiting. -/
theorem Snapshot.tail_of_update (h : Snapshot m (o :: orders)) (hm : m.Indexed)
    (status : OrderStatus) (accrual : Option Points) :
    Snapshot (m.updateStatus o.number status accrual).2 orders where
  distinct := h.tail.distinct
  waits o' ho' := by
    obtain ⟨o'', ho'', hrest⟩ := h.tail.waits o' ho'
    have hne : o'.number ≠ o.number := by
      rintro heq
      exact (List.nodup_cons.mp h.distinct).1 (List.mem_map.mpr ⟨o', ho', heq⟩)
    exact ⟨o'', by rw [hm.order?_updateStatus, if_neg hne]; exact ho'', hrest⟩

/-- The pending orders are a snapshot. -/
theorem snapshot_pending (hm : m.Indexed) : Snapshot m m.pending where
  distinct := hm.nodup_pending
  waits o ho := by
    obtain ⟨hmem, hpending⟩ := Memory.State.mem_pending.mp ho
    exact ⟨o, hm.order?_of_mem hmem, rfl, hpending⟩

theorem Owed.mono {number : OrderNumber} {u : UserId} {amount : Points} (h : Owed m number u amount)
    (hm : ∀ {n o}, m.order? n = some o → m'.order? n = some o) : Owed m' number u amount := by
  obtain ⟨o, ho, hrest⟩ := h
  exact ⟨o, hm ho, hrest⟩

/-- What is owed is not what waits. -/
theorem Owed.ne_of_waits {number : OrderNumber} {u : UserId} {amount : Points}
    (h : Owed m number u amount) (ho : Waits m o) : number ≠ o.number := by
  rintro rfl
  obtain ⟨o₁, h₁, -, hstatus, -⟩ := h
  obtain ⟨o₂, h₂, -, hpending⟩ := ho
  rw [h₁] at h₂
  obtain rfl := Option.some.inj h₂
  simp [hstatus, OrderStatus.isFinal] at hpending

/-- The update of an order that waits makes the accrual that is kept the one that is owed. -/
theorem Owed.of_update (hm : m.Indexed) (ho : Waits m o) {status : OrderStatus}
    {accrual : Option Points} {amount : Points}
    (hkept : Order.persistedAccrual status accrual = some amount) :
    Owed (m.updateStatus o.number status accrual).2 o.number o.userId amount := by
  obtain ⟨o', ho', huser, -⟩ := ho
  refine ⟨o'.revised status accrual, ?_, huser, ?_, hkept⟩
  · rw [hm.order?_updateStatus, if_pos rfl, ho', Option.map_some]
  · exact (Order.persistedAccrual_eq_some_iff.mp hkept).1

end

/-! ## the invariant -/

/-- What holds of a system whose worker is at a stage. -/
structure Follows (s : State) (stage : Stage) : Prop where
  indexed : s.trace.state.Indexed
  earned : s.trace.state.Earned
  clients : ∀ i, (s.clients i).rest.Asks (s.clients i).action.Needs
  snapshot : Snapshot s.trace.state stage.waiting
  due : ∀ {report order amount orders}, stage = .crediting report order amount orders →
    Owed s.trace.state order.number order.userId amount

/-- A call that is no update leaves every order where it is. -/
theorem order?_ask {t : Trace} (ht : t.state.Indexed) {r : Request}
    (hcall : ∀ n status accrual, r.call ≠ .updateStatus n status accrual) {n : OrderNumber}
    {o : Order} (ho : t.state.order? n = some o) : (t.ask r).state.order? n = some o :=
  (t.state.files_step r.stamp r.call).order?_mono ht hcall ho

/-- Whatever the worker asks, the stores are as they were or answered a call. -/
theorem Tells.trace_eq {w : Setting} {t t' : Trace} {q : Question} {r : q.Answer}
    (h : Tells w t q r t') :
    t' = t ∨ ∃ request, t' = t.ask request := by
  cases q with
  | store call =>
      obtain ⟨stamp, ht, -⟩ := h
      exact .inr ⟨⟨stamp, call⟩, ht⟩
  | fetch number => exact .inl h.2
  | coolDown _ | startCooldown _ | stopping => exact .inl h

/-- Whatever the worker asks at a stage, the stores are as they were or answered a call of that
stage. -/
theorem Tells.trace_eq_of_moves {w : Setting} {t t' : Trace} {stage stage' : Stage} {q : Question}
    {r : q.Answer} (hmoves : stage.Moves q r stage') (h : Tells w t q r t') :
    t' = t ∨ ∃ stamp call, ∃ answer : call.Answer,
      stage.Moves (.store call) answer stage' ∧ t' = t.ask ⟨stamp, call⟩ := by
  cases q with
  | store call =>
      obtain ⟨stamp, ht, -⟩ := h
      exact .inr ⟨stamp, call, r, hmoves, ht⟩
  | fetch number => exact .inl h.2
  | coolDown _ | startCooldown _ | stopping => exact .inl h

namespace Follows

variable {w : Setting} {s s' : State} {stage stage' : Stage}

theorem start (w : Setting) : Follows (start w) (.left .empty []) where
  indexed := Memory.State.indexed_empty
  earned := Memory.State.earned_empty
  clients i := (w.action i).asks_program w.passwords w.tokens
  snapshot := .nil _
  due h := by cases h

/-- What is left to show of a step: the snapshot, and that what is due is owed. -/
theorem next (h : Follows s stage) (htrace : s'.trace = s.trace ∨ ∃ r, s'.trace = s.trace.ask r)
    (hclients : ∀ i, (s'.clients i).rest.Asks (s'.clients i).action.Needs)
    (hsnapshot : Snapshot s'.trace.state stage'.waiting)
    (hdue : ∀ {report order amount orders}, stage' = .crediting report order amount orders →
      Owed s'.trace.state order.number order.userId amount) : Follows s' stage' := by
  rcases htrace with htrace | ⟨r, htrace⟩
  · exact
      { indexed := by rw [htrace]; exact h.indexed
        earned := by rw [htrace]; exact h.earned
        clients := hclients
        snapshot := hsnapshot
        due := hdue }
  · have hfiles := s.trace.state.files_step r.stamp r.call
    exact
      { indexed := by rw [htrace]; exact hfiles.indexed h.indexed
        earned := by rw [htrace]; exact hfiles.earned h.earned
        clients := hclients
        snapshot := hsnapshot
        due := hdue }

/-- A step of a user leaves the worker's view true. -/
theorem client (h : Follows s stage) {i : ℕ} {q : Need}
    {next : q.Answer → UseCase (s.clients i).action.Result} {r : q.Answer} {t : Trace}
    (hasks : (s.clients i).rest = .ask q next) (hserves : Serves s.trace q r t) :
    Follows { s with
      trace := t
      clients := Function.update s.clients i ⟨(s.clients i).action, next r⟩ } stage := by
  obtain ⟨hneed, hrest⟩ := (h.clients i).of_ask hasks
  have hclients : ∀ j, (Function.update s.clients i ⟨(s.clients i).action, next r⟩ j).rest.Asks
      (Function.update s.clients i ⟨(s.clients i).action, next r⟩ j).action.Needs :=
    (Function.forall_update_iff s.clients fun _ c => c.rest.Asks c.action.Needs).mpr
      ⟨hrest r, fun j _ => h.clients j⟩
  rcases hserves.trace_eq hneed with rfl | ⟨stamp, call, hcall, rfl⟩
  · exact h.next (.inl rfl) hclients h.snapshot h.due
  · have hmono := @order?_ask _ h.indexed ⟨stamp, call⟩ hcall.ne_updateStatus
    exact h.next (.inr ⟨_, rfl⟩) hclients (h.snapshot.mono hmono) fun hstage =>
      (h.due hstage).mono hmono

/-- A move of the worker leaves its view true. -/
theorem worker (h : Follows s stage) {q : Question} {r : q.Answer} {t : Trace}
    (hmoves : stage.Moves q r stage') (htells : Tells w s.trace q r t) :
    Follows { s with trace := t, worker := stage'.program, asked := ⟨q, r⟩ :: s.asked } stage' := by
  have hsnapshot := h.snapshot
  cases hmoves with
  | cooling interval => exact h.next htells.trace_eq h.clients (.nil _) nofun
  | begins interval => exact h.next htells.trace_eq h.clients (.nil _) nofun
  | unlisted e => exact h.next htells.trace_eq h.clients (.nil _) nofun
  | listed orders =>
      obtain ⟨stamp, rfl, hanswer⟩ := htells
      obtain rfl := Except.ok.inj hanswer
      exact h.next (.inr ⟨_, rfl⟩) h.clients (snapshot_pending h.indexed) nofun
  | stops report order orders => exact h.next htells.trace_eq h.clients (.nil _) nofun
  | goes report order orders =>
      obtain rfl := htells
      exact h.next (.inl rfl) h.clients hsnapshot nofun
  | fails report order orders e =>
      obtain ⟨-, rfl⟩ := htells
      exact h.next (.inl rfl) h.clients hsnapshot.tail nofun
  | unknown report order orders =>
      obtain ⟨-, rfl⟩ := htells
      exact h.next (.inl rfl) h.clients hsnapshot.tail nofun
  | throttles report order orders ms => exact h.next htells.trace_eq h.clients (.nil _) nofun
  | hears report order orders status accrual =>
      obtain ⟨-, rfl⟩ := htells
      exact h.next (.inl rfl) h.clients hsnapshot nofun
  | cools report ms => exact h.next htells.trace_eq h.clients (.nil _) nofun
  | unwritten report order status accrual orders e =>
      obtain ⟨stamp, rfl, -⟩ := htells
      exact h.next (.inr ⟨_, rfl⟩) h.clients (hsnapshot.tail_of_update h.indexed _ _) nofun
  | wrote report order status accrual orders hkept =>
      obtain ⟨stamp, rfl, -⟩ := htells
      exact h.next (.inr ⟨_, rfl⟩) h.clients (hsnapshot.tail_of_update h.indexed _ _) nofun
  | earns report order status accrual orders amount hkept =>
      obtain ⟨stamp, rfl, -⟩ := htells
      refine h.next (.inr ⟨_, rfl⟩) h.clients (hsnapshot.tail_of_update h.indexed _ _)
        fun hstage => ?_
      cases hstage
      refine .of_update h.indexed (hsnapshot.waits order (List.mem_cons_self ..)) ?_
      rw [Order.persistedAccrual_persistedAccrual, hkept]
  | credited report order amount orders =>
      obtain ⟨stamp, rfl, -⟩ := htells
      have hmono := @order?_ask _ h.indexed ⟨stamp, .credit order.userId amount⟩ nofun
      exact h.next (.inr ⟨_, rfl⟩) h.clients (hsnapshot.mono hmono) nofun
  | uncredited report order amount orders e =>
      obtain ⟨stamp, rfl, -⟩ := htells
      have hmono := @order?_ask _ h.indexed ⟨stamp, .credit order.userId amount⟩ nofun
      exact h.next (.inr ⟨_, rfl⟩) h.clients (hsnapshot.mono hmono) nofun

/-- Every step keeps the worker's view true. -/
theorem advance (h : Follows s stage) (hadvance : Advance w s stage s' stage') :
    Follows s' stage' := by
  cases hadvance with
  | client hasks hserves => exact h.client hasks hserves
  | worker hmoves htells => exact h.worker hmoves htells
  | tick => exact h.next (.inl rfl) h.clients (.nil _) nofun

end Follows

/-- In every run the worker's view is true. -/
theorem Run.follows {w : Setting} {s : State} {stage : Stage} (h : Run w s stage) :
    Follows s stage := by
  induction h with
  | start => exact .start w
  | step _ hadvance ih => exact ih.advance hadvance

end Loyalty.System
