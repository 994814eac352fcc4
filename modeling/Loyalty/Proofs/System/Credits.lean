import Loyalty.Proofs.Memory.Ledger
import Loyalty.Proofs.System.Following

/-!
# Loyalty.Proofs.System.Credits

Every order is credited once at most, and only with what it earned.

The worker credits amounts to users; which order a credit is for is read from
what it asked before, the number it fetched last (`credits`).  When a credit is
due the order is processed and was pending a moment before, so it cannot have
been credited already: the numbers of credits are those of processed orders, and
processed orders are never pending again.

Since nobody else credits anything, the balance of a user comes from the orders
whose credit was granted, and conservation (`Trace.exact_run`) makes it the sum
of their accruals.
-/

namespace Loyalty.System

open Accrual Store Store.Memory

/-! ## the credits of the worker -/

/-- The number that the worker asked the service about last. -/
def fetched : List Asked → Option OrderNumber
  | [] => none
  | ⟨.fetch number, _⟩ :: _ => some number
  | _ :: asked => fetched asked

/-- A credit that the worker asked the stores for. -/
structure Credit where
  /-- The number that was fetched last. -/
  number : OrderNumber
  userId : UserId
  amount : Points
  granted : Bool

/-- A credit without the order that it is for. -/
def Credit.call (c : Credit) : UserId × Points × Bool := (c.userId, c.amount, c.granted)

/-- The credits that the worker asked for, newest first. -/
def credits : List Asked → List Credit
  | [] => []
  | ⟨.store (.credit userId amount), answer⟩ :: asked =>
    match fetched asked with
    | some number => { number, userId, amount, granted := answer.isOk } :: credits asked
    | none => credits asked
  | _ :: asked => credits asked

/-- The numbers of all credits. -/
def creditedNumbers (asked : List Asked) : List OrderNumber := (credits asked).map (·.number)

/-- The numbers of the credits that were granted. -/
def grantedNumbers (asked : List Asked) : List OrderNumber :=
  ((credits asked).filter (·.granted)).map (·.number)

theorem mem_grantedNumbers {asked : List Asked} {n : OrderNumber} :
    n ∈ grantedNumbers asked ↔ ∃ c ∈ credits asked, c.granted = true ∧ c.number = n := by
  simp [grantedNumbers, and_assoc]

/-- The accruals of those of a user's orders whose credit was granted. -/
def grantedAccruals (s : State) (u : UserId) : List Points :=
  ((s.trace.state.ordersOf u).filter (·.number ∈ grantedNumbers s.asked)).filterMap (·.accrual)

/-- The accruals of a user's processed orders. -/
def processedAccruals (s : State) (u : UserId) : List Points :=
  ((s.trace.state.ordersOf u).filter (·.status = .processed)).filterMap (·.accrual)

/-- The service reports accruals in cents. -/
def Setting.ReportsCents (w : Setting) : Prop :=
  ∀ number status amount, w.gateway number (.ok (.registered status (some amount))) →
    ensureCents amount = .ok ()

/-- Users credit nothing. -/
theorem Action.Makes.ne_credit {action : Action} {call : StoreCall} (h : action.Makes call)
    (u : UserId) (amount : Points) : call ≠ .credit u amount := by
  rintro rfl
  cases h

/-- What users debit is in cents. -/
theorem Action.Makes.cents {action : Action} {call : StoreCall} (h : action.Makes call) :
    ∀ amount ∈ call.amount?, ensureCents amount = .ok () := by
  intro amount hamount
  cases h with
  | debit _ hcents =>
      obtain rfl := Option.some.inj hamount
      exact hcents
  | _ => cases hamount

/-! ## the invariant -/

/-- What is known of the order that the pass is at. -/
def Current (s : State) : Stage → Prop
  | .updating _ order _ accrual _ =>
    fetched s.asked = some order.number ∧ ∀ amount ∈ accrual, ensureCents amount = .ok ()
  | .crediting _ order amount _ =>
    fetched s.asked = some order.number ∧ ensureCents amount = .ok () ∧
      order.number ∉ creditedNumbers s.asked
  | _ => True

/-- What holds of the credits of a system whose worker is at a stage. -/
structure Credited (s : State) (stage : Stage) : Prop where
  /-- Nobody else credits anything. -/
  calls : s.trace.creditCalls = (credits s.asked).map Credit.call
  distinct : (creditedNumbers s.asked).Nodup
  owed : ∀ c ∈ credits s.asked, Owed s.trace.state c.number c.userId c.amount
  current : Current s stage
  cents : s.trace.InCents
  run : ∃ requests, s.trace = Trace.run requests

theorem run_ask {t : Trace} {r : Request} (h : ∃ requests, t = Trace.run requests) :
    ∃ requests, t.ask r = Trace.run requests := by
  obtain ⟨requests, rfl⟩ := h
  exact ⟨requests ++ [r], (Trace.run_concat requests r).symm⟩

namespace Credited

variable {w : Setting} {s s' : State} {stage stage' : Stage}

theorem start (w : Setting) : Credited (start w) (.left .empty []) where
  calls := rfl
  distinct := List.nodup_nil
  owed := by simp [System.start, credits]
  current := trivial
  cents := Trace.inCents_start
  run := ⟨[], rfl⟩

/-- A step in which nothing is asked of the stores. -/
theorem quiet (h : Credited s stage) (htrace : s'.trace = s.trace)
    (hasked : credits s'.asked = credits s.asked) (hcurrent : Current s' stage') :
    Credited s' stage' where
  calls := by rw [htrace, hasked]; exact h.calls
  distinct := by rw [creditedNumbers, hasked]; exact h.distinct
  owed := by rw [htrace, hasked]; exact h.owed
  current := hcurrent
  cents := by rw [htrace]; exact h.cents
  run := by rw [htrace]; exact h.run

/-- A step with a call that credits nothing and leaves what is owed. -/
theorem calling (h : Credited s stage) {r : Request} (htrace : s'.trace = s.trace.ask r)
    (hasked : credits s'.asked = credits s.asked) (hcredit : ∀ u amount, r.call ≠ .credit u amount)
    (hcents : ∀ amount ∈ r.call.amount?, ensureCents amount = .ok ())
    (howed : ∀ c ∈ credits s.asked, Owed s'.trace.state c.number c.userId c.amount)
    (hcurrent : Current s' stage') : Credited s' stage' where
  calls := by rw [htrace, hasked, Trace.creditCalls_ask hcredit]; exact h.calls
  distinct := by rw [creditedNumbers, hasked]; exact h.distinct
  owed := by rw [hasked]; exact howed
  current := hcurrent
  cents := by rw [htrace]; exact h.cents.ask hcents
  run := by rw [htrace]; exact run_ask h.run

/-- A step of a user credits nothing. -/
theorem client (h : Credited s stage) (hf : Follows s stage) {i : ℕ} {q : Need}
    {next : q.Answer → UseCase (s.clients i).action.Result} {r : q.Answer} {t : Trace}
    (hasks : (s.clients i).rest = .ask q next) (hserves : Serves s.trace q r t) :
    Credited { s with
      trace := t
      clients := Function.update s.clients i ⟨(s.clients i).action, next r⟩ } stage := by
  obtain ⟨hneed, -⟩ := (hf.clients i).of_ask hasks
  have hcurrent := h.current
  rcases hserves.trace_eq hneed with rfl | ⟨stamp, call, hcall, rfl⟩
  · exact h.quiet rfl rfl (by cases stage <;> exact hcurrent)
  · exact h.calling rfl rfl hcall.ne_credit hcall.cents
      (fun c hc => (h.owed c hc).mono (order?_ask hf.indexed hcall.ne_updateStatus))
      (by cases stage <;> exact hcurrent)

/-- Updating an order that waits leaves what is owed for others, and nothing was owed for it. -/
theorem owed_update (h : Credited s stage) (hf : Follows s stage) {order : Order}
    (hwaits : Waits s.trace.state order) (status : OrderStatus) (accrual : Option Points) :
    ∀ c ∈ credits s.asked,
      Owed (s.trace.state.updateStatus order.number status accrual).2 c.number c.userId
        c.amount := by
  intro c hc
  have howed := h.owed c hc
  obtain ⟨o, ho, hrest⟩ := howed
  refine ⟨o, ?_, hrest⟩
  rw [hf.indexed.order?_updateStatus, if_neg (Owed.ne_of_waits ⟨o, ho, hrest⟩ hwaits)]
  exact ho

/-- An order that waits was not credited. -/
theorem not_mem_of_waits (h : Credited s stage) {order : Order}
    (hwaits : Waits s.trace.state order) :
    order.number ∉ creditedNumbers s.asked := by
  intro hmem
  obtain ⟨c, hc, hnumber⟩ := List.mem_map.mp hmem
  exact (h.owed c hc).ne_of_waits hwaits hnumber

/-- The credit that is due is made, whatever comes of it. -/
theorem crediting {report : Report} {order : Order} {amount : Points} {orders : List Order}
    (h : Credited s (.crediting report order amount orders))
    (hf : Follows s (.crediting report order amount orders)) {stamp : Stamp}
    {r : (StoreCall.credit order.userId amount).Answer}
    (hr : r = (Memory.step stamp s.trace.state (.credit order.userId amount)).1) {worker}
    {report' : Report} :
    Credited
      { s with
        trace := s.trace.ask ⟨stamp, .credit order.userId amount⟩
        worker := worker
        asked := ⟨.store (.credit order.userId amount), r⟩ :: s.asked }
      (.left report' orders) := by
  obtain ⟨hfetched, hcents, hfresh⟩ := h.current
  have hcredits : credits (⟨.store (.credit order.userId amount), r⟩ :: s.asked) =
      ⟨order.number, order.userId, amount, r.isOk⟩ :: credits s.asked := by
    rw [credits, hfetched]
  have hmono := @order?_ask _ hf.indexed ⟨stamp, .credit order.userId amount⟩ nofun
  exact
    { calls := by
        rw [hcredits, List.map_cons, ← h.calls, hr]
        rfl
      distinct := by
        rw [creditedNumbers, hcredits, List.map_cons, List.nodup_cons]
        exact ⟨hfresh, h.distinct⟩
      owed := by
        intro c hc
        rw [hcredits, List.mem_cons] at hc
        rcases hc with rfl | hc
        · exact (hf.due rfl).mono hmono
        · exact (h.owed c hc).mono hmono
      current := trivial
      cents := h.cents.ask fun a ha => by
        obtain rfl := Option.some.inj ha
        exact hcents
      run := run_ask h.run }

/-- A move of the worker credits what is due. -/
theorem worker (h : Credited s stage) (hf : Follows s stage) (hw : w.ReportsCents) {q : Question}
    {r : q.Answer} {t : Trace} (hmoves : stage.Moves q r stage') (htells : Tells w s.trace q r t) :
    Credited { s with trace := t, worker := stage'.program, asked := ⟨q, r⟩ :: s.asked }
      stage' := by
  cases hmoves with
  | cooling interval => exact h.quiet htells rfl trivial
  | begins interval => exact h.quiet htells rfl trivial
  | unlisted e =>
      obtain ⟨stamp, rfl, -⟩ := htells
      exact h.calling rfl rfl nofun nofun h.owed trivial
  | listed orders =>
      obtain ⟨stamp, rfl, -⟩ := htells
      exact h.calling rfl rfl nofun nofun h.owed trivial
  | stops report order orders => exact h.quiet htells rfl trivial
  | goes report order orders => exact h.quiet htells rfl trivial
  | fails report order orders e => exact h.quiet htells.2 rfl trivial
  | unknown report order orders => exact h.quiet htells.2 rfl trivial
  | throttles report order orders ms => exact h.quiet htells.2 rfl trivial
  | hears report order orders status accrual =>
      obtain ⟨hgateway, rfl⟩ := htells
      refine h.quiet rfl rfl ⟨rfl, ?_⟩
      rintro amount rfl
      exact hw _ _ _ hgateway
  | cools report ms => exact h.quiet htells rfl trivial
  | unwritten report order status accrual orders e =>
      obtain ⟨stamp, rfl, -⟩ := htells
      have hwaits := hf.snapshot.waits order (List.mem_cons_self ..)
      exact h.calling rfl rfl nofun nofun (h.owed_update hf hwaits _ _) trivial
  | wrote report order status accrual orders hkept =>
      obtain ⟨stamp, rfl, -⟩ := htells
      have hwaits := hf.snapshot.waits order (List.mem_cons_self ..)
      exact h.calling rfl rfl nofun nofun (h.owed_update hf hwaits _ _) trivial
  | earns report order status accrual orders amount hkept =>
      obtain ⟨stamp, rfl, -⟩ := htells
      have hwaits := hf.snapshot.waits order (List.mem_cons_self ..)
      obtain ⟨hfetched, hcents⟩ := h.current
      obtain ⟨-, rfl, -⟩ := Order.persistedAccrual_eq_some_iff.mp hkept
      exact h.calling rfl rfl nofun nofun (h.owed_update hf hwaits _ _)
        ⟨hfetched, hcents amount rfl, h.not_mem_of_waits hwaits⟩
  | credited report order amount orders =>
      obtain ⟨stamp, rfl, hr⟩ := htells
      exact h.crediting hf hr
  | uncredited report order amount orders e =>
      obtain ⟨stamp, rfl, hr⟩ := htells
      exact h.crediting hf hr

theorem advance (h : Credited s stage) (hf : Follows s stage) (hw : w.ReportsCents)
    (hadvance : Advance w s stage s' stage') : Credited s' stage' := by
  cases hadvance with
  | client hasks hserves => exact h.client hf hasks hserves
  | worker hmoves htells => exact h.worker hf hw hmoves htells
  | tick => exact h.quiet rfl rfl trivial

end Credited

/-- In every run credits are for orders that earned them. -/
theorem Run.credited {w : Setting} (hw : w.ReportsCents) {s : State} {stage : Stage}
    (h : Run w s stage) :
    Credited s stage := by
  induction h with
  | start => exact .start w
  | step hrun hadvance ih => exact ih.advance hrun.follows hw hadvance

/-! ## sums -/

/-- The accrual of the order of a number, as a number. -/
def accrualOf (m : Memory.State) (number : OrderNumber) : ℚ :=
  Points.total ((m.order? number).bind (·.accrual)).toList

/-- The accruals of orders come to what their numbers say. -/
theorem total_accruals {m : Memory.State} (hm : m.Indexed) {orders : List Order}
    (h : ∀ o ∈ orders, o ∈ m.orders) :
    Points.total (orders.filterMap (·.accrual)) =
      ((orders.map (·.number)).map (accrualOf m)).sum := by
  induction orders with
  | nil => rfl
  | cons o orders ih =>
      have ho := hm.order?_of_mem (h o (List.mem_cons_self ..))
      have hrest := ih fun o' ho' => h o' (List.mem_cons_of_mem _ ho')
      have hone : accrualOf m o.number = Points.total o.accrual.toList := by
        rw [accrualOf, ho, Option.bind_some]
      rw [List.map_cons, List.map_cons, List.sum_cons, ← hrest, hone, ← Points.total_append]
      cases haccrual : o.accrual <;> simp [haccrual]

namespace Credited

variable {s : State} {stage : Stage}

/-- What was credited to a user comes to what the stores say of those orders. -/
theorem total_creditsOf (h : Credited s stage) (u : UserId) :
    Points.total (s.trace.creditsOf u) =
      ((((credits s.asked).filter fun c => c.granted ∧ c.userId = u).map (·.number)).map
        (accrualOf s.trace.state)).sum := by
  have howed := h.owed
  rw [Trace.creditsOf_eq, h.calls]
  generalize credits s.asked = cs at howed
  induction cs with
  | nil => rfl
  | cons c cs ih =>
      have hrest := ih fun c' hc' => howed c' (List.mem_cons_of_mem _ hc')
      obtain ⟨o, ho, -, -, haccrual⟩ := howed c (List.mem_cons_self ..)
      have hone : accrualOf s.trace.state c.number = c.amount.toRat := by
        rw [accrualOf, ho, Option.bind_some, haccrual]
        simp
      by_cases hc : c.userId = u ∧ c.granted = true
      · simp only [List.map_cons, Credit.call, List.filterMap_cons, hc, and_self, if_true,
          decide_true, List.filter_cons_of_pos, Points.total_cons, List.sum_cons, hone]
        rw [hrest]
      · have hc' : ¬ (c.granted = true ∧ c.userId = u) := mt And.symm hc
        simp only [List.map_cons, Credit.call, List.filterMap_cons, hc, if_false]
        rw [List.filter_cons_of_neg (by simpa using hc'), hrest]

/-- The credits granted to a user are for those of the user's orders whose number was granted. -/
theorem granted_perm (h : Credited s stage) (hm : s.trace.state.Indexed) (u : UserId) :
    (((credits s.asked).filter fun c => c.granted ∧ c.userId = u).map (·.number)).Perm
      (((s.trace.state.ordersOf u).filter (·.number ∈ grantedNumbers s.asked)).map (·.number)) := by
  have hperm := s.trace.state.ordersOf_perm u
  rw [List.perm_ext_iff_of_nodup]
  · intro n
    simp only [List.mem_map, List.mem_filter, decide_eq_true_eq, hperm.mem_iff, mem_grantedNumbers]
    constructor
    · rintro ⟨c, ⟨hc, hgranted, huser⟩, rfl⟩
      obtain ⟨o, ho, hou, -, -⟩ := h.owed c hc
      obtain ⟨hmem, hnumber⟩ := hm.order?_eq_some_iff.mp ho
      exact ⟨o, ⟨⟨hmem, hou.trans huser⟩, c, hc, hgranted, hnumber.symm⟩, hnumber⟩
    · rintro ⟨o, ⟨⟨hmem, huser⟩, c, hc, hgranted, hnumber⟩, rfl⟩
      obtain ⟨o', ho', hou, -, -⟩ := h.owed c hc
      obtain ⟨hmem', hnumber'⟩ := hm.order?_eq_some_iff.mp ho'
      obtain rfl := hm.eq_of_number hmem hmem' (hnumber'.trans hnumber).symm
      exact ⟨c, ⟨hc, hgranted, hou.symm.trans huser⟩, hnumber⟩
  · exact h.distinct.sublist (List.filter_sublist.map _)
  · exact (hm.nodup_ordersOf u).sublist (List.filter_sublist.map _)

/-- The balance of a user is what the user's credited orders earned. -/
theorem worth_eq (h : Credited s stage) (hm : s.trace.state.Indexed) (u : UserId) :
    (s.trace.state.balanceOf u).worth = Points.total (grantedAccruals s u) := by
  obtain ⟨requests, hrun⟩ := h.run
  have hexact := Trace.exact_run requests (hrun ▸ h.cents) u
  rw [← hrun] at hexact
  rw [hexact.worth, h.total_creditsOf, ((h.granted_perm hm u).map _).sum_eq, grantedAccruals,
    total_accruals hm]
  intro o ho
  exact (List.mem_filter.mp
    ((s.trace.state.ordersOf_perm u).mem_iff.mp (List.mem_filter.mp ho).1)).1

/-- Only processed orders were credited, and no accrual is negative. -/
theorem granted_le (h : Credited s stage) (hm : s.trace.state.Indexed) (he : s.trace.state.Earned)
    (u : UserId) :
    Points.total (grantedAccruals s u) ≤ Points.total (processedAccruals s u) := by
  have hmem : ∀ o ∈ s.trace.state.ordersOf u, o ∈ s.trace.state.orders := fun o ho =>
    (List.mem_filter.mp ((s.trace.state.ordersOf_perm u).mem_iff.mp ho)).1
  have hfilter : (s.trace.state.ordersOf u).filter (·.number ∈ grantedNumbers s.asked) =
      ((s.trace.state.ordersOf u).filter (·.status = .processed)).filter
        (·.number ∈ grantedNumbers s.asked) := by
    rw [List.filter_filter]
    refine List.filter_congr fun o ho => ?_
    rw [Bool.eq_iff_iff]
    simp only [decide_eq_true_eq, Bool.and_eq_true, iff_self_and]
    intro hgranted
    obtain ⟨c, hc, -, hnumber⟩ := mem_grantedNumbers.mp hgranted
    obtain ⟨o', ho', -, hprocessed, -⟩ := h.owed c hc
    rw [hnumber, hm.order?_of_mem (hmem o ho)] at ho'
    obtain rfl := Option.some.inj ho'
    exact hprocessed
  rw [grantedAccruals, hfilter, processedAccruals, Points.total, Points.total]
  refine ((List.filter_sublist.filterMap _).map _).sum_le_sum fun x hx => ?_
  obtain ⟨amount, hamount, rfl⟩ := List.mem_map.mp hx
  obtain ⟨o, ho, haccrual⟩ := List.mem_filterMap.mp hamount
  have hpos := (he o (hmem o (List.mem_filter.mp ho).1) amount haccrual).2
  exact (Decimal.toRat_pos_iff.mpr ((Decimal.zero_lt_iff amount).mp hpos)).le

end Credited

/-- **At most one credit for every order, and only with what it earned**: whatever the interleaving
of the worker with requests of users, and whatever the service says in cents,

* the stores are asked for no credits but those of the worker, and no two of those are for one
  order;
* when the worker is about to ask for a credit, it is for the owner of the order fetched last, which
  is stored as processed with just that accrual and was not credited before;
* it is still stored so ever after;
* what a user has and has spent is the sum of the accruals of those of the user's orders whose
  credit was granted, and so not more than that of all processed ones. -/
theorem Reachable.credited_once {w : Setting} (hw : w.ReportsCents) {s : State}
    (h : Reachable w s) :
    s.trace.creditCalls = (credits s.asked).map Credit.call ∧
    (creditedNumbers s.asked).Nodup ∧
    (∀ u amount next, s.worker = .ask (.store (.credit u amount)) next →
      ∃ number, fetched s.asked = some number ∧ Owed s.trace.state number u amount ∧
        number ∉ creditedNumbers s.asked) ∧
    (∀ c ∈ credits s.asked, Owed s.trace.state c.number c.userId c.amount) ∧
    ∀ u, (s.trace.state.balanceOf u).worth = Points.total (grantedAccruals s u) ∧
      (s.trace.state.balanceOf u).worth ≤ Points.total (processedAccruals s u) := by
  obtain ⟨stage, hrun, hworker⟩ := h.run
  have hf := hrun.follows
  have hc := hrun.credited hw
  refine ⟨hc.calls, hc.distinct, ?_, hc.owed, fun u => ⟨hc.worth_eq hf.indexed u, ?_⟩⟩
  · intro u amount next hasks
    rw [hworker] at hasks
    obtain ⟨stage', hmoves, -⟩ := Stage.moves hasks (.error .cancelled)
    cases hmoves with
    | uncredited report order amount orders =>
        obtain ⟨hfetched, -, hfresh⟩ := hc.current
        exact ⟨order.number, hfetched, hf.due rfl, hfresh⟩
  · rw [hc.worth_eq hf.indexed u]
    exact hc.granted_le hf.indexed hf.earned u

/-- An order for which the service reports 5.00 is credited, and the balance is its accrual. -/
theorem Reachable.credited_once_submitted :
    ∃ s, Reachable
      (.constant (.ok (.registered .processed (some { coeff := 500, scale := 2 })))) s ∧
      (credits s.asked).map Credit.call = [(default, { coeff := 500, scale := 2 }, true)] ∧
      (s.trace.state.balanceOf default).worth = Points.total (grantedAccruals s default) := by
  obtain ⟨s, h₁, htrace, hworker, hasked, -⟩ := Reachable.submitted (i := 0)
    (w := .constant (.ok (.registered .processed (some { coeff := 500, scale := 2 })))) rfl
  let order : Order := .submitted default default default default
  let five : Points := { coeff := 500, scale := 2 }
  have hw : (Setting.constant (.ok (.registered .processed (some five)))).ReportsCents := by
    intro number status amount h
    cases h
    decide
  have hpending :
      (Trace.start.ask ⟨default, .createOrder default default⟩).state.pending = [order] :=
    List.perm_singleton.mp (Memory.State.pending_perm _)
  have hkept : Order.persistedAccrual .processed (some five) = some five := by decide +kernel
  have h₂ := h₁.step (.tick hworker)
  have h₃ := h₂.move rfl (.begins _) rfl
  have h₄ := h₃.move rfl (.listed [order]) ⟨default, rfl, by
    change _ = Except.ok s.trace.state.pending
    rw [htrace, hpending]⟩
  have h₅ := h₄.move rfl (.goes _ order []) rfl
  have h₆ := h₅.move rfl (.hears _ order [] .processed (some five)) ⟨rfl, rfl⟩
  have h₇ := h₆.move rfl (.earns _ order .processed (some five) [] five hkept) ⟨default, rfl, by
    dsimp only
    rw [htrace]
    decide +kernel⟩
  have h₈ := h₇.move rfl (.credited _ order five []) ⟨default, rfl, by
    dsimp only
    rw [htrace]
    decide +kernel⟩
  refine ⟨_, h₈, ?_, ((h₈.credited_once hw).2.2.2.2 default).1⟩
  rw [hasked]
  rfl

end Loyalty.System
