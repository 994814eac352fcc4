import Loyalty.Proofs.System.Web

/-!
# Loyalty.Proofs.System.Finality

A final status is for good, and a server has to name it.

The stores would overwrite a final status like any other.  That it never happens
is because the worker asks only about orders of its snapshot, and those are still
pending when it comes to them (`Follows.order?_advance`).

A status is written down right after the answer that says so, and nothing is asked
about an order that is final.  So the last word of the server on the number of a
final order is the 200 that names its status (`Attested`), and any other last word
leaves an order that is not final.
-/

namespace Loyalty.System

open Accrual Store Store.Memory

/-! ## what a step does to orders -/

/-- All orders are as they were, and those that are new are not final. -/
structure Keeps (m m' : Memory.State) : Prop where
  mono : ∀ {n o}, m.order? n = some o → m'.order? n = some o
  of_isFinal : ∀ {n o}, m'.order? n = some o → o.status.isFinal = true → m.order? n = some o

theorem Keeps.refl (m : Memory.State) : Keeps m m where
  mono h := h
  of_isFinal h _ := h

/-- A call that is no update keeps the orders. -/
theorem keeps_ask {t : Trace} (ht : t.state.Indexed) {r : Request}
    (hcall : ∀ n status accrual, r.call ≠ .updateStatus n status accrual) :
    Keeps t.state (t.ask r).state where
  mono := (t.state.files_step r.stamp r.call).order?_mono ht hcall
  of_isFinal := (t.state.files_step r.stamp r.call).order?_of_isFinal ht hcall

section

variable {w : Setting} {s s' : State} {stage stage' : Stage} {n : OrderNumber} {o : Order}

/-- What an answer to the worker does to orders: nothing, unless it is that a status was written
down. -/
theorem Follows.keeps_or_updates (h : Follows s stage) {q : Question} {r : q.Answer} {t : Trace}
    (hmoves : stage.Moves q r stage') (htells : Tells w s.trace q r t) :
    Keeps s.trace.state t.state ∨
      ∃ report order status accrual orders, stage = .updating report order status accrual orders ∧
        t.state = (s.trace.state.updateStatus order.number status
          (Order.persistedAccrual status accrual)).2 := by
  cases q with
  | fetch number =>
      obtain ⟨-, rfl⟩ := htells
      exact .inl (.refl _)
  | coolDown _ | startCooldown _ | stopping =>
      obtain rfl := htells
      exact .inl (.refl _)
  | store call =>
      obtain ⟨stamp, rfl, -⟩ := htells
      by_cases hcall : ∃ n status kept, call = .updateStatus n status kept
      · obtain ⟨n, status, kept, rfl⟩ := hcall
        obtain ⟨report, order, accrual, orders, hstage, rfl, rfl⟩ := hmoves.of_update
        exact .inr ⟨report, order, status, accrual, orders, hstage, rfl⟩
      · exact .inl (keeps_ask h.indexed fun n status kept heq => hcall ⟨n, status, kept, heq⟩)

/-- What a step does to orders: nothing, unless the worker writes down a status. -/
theorem Follows.keeps_or_updates_of_advance (h : Follows s stage)
    (hadvance : Advance w s stage s' stage') :
    Keeps s.trace.state s'.trace.state ∨
      ∃ report order status accrual orders, stage = .updating report order status accrual orders ∧
        s'.trace.state =
          (s.trace.state.updateStatus order.number status
            (Order.persistedAccrual status accrual)).2 := by
  cases hadvance with
  | worker hmoves htells => exact h.keeps_or_updates hmoves htells
  | tick => exact .inl (.refl _)
  | client hasks hserves =>
      obtain ⟨hneed, -⟩ := (h.clients _).of_ask hasks
      cases hserves.trace_eq hneed with
      | inl htrace =>
          subst htrace
          exact .inl (.refl _)
      | inr hcall =>
          obtain ⟨stamp, call, hcall, rfl⟩ := hcall
          exact .inl (keeps_ask h.indexed hcall.ne_updateStatus)

/-- An order that is final is none that waits. -/
theorem Waits.ne_of_isFinal {m : Memory.State} {o' : Order} (h : Waits m o')
    (ho : m.order? n = some o) (hfinal : o.status.isFinal = true) : n ≠ o'.number := by
  rintro rfl
  obtain ⟨o'', ho'', -, hpending⟩ := h
  rw [ho] at ho''
  obtain rfl := Option.some.inj ho''
  rw [hfinal] at hpending
  contradiction

/-- No step changes an order that is final. -/
theorem Follows.order?_advance (h : Follows s stage) (hadvance : Advance w s stage s' stage')
    (ho : s.trace.state.order? n = some o) (hfinal : o.status.isFinal = true) :
    s'.trace.state.order? n = some o := by
  cases h.keeps_or_updates_of_advance hadvance with
  | inl hkeeps => exact hkeeps.mono ho
  | inr hupdate =>
      obtain ⟨report, order, status, accrual, orders, rfl, hstate⟩ := hupdate
      have hwaits := h.snapshot.waits order (List.mem_cons_self ..)
      rw [hstate, h.indexed.order?_updateStatus, if_neg (hwaits.ne_of_isFinal ho hfinal)]
      exact ho

end

/-! ## the last word of the server -/

/-- The newest of these replies is a 200 whose report means a status. -/
def Attests (replies : List (Except String Gateway.Answer)) (status : OrderStatus) : Prop :=
  ∃ a report, replies.head? = some (.ok a) ∧ a.status = 200 ∧ a.report? = some report ∧
    Gateway.statusOf report.status = status

namespace Web

variable {w : Setting} {base : String} {s s' : Web} {stage stage' : Stage} {n : OrderNumber}
  {o : Order}

/-- One more request is one about its own number only. -/
theorem replies_cons (base : String) (number n : OrderNumber) (reply : Except String Gateway.Answer)
    (state : State) (wire : List (Program.Exchange Gateway.Get.Answer)) :
    (Web.mk state (⟨⟨Gateway.address base number⟩, reply⟩ :: wire)).replies base n =
      if n = number then reply :: (Web.mk state wire).replies base n
      else (Web.mk state wire).replies base n := by
  by_cases h : n = number
  · simp [replies, h]
  · have hne : Gateway.address base number ≠ Gateway.address base n :=
      fun heq => h (Gateway.address_inj.mp heq).symm
    simp [replies, h, hne]

/-- What holds of a system whose worker is at a stage. -/
structure Attested (base : String) (s : Web) (stage : Stage) : Prop where
  follows : Follows s.state stage
  /-- The last word on a final order is its status. -/
  isFinal : ∀ {n o}, s.order? n = some o → o.status.isFinal = true →
    Attests (s.replies base n) o.status
  /-- The last word on the order whose status is to be written down is that status. -/
  updating : ∀ {report order status accrual orders},
    stage = .updating report order status accrual orders →
    Attests (s.replies base order.number) status

namespace Attested

theorem start (w : Setting) (base : String) : Attested base (Web.start w) (.left .empty []) where
  follows := .start w
  isFinal h := by
    simp [order?, Web.start, System.start, Trace.start, State.order?, State.empty] at h
  updating h := by cases h

/-- Nobody asks about an order that is final. -/
theorem replies_advance (h : Attested base s stage) (hadvance : Advance w base s stage s' stage')
    (ho : s.order? n = some o) (hfinal : o.status.isFinal = true) :
    s'.replies base n = s.replies base n := by
  cases hadvance with
  | other h => rfl
  | fetch hmoves hgives =>
      obtain ⟨report, order, orders, rfl, rfl⟩ := hmoves.of_fetch
      obtain ⟨reply, rfl, -⟩ := Gateway.gives_fetch_iff.mp hgives
      have hwaits := h.follows.snapshot.waits order (List.mem_cons_self ..)
      rw [List.reverse_singleton, List.singleton_append, replies_cons,
        if_neg (hwaits.ne_of_isFinal ho hfinal)]
      rfl

/-- Nothing is asked of the server between its word and the writing down of it. -/
theorem replies_of_updating {report : Report} {order : Order} {status : OrderStatus}
    {accrual : Option Points} {orders : List Order}
    (hadvance : Advance w base s (.updating report order status accrual orders) s' stage')
    (n : OrderNumber) : s'.replies base n = s.replies base n := by
  cases hadvance with
  | other h => rfl
  | fetch hmoves hgives => cases hmoves

/-- The order whose status is to be written down is the one that was just asked about. -/
theorem attests_of_updating (h : Attested base s stage) {report : Report} {order : Order}
    {status : OrderStatus} {accrual : Option Points} {orders : List Order}
    (hadvance : Advance w base s stage s' (.updating report order status accrual orders)) :
    Attests (s'.replies base order.number) status := by
  cases hadvance with
  | fetch hmoves hgives =>
      cases hmoves with
      | hears report order orders status accrual =>
          obtain ⟨a, said, rfl, hstatus, hreport, houtcome⟩ := Gateway.of_gives_registered hgives
          rw [List.reverse_singleton, List.singleton_append, replies_cons, if_pos rfl]
          have hmeans : Gateway.statusOf said.status = status := by
            injection houtcome
          exact ⟨a, said, rfl, hstatus, hreport, hmeans⟩
  | other hadvance =>
      cases hadvance with
      | client hasks hserves => exact h.updating rfl
      | worker hmoves htells =>
          cases hmoves with
          | hears => exact htells.1.elim

theorem advance (h : Attested base s stage) (hadvance : Advance w base s stage s' stage') :
    Attested base s' stage' where
  follows := h.follows.advance hadvance.online
  isFinal {n o} ho hfinal := by
    cases h.follows.keeps_or_updates_of_advance hadvance.online with
    | inl hkeeps =>
        have hold : s.order? n = some o := hkeeps.of_isFinal ho hfinal
        rw [h.replies_advance hadvance hold hfinal]
        exact h.isFinal hold hfinal
    | inr hupdate =>
        obtain ⟨report, order, status, accrual, orders, rfl, hstate⟩ := hupdate
        rw [order?, hstate, h.follows.indexed.order?_updateStatus] at ho
        by_cases hn : n = order.number
        · rw [if_pos hn, Option.map_eq_some_iff] at ho
          obtain ⟨o', -, rfl⟩ := ho
          rw [replies_of_updating hadvance, hn]
          exact h.updating rfl
        · rw [if_neg hn] at ho
          rw [h.replies_advance hadvance ho hfinal]
          exact h.isFinal ho hfinal
  updating hstage := by
    subst hstage
    exact h.attests_of_updating hadvance

end Attested

/-- Whatever a system comes to, its worker is at some stage, and the last words of the server are
known. -/
theorem Reachable.attested (h : Reachable w base s) :
    ∃ stage, s.state.worker = stage.program ∧ Attested base s stage := by
  induction h with
  | refl => exact ⟨.left .empty [], rfl, .start w base⟩
  | tail _ hstep ih =>
      obtain ⟨stage, hworker, hattested⟩ := ih
      obtain ⟨stage', hadvance, hworker'⟩ := hstep.advance hworker
      exact ⟨stage', hworker', hattested.advance hadvance⟩

/-- What is final stays as it is, and nobody asks about it. -/
theorem Reachable.keeps_final (h : Reachable w base s) (hreaches : Reaches w base s s')
    (ho : s.order? n = some o) (hfinal : o.status.isFinal = true) :
    s'.order? n = some o ∧ s'.replies base n = s.replies base n := by
  induction hreaches with
  | refl => exact ⟨ho, rfl⟩
  | tail hreaches hstep ih =>
      obtain ⟨hkept, hreplies⟩ := ih
      obtain ⟨stage, hworker, hattested⟩ := Reachable.attested (h.trans hreaches)
      obtain ⟨stage', hadvance, -⟩ := hstep.advance hworker
      have hnext := hattested.follows.order?_advance hadvance.online hkept hfinal
      exact ⟨hnext, (hattested.replies_advance hadvance hkept hfinal).trans hreplies⟩

/-- **Final statuses are earned, and for good**: whatever the interleaving of the worker with
requests of users, and whatever the server answers, in every state that the system can come to

* the order of a number is invalid or processed only if the last word of the server on that number
  is a 200 whose report has that very name as its status; so after any other name, any other answer
  and no answer at all the order is not final;
* an order that is final is the same ever after, with its status and its accrual, and its number is
  never asked about again;
* an order has an accrual only if it is processed, and then a positive one. -/
theorem Reachable.final_for_good (h : Reachable w base s) :
    (∀ n o, s.order? n = some o → o.status.isFinal = true →
      (∃ a report, (s.replies base n).head? = some (.ok a) ∧ a.status = 200 ∧
        a.report? = some report ∧
        report.status = o.status.name) ∧
      ∀ s', Reaches w base s s' → s'.order? n = some o ∧ s'.replies base n = s.replies base n) ∧
    ∀ n o amount, s.order? n = some o → o.accrual = some amount →
      o.status = .processed ∧ Decimal.zero < amount := by
  obtain ⟨stage, -, hattested⟩ := h.attested
  constructor
  · intro n o ho hfinal
    obtain ⟨a, report, hreply, hstatus, hreport, hmeans⟩ := hattested.isFinal ho hfinal
    have hname : report.status = o.status.name := by
      rw [← hmeans] at hfinal ⊢
      exact Gateway.eq_name_of_isFinal hfinal
    exact ⟨⟨a, report, hreply, hstatus, hreport, hname⟩,
      fun s' hreaches => h.keeps_final hreaches ho hfinal⟩
  · intro n o amount ho haccrual
    have hmem := (hattested.follows.indexed.order?_eq_some_iff.mp ho).1
    exact hattested.follows.earned o hmem amount haccrual

/-- An order that the server calls processed, with 5 points, is so in whatever comes after. -/
theorem Reachable.final_for_good_processed :
    ∃ (w : Setting) (s : Web) (o : Order), Reachable w "http://accrual" s ∧
      s.order? default = some o ∧
      o.status = .processed ∧ o.accrual = some { coeff := 5, scale := 0 } ∧
      ∀ s', Reaches w "http://accrual" s s' →
        s'.order? default = some o ∧
          s'.replies "http://accrual" default = s.replies "http://accrual" default := by
  let w : Setting := .constant (.ok .notRegistered)
  let order : Order := .submitted default default default default
  let five : Points := { coeff := 5, scale := 0 }
  let answer : Gateway.Answer :=
    { status := 200
      headers := []
      body := some (Text.Utf8.encode "\x7b\"status\":\"PROCESSED\",\"accrual\":5\x7d") }
  obtain ⟨s₀, h₀, htrace, hworker, -⟩ := System.Reachable.submitted (w := w.silent) (i := 0) rfl
  have hpending :
      (Trace.start.ask ⟨default, .createOrder default default⟩).state.pending = [order] :=
    List.perm_singleton.mp (Memory.State.pending_perm _)
  have h₁ := h₀.step (.tick hworker)
  have h₂ := h₁.move rfl (.begins _) rfl
  have h₃ := h₂.move rfl (.listed [order]) ⟨default, rfl, by
    change _ = Except.ok s₀.trace.state.pending
    rw [htrace, hpending]⟩
  have h₄ : Reachable w "http://accrual" _ := reaches_of_silent (h₃.move rfl (.goes _ order []) rfl)
  have hsaid : Gateway.read answer = .ok (.registered .processed (some five)) := by decide +kernel
  have hgives :
      (Gateway.fetch "http://accrual" default).Gives _ (.ok (.registered .processed (some five))) :=
    Gateway.gives_fetch_iff.mpr ⟨.ok answer, rfl, hsaid.symm⟩
  have h₅ := h₄.tail (.fetch rfl hgives)
  have h₆ := h₅.tail (.other (.worker rfl ⟨default, rfl, rfl⟩))
  have ho : (s₀.trace.state.updateStatus default .processed (some five)).2.order? default =
      some (order.revised .processed (some five)) := by
    rw [htrace]
    decide +kernel
  exact ⟨w, _, _, h₆, ho, rfl, rfl, ((Reachable.final_for_good h₆).1 _ _ ho rfl).2⟩

end Web

end Loyalty.System
