import Loyalty.Accrual.Worker
import Loyalty.Proofs.Program

/-!
# Loyalty.Proofs.Accrual.Visits

What a pass does with the orders of the listing.

A pass visits orders, and what it asks and calls because of an order is a function
of what was answered about that order (`Visit.calls`).  `Visited` says which
orders are visited: a first part of the listing, in its order, that ends with the
first order for which the service wants to be left alone or before the first one
for which the program was found stopping.  A pass comes to a report by exactly the
exchanges of such visits (`gives_reconcile_iff`), and the report counts them.
-/

namespace Loyalty.Accrual

/-- An order that the service was asked about, what it said, and what the store would say to having
it written down and credited. -/
structure Visit where
  order : Order
  answer : Except GatewayError Outcome
  update : Except StoreError Unit
  credit : Except StoreError Unit

namespace Visit

/-- The milliseconds for which the service wants to be left alone, if it said so. -/
def throttled? (v : Visit) : Option ℕ :=
  match v.answer with
  | .ok (.throttled ms) => some ms
  | _ => none

/-- The calls of the store that a visit makes, as they are answered: the status is written with the
accrual that it keeps, and that is credited once it is written. -/
def calls (v : Visit) : List (Program.Exchange Question.Answer) :=
  match v.answer with
  | .ok (.registered status accrual) =>
    let kept := Order.persistedAccrual status accrual
    ⟨.store (.updateStatus v.order.number status kept), v.update⟩ ::
      match v.update, kept with
      | .ok _, some amount => [⟨.store (.credit v.order.userId amount), v.credit⟩]
      | _, _ => []
  | _ => []

/-- What a visit leads to once the service has answered. -/
def consequences (v : Visit) : List (Program.Exchange Question.Answer) :=
  v.calls ++ match v.throttled? with
    | some ms => [⟨.startCooldown ms, ()⟩]
    | none => []

/-- All exchanges of a visit. -/
def exchanges (v : Visit) : List (Program.Exchange Question.Answer) :=
  ⟨.stopping, false⟩ :: ⟨.fetch v.order.number, v.answer⟩ :: v.consequences

/-- The report of a pass after one more visit. -/
def report (v : Visit) (before : Report) : Report :=
  let asked := { before with polled := before.polled + 1 }
  match v.answer with
  | .ok (.throttled ms) => { asked with throttled := some ms }
  | .ok (.registered status accrual) =>
    match v.update, Order.persistedAccrual status accrual, v.credit with
    | .error _, _, _ => asked
    | .ok _, some _, .ok _ =>
        { asked with updated := asked.updated + 1, credited := asked.credited + 1 }
    | .ok _, _, _ => { asked with updated := asked.updated + 1 }
  | _ => asked

end Visit

/-- The visits of a pass over a listing, and whether the program was found stopping after them. -/
structure Visited (orders : List Order) (visits : List Visit) (stopped : Bool) : Prop where
  /-- They are visits of the first orders, in their order. -/
  first : visits.map Visit.order <+: orders
  /-- Only the last one may be throttled. -/
  unthrottled : ∀ v ∈ visits.dropLast, v.throttled? = none
  /-- Nothing but a throttled visit and a stop of the program keeps a pass from the end of the
  listing. -/
  complete : stopped = false → (∀ v ∈ visits, v.throttled? = none) → visits.map Visit.order = orders
  /-- The program is found stopping before an order, and after no throttled one. -/
  stops : stopped = true → (∀ v ∈ visits, v.throttled? = none) ∧ visits.length < orders.length

section

variable {orders : List Order} {v : Visit} {visits : List Visit} {stopped : Bool}

theorem visited_nil_iff : Visited orders [] stopped ↔ (stopped = true ↔ orders ≠ []) := by
  constructor
  · intro h
    cases stopped with
    | false => simpa using (h.complete rfl (by simp)).symm
    | true => simpa [List.length_pos_iff] using (h.stops rfl).2
  · intro h
    refine ⟨List.nil_prefix, by simp, fun hstopped _ => ?_, fun hstopped => ⟨by simp, ?_⟩⟩
    · simpa [hstopped, eq_comm] using h
    · exact List.length_pos_iff.mpr (h.mp hstopped)

/-- A visit that is not throttled is followed by visits of the orders behind it. -/
theorem visited_cons_iff_of_none (hv : v.throttled? = none) :
    Visited orders (v :: visits) stopped ↔
      ∃ rest, orders = v.order :: rest ∧ Visited rest visits stopped := by
  constructor
  · intro h
    obtain ⟨tail, htail⟩ := h.first
    refine ⟨visits.map Visit.order ++ tail, htail.symm, List.prefix_append ..,
      fun w hw => h.unthrottled w ?_,
      fun hstopped hall => ?_, fun hstopped => ?_⟩
    · cases visits with
      | nil => cases hw
      | cons w' visits => exact List.mem_cons_of_mem v hw
    · have hcomplete := h.complete hstopped (List.forall_mem_cons.mpr ⟨hv, hall⟩)
      exact (List.cons.inj (hcomplete.trans htail.symm)).2
    · obtain ⟨hall, hlt⟩ := h.stops hstopped
      rw [← htail] at hlt
      exact ⟨(List.forall_mem_cons.mp hall).2, by simpa [Nat.succ_le_iff] using hlt⟩
  · rintro ⟨rest, rfl, h⟩
    refine ⟨(List.prefix_cons_inj v.order).mpr h.first, fun w hw => ?_, fun hstopped hall => ?_,
      fun hstopped => ?_⟩
    · cases visits with
      | nil => cases hw
      | cons w' visits =>
          cases List.mem_cons.mp hw with
          | inl heq => rwa [heq]
          | inr hmem => exact h.unthrottled w hmem
    · exact congrArg (v.order :: ·) (h.complete hstopped (List.forall_mem_cons.mp hall).2)
    · obtain ⟨hall, hlt⟩ := h.stops hstopped
      exact ⟨List.forall_mem_cons.mpr ⟨hv, hall⟩, by simpa using hlt⟩

/-- A throttled visit is the last one. -/
theorem visited_cons_iff_of_some {ms : ℕ} (hv : v.throttled? = some ms) :
    Visited orders (v :: visits) stopped ↔
      visits = [] ∧ stopped = false ∧ ∃ rest, orders = v.order :: rest := by
  constructor
  · intro h
    obtain ⟨tail, htail⟩ := h.first
    refine ⟨?_, Bool.eq_false_iff.mpr fun hstopped => ?_, _, htail.symm⟩
    · by_contra hne
      obtain ⟨w, visits, rfl⟩ := List.exists_cons_of_ne_nil hne
      rw [h.unthrottled v (List.mem_cons_self ..)] at hv
      contradiction
    · rw [(h.stops hstopped).1 v (List.mem_cons_self ..)] at hv
      contradiction
  · rintro ⟨rfl, rfl, rest, rfl⟩
    refine ⟨List.prefix_append [v.order] rest, by simp, fun _ hall => ?_,
      fun hstopped => absurd hstopped Bool.false_ne_true⟩
    rw [hall v (List.mem_singleton_self v)] at hv
    contradiction

/-- Only the last visit can be throttled. -/
theorem Visited.pairwise (h : Visited orders visits stopped) :
    visits.Pairwise fun v _ => v.throttled? = none := by
  induction visits generalizing orders with
  | nil => exact .nil
  | cons v visits ih =>
      cases hv : v.throttled? with
      | none =>
          obtain ⟨rest, -, hrest⟩ := (visited_cons_iff_of_none hv).mp h
          exact .cons (fun _ _ => hv) (ih hrest)
      | some ms =>
          obtain ⟨rfl, -, -⟩ := (visited_cons_iff_of_some hv).mp h
          exact List.pairwise_singleton _ v

end

/-! ## passes -/

/-- The report of some visits. -/
def reportOf (visits : List Visit) (before : Report) : Report :=
  visits.foldl (fun before v => v.report before) before

/-- The exchanges of a pass over a listing: those of its visits, and the look that found the program
stopping. -/
def passed (visits : List Visit) (stopped : Bool) : List (Program.Exchange Question.Answer) :=
  visits.flatMap Visit.exchanges ++ if stopped then [⟨.stopping, true⟩] else []

@[simp] theorem passed_cons (v : Visit) (visits : List Visit) (stopped : Bool) :
    passed (v :: visits) stopped = v.exchanges ++ passed visits stopped := by
  simp [passed]

/-- What follows from the answer about an order is a visit of it, and the rest of the pass unless
the service wants to be left alone. -/
theorem gives_heard_iff {order : Order} {rest : Report → Program Question.Answer Report}
    {report report' : Report} {answer : Except GatewayError Outcome}
    {log : List (Program.Exchange Question.Answer)} :
    (heard order rest { report with polled := report.polled + 1 } answer).Gives log report' ↔
      ∃ (v : Visit) (log' : _), v.order = order ∧ v.answer = answer ∧ log = v.consequences ++ log' ∧
        if v.throttled? = none then (rest (v.report report)).Gives log' report'
        else log' = [] ∧ report' = v.report report := by
  constructor
  · intro h
    match answer, h with
    | .error e, h => exact ⟨⟨order, .error e, .ok (), .ok ()⟩, log, rfl, rfl, rfl, h⟩
    | .ok .notRegistered, h =>
        exact ⟨⟨order, .ok .notRegistered, .ok (), .ok ()⟩, log, rfl, rfl, rfl, h⟩
    | .ok (.throttled ms), h =>
        obtain ⟨-, log', rfl, h⟩ := Program.gives_ask_iff.mp h
        obtain ⟨rfl, rfl⟩ := Program.gives_done_iff.mp h
        exact ⟨⟨order, .ok (.throttled ms), .ok (), .ok ()⟩, [], rfl, rfl, rfl, rfl, rfl⟩
    | .ok (.registered status accrual), h =>
        obtain ⟨update, log', rfl, hupdate⟩ := Program.gives_ask_iff.mp h
        cases update with
        | error e =>
            exact ⟨⟨order, .ok (.registered status accrual), .error e, .ok ()⟩, log', rfl, rfl,
              rfl, hupdate⟩
        | ok u =>
            dsimp only at hupdate
            cases hkept : Order.persistedAccrual status accrual with
            | none =>
                rw [hkept] at hupdate
                refine ⟨⟨order, .ok (.registered status accrual), .ok u, .ok ()⟩, log', rfl,
                  rfl, ?_, ?_⟩
                · simp [Visit.consequences, Visit.calls, Visit.throttled?, hkept]
                · simpa [Visit.throttled?, Visit.report, hkept, credit] using hupdate
            | some amount =>
                rw [hkept] at hupdate
                obtain ⟨credited, log'', rfl, hcredit⟩ := Program.gives_ask_iff.mp hupdate
                refine ⟨⟨order, .ok (.registered status accrual), .ok u, credited⟩, log'', rfl,
                  rfl, ?_, ?_⟩
                · simp [Visit.consequences, Visit.calls, Visit.throttled?, hkept]
                · cases credited <;> simpa [Visit.throttled?, Visit.report, hkept] using hcredit
  · rintro ⟨⟨order, answer, update, credited⟩, log, rfl, rfl, rfl, h⟩
    match answer, h with
    | .error e, h => exact h
    | .ok .notRegistered, h => exact h
    | .ok (.throttled ms), h =>
        obtain ⟨rfl, rfl⟩ := h
        exact Program.gives_ask_iff.mpr ⟨(), [], rfl, .done _⟩
    | .ok (.registered status accrual), h =>
        refine Program.gives_ask_iff.mpr ⟨update, _, rfl, ?_⟩
        cases update with
        | error e => exact h
        | ok u =>
            dsimp only
            cases hkept : Order.persistedAccrual status accrual with
            | none => simpa [Visit.throttled?, Visit.report, hkept, credit] using h
            | some amount =>
                refine Program.gives_ask_iff.mpr ⟨credited, log, by simp [Visit.throttled?], ?_⟩
                cases credited <;> simpa [Visit.throttled?, Visit.report, hkept] using h

/-- **A pass over a listing is its visits.** -/
theorem gives_reconcile_iff {orders : List Order} {report report' : Report}
    {log : List (Program.Exchange Question.Answer)} :
    (reconcile report orders).Gives log report' ↔ ∃ visits stopped, Visited orders visits stopped ∧
      log = passed visits stopped ∧ report' = reportOf visits report := by
  induction orders generalizing report log with
  | nil =>
      rw [reconcile, Program.gives_done_iff]
      constructor
      · rintro ⟨rfl, rfl⟩
        exact ⟨[], false, visited_nil_iff.mpr (by simp), rfl, rfl⟩
      · rintro ⟨visits, stopped, hvisited, rfl, rfl⟩
        obtain rfl : visits = [] := List.map_eq_nil_iff.mp (List.prefix_nil.mp hvisited.first)
        have hstopped : stopped = false := by simpa using visited_nil_iff.mp hvisited
        subst hstopped
        exact ⟨rfl, rfl⟩
  | cons order orders ih =>
      rw [reconcile, Program.gives_ask_iff]
      constructor
      · rintro ⟨stopping, log, rfl, h⟩
        cases stopping with
        | true =>
            obtain ⟨rfl, rfl⟩ := Program.gives_done_iff.mp h
            exact ⟨[], true, visited_nil_iff.mpr (by simp), rfl, rfl⟩
        | false =>
            obtain ⟨answer, log, rfl, hheard⟩ := Program.gives_ask_iff.mp h
            obtain ⟨v, log, rfl, rfl, rfl, hrest⟩ := gives_heard_iff.mp hheard
            cases hv : v.throttled? with
            | none =>
                rw [if_pos hv] at hrest
                obtain ⟨visits, stopped, hvisited, rfl, rfl⟩ := ih.mp hrest
                exact ⟨v :: visits, stopped,
                  (visited_cons_iff_of_none hv).mpr ⟨orders, rfl, hvisited⟩,
                  (passed_cons ..).symm, rfl⟩
            | some ms =>
                rw [if_neg (by simp [hv])] at hrest
                obtain ⟨rfl, rfl⟩ := hrest
                exact ⟨[v], false, (visited_cons_iff_of_some hv).mpr ⟨rfl, rfl, orders, rfl⟩,
                  by simp [passed, Visit.exchanges], rfl⟩
      · rintro ⟨visits, stopped, hvisited, rfl, rfl⟩
        cases visits with
        | nil =>
            have hstopped : stopped = true := by simpa using visited_nil_iff.mp hvisited
            exact ⟨true, [], by simp [passed, hstopped], .done _⟩
        | cons v visits =>
            cases hv : v.throttled? with
            | none =>
                obtain ⟨rest, heq, hrest⟩ := (visited_cons_iff_of_none hv).mp hvisited
                obtain ⟨rfl, rfl⟩ := List.cons.inj heq
                refine ⟨false, _, passed_cons .., Program.gives_ask_iff.mpr ⟨v.answer, _, rfl, ?_⟩⟩
                refine gives_heard_iff.mpr ⟨v, passed visits stopped, rfl, rfl, rfl, ?_⟩
                rw [if_pos hv]
                exact ih.mpr ⟨visits, stopped, hrest, rfl, rfl⟩
            | some ms =>
                obtain ⟨rfl, rfl, rest, heq⟩ := (visited_cons_iff_of_some hv).mp hvisited
                obtain ⟨rfl, rfl⟩ := List.cons.inj heq
                refine ⟨false, _, passed_cons .., Program.gives_ask_iff.mpr ⟨v.answer, _, rfl, ?_⟩⟩
                refine gives_heard_iff.mpr ⟨v, [], rfl, rfl, rfl, ?_⟩
                rw [if_neg (by simp [hv])]
                exact ⟨rfl, rfl⟩

/-! ## reports -/

/-- The service was asked about an order. -/
def isFetch : Program.Exchange Question.Answer → Bool
  | ⟨.fetch _, _⟩ => true
  | _ => false

theorem isFetch_iff {x : Program.Exchange Question.Answer} :
    isFetch x = true ↔ ∃ number, x.question = .fetch number := by
  obtain ⟨q, r⟩ := x
  cases q <;> simp [isFetch]

/-- A status was written. -/
def isUpdated : Program.Exchange Question.Answer → Bool
  | ⟨.store (.updateStatus ..), .ok _⟩ => true
  | _ => false

/-- An accrual was credited. -/
def isCredited : Program.Exchange Question.Answer → Bool
  | ⟨.store (.credit ..), .ok _⟩ => true
  | _ => false

/-- A report that counts what was done. -/
structure Reported (log : List (Program.Exchange Question.Answer)) (report : Report) : Prop where
  cooledDown : report.cooledDown = false
  polled : report.polled = log.countP isFetch
  updated : report.updated = log.countP isUpdated
  credited : report.credited = log.countP isCredited
  throttled : ∀ ms, report.throttled = some ms ↔
    ∃ number, (log.filter isFetch).getLast? = some ⟨.fetch number, .ok (.throttled ms)⟩

/-- Exchanges are reported in one way. -/
theorem Reported.unique {log : List (Program.Exchange Question.Answer)} {report report' : Report}
    (h : Reported log report) (h' : Reported log report') : report = report' := by
  obtain ⟨cooledDown, polled, updated, credited, throttled⟩ := report
  obtain ⟨cooledDown', polled', updated', credited', throttled'⟩ := report'
  obtain rfl : throttled = throttled' :=
    Option.ext fun ms => (h.throttled ms).trans (h'.throttled ms).symm
  obtain ⟨rfl, rfl, rfl, rfl, -⟩ := h
  obtain ⟨rfl, rfl, rfl, rfl, -⟩ := h'
  rfl

/-- How the exchanges of a visit count in the report. -/
structure Visit.Counts (v : Visit) (before : Report) : Prop where
  cooledDown : (v.report before).cooledDown = before.cooledDown
  fetches : v.exchanges.filter isFetch = [⟨.fetch v.order.number, v.answer⟩]
  polled : (v.report before).polled = before.polled + 1
  updated : (v.report before).updated = before.updated + v.exchanges.countP isUpdated
  credited : (v.report before).credited = before.credited + v.exchanges.countP isCredited
  throttled : (v.report before).throttled = v.throttled?.or before.throttled

theorem Visit.counts (v : Visit) (before : Report) : v.Counts before := by
  obtain ⟨order, answer, update, credited⟩ := v
  match answer with
  | .error e => constructor <;> rfl
  | .ok .notRegistered => constructor <;> rfl
  | .ok (.throttled ms) => constructor <;> rfl
  | .ok (.registered status accrual) =>
      -- Whatever is kept, the exchanges are known as soon as the answers of the store are.
      cases hkept : Order.persistedAccrual status accrual with
      | none =>
          have hcalls : (Visit.mk order (.ok (.registered status accrual)) update credited).calls =
              [⟨.store (.updateStatus order.number status (Order.persistedAccrual status accrual)),
                update⟩] := by
            cases update <;> simp [calls, hkept]
          cases update <;> constructor <;>
            simp only [report, exchanges, consequences, hcalls, hkept] <;> rfl
      | some amount =>
          have hcalls : (Visit.mk order (.ok (.registered status accrual)) update credited).calls =
              ⟨.store (.updateStatus order.number status (Order.persistedAccrual status accrual)),
                update⟩ ::
                match update with
                | .ok _ => [⟨.store (.credit order.userId amount), credited⟩]
                | .error _ => [] := by
            cases update <;> simp [calls, hkept]
          cases update <;> cases credited <;> constructor <;>
            simp only [report, exchanges, consequences, hcalls, hkept] <;> rfl

theorem Visit.throttled?_eq_some_iff {v : Visit} {ms : ℕ} :
    v.throttled? = some ms ↔ v.answer = .ok (.throttled ms) := by
  unfold throttled?
  split
  · next ms' h => simp [h]
  · next h => exact ⟨nofun, fun hanswer => absurd hanswer (h ms)⟩

section

variable {orders : List Order} {visits : List Visit} {stopped : Bool} {before : Report}

theorem filter_passed (visits : List Visit) (stopped : Bool) :
    (passed visits stopped).filter isFetch =
      visits.map fun v =>
        (⟨.fetch v.order.number, v.answer⟩ : Program.Exchange Question.Answer) := by
  induction visits with
  | nil => cases stopped <;> rfl
  | cons v visits ih =>
      rw [passed_cons, List.filter_append, (v.counts .empty).fetches, ih, List.map_cons]; rfl

theorem countP_isFetch_passed (visits : List Visit) (stopped : Bool) :
    (passed visits stopped).countP isFetch = visits.length := by
  rw [List.countP_eq_length_filter, filter_passed, List.length_map]

theorem cooledDown_reportOf : (reportOf visits before).cooledDown = before.cooledDown := by
  induction visits generalizing before with
  | nil => rfl
  | cons v visits ih => exact ih.trans (v.counts before).cooledDown

theorem polled_reportOf : (reportOf visits before).polled = before.polled + visits.length := by
  induction visits generalizing before with
  | nil => rfl
  | cons v visits ih =>
      refine ih.trans ?_
      rw [(v.counts before).polled, List.length_cons, Nat.add_assoc, Nat.add_comm 1]

theorem updated_reportOf :
    (reportOf visits before).updated = before.updated +
      (passed visits stopped).countP isUpdated := by
  induction visits generalizing before with
  | nil => cases stopped <;> rfl
  | cons v visits ih =>
      refine ih.trans ?_
      rw [(v.counts before).updated, passed_cons, List.countP_append, Nat.add_assoc]

theorem credited_reportOf :
    (reportOf visits before).credited = before.credited +
      (passed visits stopped).countP isCredited := by
  induction visits generalizing before with
  | nil => cases stopped <;> rfl
  | cons v visits ih =>
      refine ih.trans ?_
      rw [(v.counts before).credited, passed_cons, List.countP_append, Nat.add_assoc]

/-- Only the last visit can have been throttled. -/
theorem throttled_reportOf (h : ∀ v ∈ visits.dropLast, v.throttled? = none)
    (hbefore : before.throttled = none) :
    (reportOf visits before).throttled = visits.getLast?.bind Visit.throttled? := by
  induction visits generalizing before with
  | nil => exact hbefore
  | cons v visits ih =>
      have hthrottled := (v.counts before).throttled
      rw [hbefore, Option.or_none] at hthrottled
      cases visits with
      | nil => exact hthrottled
      | cons w visits =>
          rw [List.dropLast_cons_cons, List.forall_mem_cons] at h
          exact ih h.2 (hthrottled.trans h.1)

/-- The report of a pass counts what was done. -/
theorem reported_passed (h : Visited orders visits stopped) :
    Reported (passed visits stopped) (reportOf visits .empty) where
  cooledDown := cooledDown_reportOf
  polled := by rw [polled_reportOf, countP_isFetch_passed, Report.empty, Nat.zero_add]
  updated := updated_reportOf.trans (Nat.zero_add _)
  credited := credited_reportOf.trans (Nat.zero_add _)
  throttled ms := by
    rw [throttled_reportOf h.unthrottled rfl, filter_passed, List.getLast?_map]
    cases visits.getLast? with
    | none => simp
    | some v =>
        rw [Option.bind_some, Option.map_some, Visit.throttled?_eq_some_iff]
        constructor
        · intro hanswer
          exact ⟨v.order.number, by rw [hanswer]⟩
        · obtain ⟨order, answer, -, -⟩ := v
          rintro ⟨number, heq⟩
          cases heq
          rfl

end

/-- What a pass that does not leave the service alone does when it gets this answer about the
pending orders. -/
def Processed (r : Except StoreError (List Order)) (log : List (Program.Exchange Question.Answer))
    (report : Report) :
    Prop :=
  match r with
  | .error _ => log = [] ∧ report = .empty
  | .ok orders => ∃ visits stopped, Visited orders visits stopped ∧ log = passed visits stopped ∧
      Reported log report

/-- A pass that does not leave the service alone begins with the listing. -/
theorem gives_pass_iff {interval : ℕ} {r : Except StoreError (List Order)}
    {log : List (Program.Exchange Question.Answer)} {report : Report} :
    (pass interval).Gives (⟨.coolDown interval, false⟩ :: ⟨.store .listPending, r⟩ :: log) report ↔
      Processed r log report := by
  rw [pass, Program.gives_ask_cons_iff]
  refine Program.gives_ask_cons_iff.trans ?_
  cases r with
  | error e => exact Program.gives_done_iff
  | ok orders =>
      refine gives_reconcile_iff.trans ⟨?_, ?_⟩
      · rintro ⟨visits, stopped, hvisited, rfl, rfl⟩
        exact ⟨visits, stopped, hvisited, rfl, reported_passed hvisited⟩
      · rintro ⟨visits, stopped, hvisited, rfl, hreported⟩
        exact ⟨visits, stopped, hvisited, rfl, hreported.unique (reported_passed hvisited)⟩

/-- A pass that finds no cool-down asks for the pending orders and goes on with them. -/
theorem processed_pass {σ : Type} (answer : (q : Question) → σ → q.Answer × σ) (interval : ℕ)
    (s : σ) (hcool : (answer (.coolDown interval) s).1 = false) : ∃ r log,
    (pass interval).exchanges answer s = ⟨.coolDown interval, false⟩ ::
      ⟨.store .listPending, r⟩ :: log ∧
      Processed r log ((pass interval).run answer s).1 := by
  have hgives := Program.gives_exchanges answer (pass interval) s
  obtain ⟨r, log, hexchanges⟩ : ∃ r log, (pass interval).exchanges answer s =
      ⟨.coolDown interval, false⟩ :: ⟨.store .listPending, r⟩ :: log := by
    rw [pass, Program.exchanges, hcool]
    exact ⟨_, _, rfl⟩
  rw [hexchanges] at hgives
  exact ⟨r, log, hexchanges, gives_pass_iff.mp hgives⟩

/-- No order is asked about once the service wants to be left alone. -/
theorem Processed.pairwise {r : Except StoreError (List Order)}
    {log : List (Program.Exchange Question.Answer)} {report : Report} (h : Processed r log report) :
    log.Pairwise fun x y => isFetch x = true → isFetch y = true →
      ∀ number ms, x ≠ ⟨.fetch number, .ok (.throttled ms)⟩ := by
  rw [← List.pairwise_filter]
  cases r with
  | error e =>
      obtain ⟨rfl, -⟩ := h
      exact .nil
  | ok orders =>
      obtain ⟨visits, stopped, hvisited, rfl, -⟩ := h
      rw [filter_passed, List.pairwise_map]
      refine hvisited.pairwise.imp fun {v w} => ?_
      obtain ⟨order, answer, update, credit⟩ := v
      intro hv number ms heq
      cases heq
      cases hv

/-- The service wants to be left alone when it says so about an order. -/
theorem Processed.throttled {r : Except StoreError (List Order)}
    {log : List (Program.Exchange Question.Answer)} {report : Report} (h : Processed r log report)
    {number : OrderNumber} {ms : ℕ}
    (hmem : (⟨.fetch number, .ok (.throttled ms)⟩ : Program.Exchange Question.Answer) ∈ log) :
    report.throttled = some ms := by
  have hpairwise := h.pairwise
  rw [← List.pairwise_filter] at hpairwise
  have hfetch : (⟨.fetch number, .ok (.throttled ms)⟩ : Program.Exchange Question.Answer) ∈
      log.filter isFetch :=
    List.mem_filter.mpr ⟨hmem, rfl⟩
  obtain ⟨before, after, hlog⟩ := List.append_of_mem hfetch
  -- Nothing is behind it, so it is the last that was said.
  have hafter : after = [] := by
    rw [hlog] at hpairwise
    obtain ⟨hfirst, -⟩ := List.pairwise_cons.mp (List.pairwise_append.mp hpairwise).2.1
    exact List.eq_nil_iff_forall_not_mem.mpr fun y hy => hfirst y hy number ms rfl
  cases r with
  | error e =>
      obtain ⟨rfl, -⟩ := h
      cases hmem
  | ok orders =>
      obtain ⟨visits, stopped, -, -, hreported⟩ := h
      exact (hreported.throttled ms).mpr ⟨number, by rw [hlog, hafter, List.getLast?_concat]⟩

/-- Another visit of the same order, whatever the store says to it, stands beside the same
others. -/
theorem visited_replace {orders : List Order} {before after : List Visit} {v v' : Visit}
    {stopped : Bool} (horder : v'.order = v.order) (hthrottled : v'.throttled? = v.throttled?) :
    Visited orders (before ++ v' :: after) stopped ↔
      Visited orders (before ++ v :: after) stopped := by
  induction before generalizing orders with
  | nil =>
      cases hv : v.throttled? with
      | none =>
          rw [List.nil_append, List.nil_append, visited_cons_iff_of_none hv,
            visited_cons_iff_of_none (hthrottled.trans hv), horder]
      | some ms =>
          rw [List.nil_append, List.nil_append, visited_cons_iff_of_some hv,
            visited_cons_iff_of_some (hthrottled.trans hv), horder]
  | cons w before ih =>
      cases hw : w.throttled? with
      | none =>
          rw [List.cons_append, List.cons_append, visited_cons_iff_of_none hw,
            visited_cons_iff_of_none hw]
          simp only [ih]
      | some ms =>
          rw [List.cons_append, List.cons_append, visited_cons_iff_of_some hw,
            visited_cons_iff_of_some hw]
          simp

/-- **A pass does a first part of the listing, one order after the other**: whatever the listing,
whatever the service and the store answer, and whenever the program is found stopping, a pass that
does not leave the service alone

* asks for the pending orders, and comes to its report by the exchanges of visits of the first of
  them, in their order: up to the first order for which the service wants to be left alone, to the
  first one before which the program is found stopping, or to the end, and it comes to nothing else
  (`Visited`, `passed`);
* writes down and credits for every order what is said of it alone: any visit of an order may be
  replaced by one that goes otherwise, with the same exchanges before and after it;
* and reports how many orders it asked about, how many statuses it wrote, how many accruals it
  credited, and what the service said last if it wants to be left alone (`Reported`). -/
theorem pass_visits (interval : ℕ) :
    (∀ (σ : Type) (answer : (q : Question) → σ → q.Answer × σ) (s : σ),
      (answer (.coolDown interval) s).1 = false →
      ∃ r log, (pass interval).exchanges answer s = ⟨.coolDown interval, false⟩ ::
        ⟨.store .listPending, r⟩ :: log ∧
        Processed r log ((pass interval).run answer s).1) ∧
      (∀ r log report, (pass interval).Gives
        (⟨.coolDown interval, false⟩ :: ⟨.store .listPending, r⟩ :: log) report ↔
        Processed r log report) ∧
      ∀ orders before v v' after stopped, v'.order = v.order → v'.throttled? = v.throttled? →
        Visited orders (before ++ v :: after) stopped →
          Visited orders (before ++ v' :: after) stopped ∧
          passed (before ++ v :: after) stopped = before.flatMap Visit.exchanges ++ v.exchanges ++
            passed after stopped ∧
          passed (before ++ v' :: after) stopped =
            before.flatMap Visit.exchanges ++ v'.exchanges ++ passed after stopped := by
  refine ⟨fun σ answer s hcool => processed_pass answer interval s hcool, fun r log report =>
    gives_pass_iff,
    fun orders before v v' after stopped horder hthrottled hvisited =>
      ⟨(visited_replace horder hthrottled).mpr hvisited, ?_, ?_⟩⟩
  · simp [passed]
  · simp [passed]

/-- A pending order. -/
def firstPending : Order := .submitted ⟨⟨0⟩⟩ ⟨⟨0⟩⟩ default .epoch

/-- Another one, of another user. -/
def secondPending : Order :=
  .submitted ⟨⟨1⟩⟩ ⟨⟨1⟩⟩ ⟨"79927398713", by decide +kernel⟩ .epoch

/-- What the service says about both: they are done with and earned the most there can be. -/
def earned : Outcome := .registered .processed (some Points.max)

/-- A store that lists both orders and cannot write the first one down. -/
def refusingFirst : (q : Question) → Unit → q.Answer × Unit
  | .coolDown _, s => (false, s)
  | .startCooldown _, s => ((), s)
  | .stopping, s => (false, s)
  | .fetch _, s => (.ok earned, s)
  | .store .listPending, s => (.ok [firstPending, secondPending], s)
  | .store (.updateStatus number _ _), s =>
    (if number = firstPending.number then .error (.database "down") else .ok (), s)
  | .store (.credit _ _), s => (.ok (), s)
  | .store _, s => (.error .cancelled, s)

/-- The first order is not written down and so not credited, and the second one is; if the service
failed for the first one instead, the second one would be visited as before. -/
theorem pass_visits_failing :
    let failed : Visit := ⟨firstPending, .ok earned, .error (.database "down"), .ok ()⟩
    let unheard : Visit := ⟨firstPending, .error (.transport ""), .ok (), .ok ()⟩
    let paid : Visit := ⟨secondPending, .ok earned, .ok (), .ok ()⟩
    (pass 1).exchanges refusingFirst () =
        ⟨.coolDown 1, false⟩ :: ⟨.store .listPending, .ok [firstPending, secondPending]⟩ ::
          passed [failed, paid] false ∧
      (∃ r log, (pass 1).exchanges refusingFirst () =
          ⟨.coolDown 1, false⟩ :: ⟨.store .listPending, r⟩ :: log ∧
        Processed r log ((pass 1).run refusingFirst ()).1) ∧
      ((pass 1).run refusingFirst ()).1 =
        { cooledDown := false, polled := 2, updated := 1, credited := 1, throttled := none } ∧
      Visited [firstPending, secondPending] [unheard, paid] false ∧
      passed [unheard, paid] false = unheard.exchanges ++ passed [paid] false := by
  intro failed unheard paid
  obtain ⟨hrun, -, hreplace⟩ := pass_visits 1
  have hvisited : Visited [firstPending, secondPending] [failed, paid] false :=
    (visited_cons_iff_of_none rfl).mpr ⟨[secondPending], rfl,
      (visited_cons_iff_of_none rfl).mpr ⟨[], rfl, visited_nil_iff.mpr (by simp)⟩⟩
  obtain ⟨hvisited', -, hpassed⟩ :=
    hreplace [firstPending, secondPending] [] failed unheard [paid] false
    rfl rfl hvisited
  exact ⟨rfl, hrun Unit refusingFirst () rfl, by decide +kernel, hvisited', hpassed⟩

end Loyalty.Accrual
