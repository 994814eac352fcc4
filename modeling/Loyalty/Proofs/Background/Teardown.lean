import Loyalty.Proofs.Background.Dues

/-!
# Loyalty.Proofs.Background.Teardown

Stopping the worker loses no credit.

The stores are told to stop only after the worker has ended, so no call of a pass
is cut short: each has all the attempts of its schedule.  Once the worker is told,
a pass begins no other order (`Turn.hand`, `Turn.fetches`); what is noted from
then on is about the order that it is at.  And whoever waits for the worker goes
on only when it has ended, with nothing left to do.

* `Reachable.ordered_teardown` — what holds whenever stopping begins;
* `Reachable.stoppable` — stopping can always come to its end.
-/

namespace Loyalty.Background

open Accrual (Question Report Outcome Stage)

variable {p : RetryPolicy StoreError} {interval : ℕ} {s s' : State}

/-! ## the invariant -/

/-- A call had all the attempts that it was worth. -/
def Event.Spent (p : RetryPolicy StoreError) : Event → Prop
  | .fetched _ _ => True
  | .called _ answers r => Store.Spent p answers r

/-- What holds of a worker at a stage, or in no pass. -/
structure Sound (p : RetryPolicy StoreError) (s : State) (stage? : Option Stage) : Prop where
  phase : Phase s
  stands : Stands p s.task stage?
  logged : Logged stage? s.log
  spent : ∀ e ∈ s.log, e.Spent p

/-- Every call that a step notes had the attempts that it was worth. -/
theorem Turn.spent {told : Bool} {added : List Event} {stage? stage?' : Option Stage}
    (h : Turn p told stage? added stage?') : ∀ e ∈ added, e.Spent p := by
  cases h with
  | still | begins | ends => exact List.forall_mem_nil _
  | @moves _ _ q _ _ _ hnotes =>
      cases q with
      | store call =>
          obtain ⟨answers, hspent, rfl⟩ := hnotes
          exact List.forall_mem_singleton.mpr hspent
      | fetch number =>
          obtain rfl := hnotes
          exact List.forall_mem_singleton.mpr trivial
      | stopping =>
          obtain ⟨-, rfl⟩ := hnotes
          exact List.forall_mem_nil _
      | coolDown interval | startCooldown ms =>
          obtain rfl := hnotes
          exact List.forall_mem_nil _

namespace Sound

theorem start : Sound p start none where
  phase := .before rfl rfl rfl
  stands := .waiting
  logged := .start
  spent := List.forall_mem_nil _

/-- Every step is a turn of the pass and keeps what holds. -/
theorem step {stage? : Option Stage} (h : Sound p s stage?) (hstep : Step p interval s s') :
    ∃ added stage?', Turn p s.workerTold stage? added stage?' ∧ Sound p s' stage?' ∧
      s'.log = added ++ s.log := by
  obtain ⟨added, stage?', hturn, hstands, hlog⟩ := hstep.turn h.phase h.stands
  have hsound : Sound p s' stage?' :=
    { phase := h.phase.step hstep
      stands := hstands
      logged := by
        rw [hlog]
        exact h.logged.turn hturn
      spent := by
        rw [hlog]
        exact List.forall_mem_append.mpr ⟨hturn.spent, h.spent⟩ }
  exact ⟨added, stage?', hturn, hsound, hlog⟩

end Sound

/-- In every run the worker is at some stage, and what holds there holds. -/
theorem Reachable.sound (h : Reachable p interval s) : ∃ stage?, Sound p s stage? := by
  induction h with
  | refl => exact ⟨none, .start⟩
  | tail _ hstep ih =>
      obtain ⟨stage?, hsound⟩ := ih
      obtain ⟨-, stage?', -, hsound', -⟩ := hsound.step hstep
      exact ⟨stage?', hsound'⟩

/-! ## winding down -/

/-- The order that a pass is at. -/
def hand? (stage? : Option Stage) : Option Order := stage?.bind Stage.hand?

/-- The number about which a pass is going to ask the service next. -/
def toFetch? : Option Stage → Option OrderNumber
  | some (.fetching _ order _) => some order.number
  | none | some (.starting _) | some .listing | some (.left _ _) | some (.throttled _ _)
  | some (.updating _ _ _ _ _) | some (.crediting _ _ _ _) => none

/-- An event is a listing or about an order in hand. -/
def Event.Concerns (hand : Option Order) : Event → Prop
  | .fetched number _ => ∃ order ∈ hand, number = order.number
  | .called .listPending _ _ => True
  | .called (.updateStatus number _ _) _ _ => ∃ order ∈ hand, number = order.number
  | .called (.credit userId _) _ _ => ∃ order ∈ hand, userId = order.userId
  | .called _ _ _ => False

/-- The number about which the service was asked. -/
def Event.fetched? : Event → Option OrderNumber
  | .fetched number _ => some number
  | .called _ _ _ => none

/-- The numbers about which the service was asked. -/
def fetches (log : List Event) : List OrderNumber := log.filterMap Event.fetched?

/-- What concerns no order concerns nothing but a listing. -/
theorem Event.Concerns.of_none {e : Event} (h : e.Concerns none) (hand : Option Order) :
    e.Concerns hand := by
  cases e with
  | fetched number answer =>
      obtain ⟨order, horder, -⟩ := h
      cases horder
  | called call answers r =>
      cases call with
      | listPending => trivial
      | updateStatus number status accrual =>
          obtain ⟨order, horder, -⟩ := h
          cases horder
      | credit userId amount =>
          obtain ⟨order, horder, -⟩ := h
          cases horder
      | _ => exact h.elim

namespace Turn

variable {told : Bool} {added : List Event} {stage? stage?' : Option Stage}

/-- What a step notes is about the order in hand. -/
theorem concerns (h : Turn p told stage? added stage?') :
    ∀ e ∈ added, e.Concerns (hand? stage?) := by
  cases h with
  | still | begins | ends => exact List.forall_mem_nil _
  | moves hmoves hnotes =>
      cases hmoves with
      | cooling | begins | cools =>
          obtain rfl := hnotes
          exact List.forall_mem_nil _
      | stops | goes =>
          obtain ⟨-, rfl⟩ := hnotes
          exact List.forall_mem_nil _
      | unlisted | listed =>
          obtain ⟨answers, -, rfl⟩ := hnotes
          exact List.forall_mem_singleton.mpr trivial
      | fails report order | unknown report order | throttles report order | hears report order =>
          obtain rfl := hnotes
          exact List.forall_mem_singleton.mpr ⟨order, rfl, rfl⟩
      | unwritten report order | wrote report order | earns report order | credited report order
      | uncredited report order =>
          obtain ⟨answers, -, rfl⟩ := hnotes
          exact List.forall_mem_singleton.mpr ⟨order, rfl, rfl⟩

/-- A worker that is told to stop takes no other order in hand. -/
theorem hand (h : Turn p true stage? added stage?') :
    hand? stage?' = hand? stage? ∨ hand? stage?' = none := by
  cases h with
  | still => exact .inl rfl
  | begins | ends => exact .inr rfl
  | moves hmoves hnotes =>
      cases hmoves with
      | goes => cases hnotes.1
      | hears | earns => exact .inl rfl
      | _ => exact .inr rfl

/-- A worker that is told to stop asks about no order but the one that it was going to ask about. -/
theorem fetches (h : Turn p true stage? added stage?') :
    (toFetch? stage?').toList ++ Background.fetches added = (toFetch? stage?).toList := by
  cases h with
  | still => simp [Background.fetches]
  | begins | ends => rfl
  | moves hmoves hnotes =>
      cases hmoves with
      | goes => cases hnotes.1
      | stops =>
          obtain ⟨-, rfl⟩ := hnotes
          rfl
      | cooling | begins | cools | fails | unknown | throttles | hears =>
          obtain rfl := hnotes
          rfl
      | unlisted | listed | unwritten | wrote | earns | credited | uncredited =>
          obtain ⟨answers, -, rfl⟩ := hnotes
          rfl

end Turn

/-- A worker that is told to stop stays told. -/
theorem Step.told (h : Step p interval s s') (htold : s.workerTold = true) :
    s'.workerTold = true := by
  cases h with
  | tellWorker => rfl
  | _ => exact htold

/-- What follows when a worker is told to stop that is at a stage, or in no pass. -/
theorem Sound.winds {stage? : Option Stage} (h : Sound p s stage?) (htold : s.workerTold = true)
    (hreaches : Reaches p interval s s') :
    ∃ added stage?', Sound p s' stage?' ∧ s'.workerTold = true ∧ s'.log = added ++ s.log ∧
      (∀ e ∈ added, e.Concerns (hand? stage?)) ∧
        (hand? stage?' = hand? stage? ∨ hand? stage?' = none) ∧
      (toFetch? stage?').toList ++ fetches added = (toFetch? stage?).toList := by
  induction hreaches with
  | refl => exact ⟨[], stage?, h, htold, rfl, List.forall_mem_nil _, .inl rfl, by simp [fetches]⟩
  | tail _ hstep ih =>
      obtain ⟨added, stage?₁, hsound, htold₁, hlog, hconcerns, hhand, hfetches⟩ := ih
      obtain ⟨last, stage?₂, hturn, hsound₂, hlog₂⟩ := hsound.step hstep
      rw [htold₁] at hturn
      have hlast : ∀ e ∈ last, e.Concerns (hand? stage?) := by
        intro e he
        have hnow := hturn.concerns e he
        cases hhand with
        | inl hsame => rwa [hsame] at hnow
        | inr hnone =>
            rw [hnone] at hnow
            exact hnow.of_none _
      have hhand₂ : hand? stage?₂ = hand? stage? ∨ hand? stage?₂ = none := by
        cases hturn.hand with
        | inl hsame => rwa [hsame]
        | inr hnone => exact .inr hnone
      refine ⟨last ++ added, stage?₂, hsound₂, hstep.told htold₁, ?_, ?_, hhand₂, ?_⟩
      · rw [hlog₂, hlog, List.append_assoc]
      · exact List.forall_mem_append.mpr ⟨hlast, hconcerns⟩
      · rw [fetches, List.filterMap_append, ← List.append_assoc]
        rw [← hfetches, ← hturn.fetches]
        rfl

/-! ## what is in hand -/

/-- What is left of a pass when the call that is under way in it has not begun. -/
def Task.pass? : Task → Option (Program Question.Answer Report)
  | waiting | ended => none
  | passing rest => some rest
  | calling call _ _ next => some (.ask (.store call) next)

/-- The worker is at an order: it is going to ask about it, to write it down, or to credit its
owner. -/
def Task.Reconciles (task : Task) (order : Order) : Prop :=
  ∃ stage : Stage, task.pass? = some stage.program ∧ stage.hand? = some order

/-- The worker is just going to ask the service about a number. -/
def Task.Fetches (task : Task) (number : OrderNumber) : Prop :=
  ∃ next, task = .passing (.ask (.fetch number) next)

theorem Stands.reconciles {task : Task} {stage? : Option Stage} (h : Stands p task stage?)
    {order : Order} (horder : hand? stage? = some order) : task.Reconciles order := by
  cases h with
  | waiting | ended => cases horder
  | passing stage hrest => exact ⟨stage, congrArg some hrest, horder⟩
  | calling stage hasks _ => exact ⟨stage, congrArg some hasks.symm, horder⟩

theorem Stands.fetches {task : Task} {stage? : Option Stage} (h : Stands p task stage?)
    {number : OrderNumber} (hnumber : toFetch? stage? = some number) : task.Fetches number := by
  cases h with
  | waiting | ended => cases hnumber
  | passing stage hrest =>
      cases stage with
      | fetching report order orders =>
          obtain rfl := Option.some.inj hnumber
          exact ⟨_, congrArg Task.passing hrest⟩
      | _ => cases hnumber
  | calling stage hasks _ =>
      cases stage with
      | fetching => cases hasks
      | _ => cases hnumber

/-! ## stopping -/

/-- When stopping is over nobody does anything any more. -/
theorem Phase.not_step (h : Phase s) (hover : s.stopping = .done ()) : ¬ Step p interval s s' := by
  have htask : s.task = .ended := by
    cases h with
    | finished _ _ _ htask => exact htask
    | before hstopping | joining hstopping | joined hstopping =>
        rw [hover] at hstopping
        cases hstopping
  intro hstep
  cases hstep with
  | tick hother | leave hother | finish hother | tell hother | call hother | look hother
  | wait hother | attempt _ hother | ret hother =>
      rw [htask] at hother
      cases hother
  | tellWorker hasks | join hasks | tellStores hasks =>
      rw [hover] at hasks
      cases hasks

/-- A call can always come to its end. -/
theorem reaches_of_calling (p : RetryPolicy StoreError) (interval : ℕ) {s : State}
    {call : StoreCall} {answers : List call.Answer}
    {rest : Program (RetryPolicy.Question.Answer StoreError call.Value) call.Answer}
    {next : call.Answer → Program Question.Answer Report}
    (htask : s.task = .calling call answers rest next) :
    ∃ r log, Reaches p interval s { s with task := .passing (next r), log } := by
  induction rest generalizing s answers with
  | done r => exact ⟨r, _, .single (.ret htask)⟩
  | ask q rest ih =>
      cases q with
      | stopping =>
          obtain ⟨r, log, hreaches⟩ :=
            ih s.storesTold (s := { s with task := .calling call answers _ next }) rfl
          exact ⟨r, log, .head (.look htask) hreaches⟩
      | wait ms =>
          obtain ⟨r, log, hreaches⟩ :=
            ih false (s := { s with task := .calling call answers _ next }) rfl
          have hintime : false = true → s.storesTold = true := fun h => absurd h Bool.false_ne_true
          exact ⟨r, log, .head (.wait htask hintime) hreaches⟩
      | attempt =>
          obtain ⟨r, log, hreaches⟩ := ih (.error .cancelled)
            (s := { s with task := .calling call (answers ++ [_]) _ next }) rfl
          exact ⟨r, log, .head (.attempt _ htask) hreaches⟩

/-- A pass can always come to its end. -/
theorem reaches_of_passing (p : RetryPolicy StoreError) (interval : ℕ) {s : State}
    {rest : Program Question.Answer Report} (htask : s.task = .passing rest) :
    ∃ log, Reaches p interval s { s with task := .waiting, log } := by
  induction rest generalizing s with
  | done report => exact ⟨_, .single (.finish htask)⟩
  | ask q next ih =>
      have htell (r : q.Answer) (htells : Tells s.workerTold q r) :
          ∃ log, Reaches p interval s { s with task := .waiting, log } := by
        obtain ⟨log, hreaches⟩ :=
          ih r (s := { s with task := .passing (next r), log := noted q r ++ s.log }) rfl
        exact ⟨log, .head (.tell htask htells) hreaches⟩
      cases q with
      | coolDown interval => exact htell true trivial
      | startCooldown ms => exact htell () trivial
      | stopping => exact htell s.workerTold rfl
      | fetch number => exact htell (.ok .notRegistered) trivial
      | store call =>
          obtain ⟨r, log, hcall⟩ := reaches_of_calling p interval
            (s := { s with task := .calling call [] (Store.retrying p call) next }) rfl
          obtain ⟨log', hpass⟩ := ih r (s := { s with task := .passing (next r), log := log }) rfl
          exact ⟨log', .head (.call htask) (hcall.trans hpass)⟩

/-- The worker can always come between two passes, or it has ended. -/
theorem reaches_waiting (p : RetryPolicy StoreError) (interval : ℕ) {s : State}
    (htask : s.task ≠ .ended) :
    ∃ log, Reaches p interval s { s with task := .waiting, log } := by
  cases hwhere : s.task with
  | waiting =>
      refine ⟨s.log, ?_⟩
      rw [← hwhere]
      exact .refl
  | passing rest => exact reaches_of_passing p interval hwhere
  | calling call answers rest next =>
      obtain ⟨r, log, hcall⟩ := reaches_of_calling p interval hwhere
      obtain ⟨log', hpass⟩ := reaches_of_passing p interval
        (s := { s with task := .passing (next r), log := log }) rfl
      exact ⟨log', hcall.trans hpass⟩
  | ended => exact (htask hwhere).elim

/-- Whoever waits for the worker that is told to stop can always come to the end of it. -/
theorem reaches_over (p : RetryPolicy StoreError) (interval : ℕ) {s : State}
    (htold : s.workerTold = true)
    (hstopping : s.stopping = .ask .join fun _ => .ask .tellStores fun _ => .done ()) :
    ∃ s', Reaches p interval s s' ∧ s'.stopping = .done () := by
  by_cases htask : s.task = .ended
  · have hjoin : Step p interval s { s with stopping := .ask .tellStores fun _ => .done () } :=
      .join hstopping htask
    exact ⟨_, .tail (.single hjoin) (.tellStores rfl), rfl⟩
  · obtain ⟨log, hwaiting⟩ := reaches_waiting p interval htask
    have hleave : Step p interval { s with task := .waiting, log := log }
        { s with task := .ended, log := log } :=
      .leave rfl htold
    have hjoin : Step p interval { s with task := .ended, log := log }
        { s with task := .ended, stopping := .ask .tellStores fun _ => .done (), log := log } :=
      .join (s := { s with task := .ended, log := log }) hstopping rfl
    exact ⟨_, ((hwaiting.tail hleave).tail hjoin).tail (.tellStores rfl), rfl⟩

/-- Stopping can always come to its end, whenever it begins. -/
theorem Reachable.stoppable (h : Reachable p interval s) :
    ∃ s', Reaches p interval s s' ∧ s'.stopping = .done () := by
  obtain ⟨stage?, hsound⟩ := h.sound
  cases hsound.phase with
  | before hstopping =>
      obtain ⟨s', hreaches, hover⟩ :=
        reaches_over p interval (s := { s with workerTold := true, stopping := _ })
        rfl rfl
      exact ⟨s', .head (.tellWorker hstopping) hreaches, hover⟩
  | joining hstopping hworker => exact reaches_over p interval hworker hstopping
  | joined hstopping => exact ⟨_, .single (.tellStores hstopping), rfl⟩
  | finished hstopping => exact ⟨s, .refl, hstopping⟩

/-- **Stopping loses no credit**: whenever it begins, and whatever the schedule of the retries, the
answers of the stores and those of the service,

* the stores are told only after the worker has ended;
* so a call gives its caller what its last attempt was answered, after all the attempts that it was
  worth, and ends as cancelled only where the store itself said so;
* between two passes, and when it has ended, the worker has written down and credited all that was
  said;
* from when it is told, it finishes at most the order that it is at, and asks about no other;
* when stopping is over, nothing happens any more. -/
theorem Reachable.ordered_teardown (h : Reachable p interval s) :
    (s.storesTold = true → s.task = .ended) ∧
    (∀ call answers r, .called call answers r ∈ s.log →
      Store.Spent p answers r ∧ (.error .cancelled ∉ answers → r ≠ .error .cancelled)) ∧
    (s.task = .waiting ∨ s.task = .ended → Owes .nothing s.log) ∧
    (s.workerTold = true → ∃ hand : Option Order, (∀ order ∈ hand, s.task.Reconciles order) ∧
      ∀ s', Reaches p interval s s' → ∃ added, s'.log = added ++ s.log ∧
        (∀ e ∈ added, e.Concerns hand) ∧
        (fetches added = [] ∨ ∃ number, s.task.Fetches number ∧ fetches added = [number])) ∧
    (s.stopping = .done () → ∀ s', ¬ Step p interval s s') := by
  obtain ⟨stage?, hsound⟩ := h.sound
  refine ⟨hsound.phase.ended_of_told, ?_, ?_, ?_, fun hover s' => hsound.phase.not_step hover⟩
  · intro call answers r hmem
    have hspent : Store.Spent p answers r := hsound.spent _ hmem
    refine ⟨hspent, fun hanswers hr => hanswers ?_⟩
    rw [← hr]
    exact List.mem_of_getLast? hspent.last
  · intro htask
    have howes := hsound.logged.owes
    have hstands := hsound.stands
    cases htask with
    | inl hwaiting =>
        rw [hwaiting] at hstands
        cases hstands
        exact howes
    | inr hended =>
        rw [hended] at hstands
        cases hstands
        exact howes
  · intro htold
    refine ⟨hand? stage?, fun order horder => hsound.stands.reconciles horder, ?_⟩
    intro s' hreaches
    obtain ⟨added, stage?', -, -, hlog, hconcerns, -, hfetches⟩ := hsound.winds htold hreaches
    refine ⟨added, hlog, hconcerns, ?_⟩
    cases hnext : toFetch? stage? with
    | none =>
        rw [hnext] at hfetches
        exact .inl (List.append_eq_nil_iff.mp hfetches).2
    | some number =>
        rw [hnext] at hfetches
        cases List.append_eq_singleton_iff.mp hfetches with
        | inl hdone => exact .inr ⟨number, hsound.stands.fetches hnext, hdone.2⟩
        | inr hleft => exact .inl hleft.2

/-- A question of a pass that is no call is answered. -/
theorem Reachable.tell {stage stage' : Stage} {q : Question} {r : q.Answer}
    (h : Reachable p interval s) (htask : s.task = .passing stage.program)
    (hmoves : stage.Moves q r stage') (htells : Tells s.workerTold q r) :
    Reachable p interval { s with task := .passing stage'.program, log := noted q r ++ s.log } := by
  obtain ⟨next, hasks, hnext⟩ := hmoves.program_eq
  rw [hasks] at htask
  rw [← hnext]
  exact h.tail (.tell htask htells)

/-- A call of a pass succeeds at once. -/
theorem Reachable.call {stage stage' : Stage} {call : StoreCall} {v : call.Value}
    (h : Reachable p interval s) (htask : s.task = .passing stage.program)
    (hmoves : stage.Moves (.store call) (.ok v) stage') (huntold : s.storesTold = false) :
    Reachable p interval
      { s with task := .passing stage'.program, log := .called call [.ok v] (.ok v) :: s.log } := by
  obtain ⟨next, hasks, hnext⟩ := hmoves.program_eq
  have hanswered : Store.answered p call p.delays (.ok v) = .done (.ok v) := by
    cases p.delays <;> rfl
  obtain ⟨task, workerTold, storesTold, stopping, log⟩ := s
  obtain rfl : storesTold = false := huntold
  rw [hasks] at htask
  rw [← hnext]
  have hcall := h.tail (.call htask)
  rw [Store.retrying_eq, Store.tries_eq] at hcall
  have hattempt := (hcall.tail (.look rfl)).tail (.attempt (.ok v) rfl)
  rw [hanswered] at hattempt
  exact hattempt.tail (.ret rfl)

/-- The worker is told to stop when an order was stored as processed and its owner is not yet
credited: no other order is asked about. -/
theorem Reachable.ordered_teardown_before_credit :
    ∃ s : State, Reachable (.ofDelays [1000]) 1000 s ∧ s.workerTold = true ∧
      s.task = .passing (Stage.crediting { Report.empty with polled := 1, updated := 1 }
        (.submitted default default default default) { coeff := 500, scale := 0 } []).program ∧
      ∀ s', Reaches (.ofDelays [1000]) 1000 s s' → ∃ added, s'.log = added ++ s.log ∧
        fetches added = [] := by
  have hkept : Order.persistedAccrual .processed (some { coeff := 500, scale := 0 }) =
      some { coeff := 500, scale := 0 } := by decide +kernel
  have h₀ : Reachable (.ofDelays [1000]) 1000 start := .refl
  have h₁ := h₀.tail (.tick rfl)
  have h₂ := Reachable.tell h₁ rfl (.begins _) trivial
  have h₃ := h₂.call rfl (.listed [.submitted default default default default]) rfl
  have h₄ := h₃.tell rfl (.goes _ _ []) rfl
  have h₅ := h₄.tell rfl (.hears _ _ [] .processed (some { coeff := 500, scale := 0 })) trivial
  have h₆ := h₅.call rfl (.earns _ _ .processed _ [] _ hkept) rfl
  have h₇ := h₆.tail (.tellWorker rfl)
  refine ⟨_, h₇, rfl, rfl, fun s' hreaches => ?_⟩
  obtain ⟨hand, -, hwinds⟩ := (Reachable.ordered_teardown h₇).2.2.2.1 rfl
  obtain ⟨added, hlog, -, hfetches⟩ := hwinds s' hreaches
  refine ⟨added, hlog, ?_⟩
  cases hfetches with
  | inl hnone => exact hnone
  | inr hnext =>
      obtain ⟨number, ⟨next, htask⟩, -⟩ := hnext
      cases htask

end Loyalty.Background
