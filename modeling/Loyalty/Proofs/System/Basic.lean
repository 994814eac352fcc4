import Loyalty.Accrual.Worker
import Loyalty.Proofs.Memory.Trace
import Loyalty.Proofs.System.Requests

/-!
# Loyalty.Proofs.System.Basic

Users and the worker that follows orders, all on the same stores in memory.

Any number of users' requests are under way at once, each a program of its own.
So is a pass of the worker, and when it is over the next one may begin.  One step
of the system is one answer to one program: a call of the stores is made at that
moment, with any stamp; the accrual service answers what the setting lets it
answer; time, salt, stops and cool-downs are whatever they are.  What is
reachable is reachable in some interleaving, and nothing else is assumed of it.
-/

namespace Loyalty

open Store.Memory (Trace)

namespace System

/-! ## states -/

/-- What a system is given. -/
structure Setting where
  passwords : PasswordScheme
  tokens : TokenScheme
  /-- The poll interval in milliseconds. -/
  interval : Nat
  /-- What the accrual service may say about a number. -/
  gateway : OrderNumber → Except GatewayError Accrual.Outcome → Prop
  /-- What users ask for. -/
  action : ℕ → Action

/-- A request and what is left of its use case. -/
structure Client where
  action : Action
  rest : UseCase action.Result

/-- A question of the worker and its answer. -/
structure Asked where
  question : Accrual.Question
  answer : question.Answer

/-- A system between two steps. -/
structure State where
  trace : Trace
  clients : ℕ → Client
  /-- What is left of the worker's pass. -/
  worker : Program Accrual.Question.Answer Accrual.Report
  /-- What the worker asked, newest first. -/
  asked : List Asked

/-- Stores that keep nothing, requests that have not begun, and a worker between two passes. -/
def start (w : Setting) : State where
  trace := .start
  clients := fun i => ⟨w.action i, (w.action i).program w.passwords w.tokens⟩
  worker := .done .empty
  asked := []

/-! ## steps -/

/-- A call made of the stores, with any stamp. -/
def Calls (t : Trace) (call : StoreCall) (answer : call.Answer) (t' : Trace) : Prop :=
  ∃ stamp, t' = t.ask ⟨stamp, call⟩ ∧ answer = (Store.Memory.step stamp t.state call).1

/-- How a question of a user's request may be answered. -/
def Serves (t : Trace) : (q : Need) → q.Answer → Trace → Prop
  | .store call, answer, t' => Calls t call answer t'
  | .now, _, t' => t' = t
  | .salt, _, t' => t' = t

/-- How a question of the worker may be answered. -/
def Tells (w : Setting) (t : Trace) : (q : Accrual.Question) → q.Answer → Trace → Prop
  | .store call, answer, t' => Calls t call answer t'
  | .fetch number, answer, t' => w.gateway number answer ∧ t' = t
  | .coolDown _, _, t' => t' = t
  | .startCooldown _, _, t' => t' = t
  | .stopping, _, t' => t' = t

/-- One step of a system. -/
inductive Step (w : Setting) (s : State) : State → Prop
  /-- A user's request goes on. -/
  | client {i : ℕ} {q : Need} {next : q.Answer → UseCase (s.clients i).action.Result} {r : q.Answer}
      {t : Trace} (hasks : (s.clients i).rest = .ask q next) (hserves : Serves s.trace q r t) :
      Step w s { s with
        trace := t, clients := Function.update s.clients i ⟨(s.clients i).action, next r⟩ }
  /-- The worker goes on. -/
  | worker {q : Accrual.Question} {next : q.Answer → Program Accrual.Question.Answer Accrual.Report}
      {r : q.Answer} {t : Trace} (hasks : s.worker = .ask q next) (htells : Tells w s.trace q r t) :
      Step w s { s with trace := t, worker := next r, asked := ⟨q, r⟩ :: s.asked }
  /-- The next pass begins. -/
  | tick {report : Accrual.Report} (hdone : s.worker = .done report) :
      Step w s { s with worker := Accrual.pass w.interval }

/-- What a system can come to. -/
inductive Reachable (w : Setting) : State → Prop
  | start : Reachable w (start w)
  | step {s s' : State} (h : Reachable w s) (hstep : Step w s s') : Reachable w s'

/-- What a system can come to from a state. -/
def Reaches (w : Setting) : State → State → Prop := Relation.ReflTransGen (Step w)

theorem Reachable.reaches {w : Setting} {s s' : State} (h : Reachable w s)
    (hreaches : Reaches w s s') :
    Reachable w s' := by
  induction hreaches with
  | refl => exact h
  | tail _ hstep ih => exact ih.step hstep

/-! ## requests that end -/

/-- A request has ended. -/
def State.Answered (s : State) (i : ℕ) (action : Action) (r : Except ServiceError action.Result) :
    Prop :=
  s.clients i = ⟨action, .done r⟩

/-- Whoever has ended asks nothing. -/
theorem Client.rest_ne_ask {c : Client} {action : Action} {r : Except ServiceError action.Result}
    (hc : c = ⟨action, .done r⟩) {q : Need} {next : q.Answer → UseCase c.action.Result} :
    c.rest ≠ .ask q next := by
  subst hc
  nofun

/-- What has ended stays as it is. -/
theorem State.Answered.reaches {w : Setting} {s s' : State} {i : ℕ} {action : Action}
    {r : Except ServiceError action.Result} (h : s.Answered i action r)
    (hreaches : Reaches w s s') :
    s'.Answered i action r := by
  induction hreaches with
  | refl => exact h
  | tail _ hstep ih =>
      cases hstep with
      | @client j q next answer t hasks hserves =>
          have hne : i ≠ j := by
            rintro rfl
            exact Client.rest_ne_ask ih hasks
          exact (Function.update_of_ne hne ..).trans ih
      | worker => exact ih
      | tick => exact ih

/-! ## what requests hold -/

/-- What is there is held by one of many requests, and what is held is there. -/
structure Held {κ : Type} (there : κ → Prop) (holder : ℕ → Option κ) : Prop where
  unique : ∀ {k}, there k → ∃! i, holder i = some k
  there : ∀ {i k}, holder i = some k → there k

section

variable {κ : Type} {there there' : κ → Prop} {holder : ℕ → Option κ}

/-- Who holds something, after one more request came to hold something. -/
theorem update_eq_some_iff {i j : ℕ} {k k' : κ} (hi : holder i = none) :
    Function.update holder i (some k) j = some k' ↔ (j = i ∧ k = k') ∨ holder j = some k' := by
  by_cases hj : j = i
  · simp [hj, hi]
  · simp [hj]

theorem Held.congr (h : Held there holder) (hsame : ∀ k, there' k ↔ there k) :
    Held there' holder where
  unique hk := h.unique ((hsame _).mp hk)
  there hi := (hsame _).mpr (h.there hi)

/-- One more request that came to hold what was not there. -/
theorem Held.hold (h : Held there holder) {i : ℕ} {k : κ} (hi : holder i = none)
    (hfresh : ¬ there k) (hthere : ∀ k', there' k' ↔ k' = k ∨ there k') :
    Held there' (Function.update holder i (some k)) where
  unique {k'} hk' := by
    by_cases hk : k = k'
    · have honly : ∀ j, Function.update holder i (some k) j = some k' → j = i := by
        intro j hj
        cases (update_eq_some_iff hi).mp hj with
        | inl hmade => exact hmade.1
        | inr hj => exact absurd (h.there (hk ▸ hj)) hfresh
      exact ⟨i, (update_eq_some_iff hi).mpr (.inl ⟨rfl, hk⟩), honly⟩
    · obtain ⟨j, hj, honly⟩ := h.unique (((hthere k').mp hk').resolve_left (Ne.symm hk))
      have honly' : ∀ l, Function.update holder i (some k) l = some k' → l = j := by
        intro l hl
        cases (update_eq_some_iff hi).mp hl with
        | inl hmade => exact absurd hmade.2 hk
        | inr hl => exact honly l hl
      exact ⟨j, (update_eq_some_iff hi).mpr (.inr hj), honly'⟩
  there {j k'} hj := by
    rw [hthere]
    cases (update_eq_some_iff hi).mp hj with
    | inl hmade => exact .inl hmade.2.symm
    | inr hj => exact .inr (h.there hj)

end

/-! ## a small system -/

/-- A setting in which everybody submits one number, and the service says the same of every
number. -/
def Setting.constant (answer : Except GatewayError Accrual.Outcome) : Setting where
  passwords := { hash := fun _ _ => .ok "", verify := fun _ _ => .ok true }
  tokens := { issue := fun _ _ => .ok "", validate := fun _ _ => .error (.signing "") }
  interval := 1000
  gateway _ r := r = answer
  action _ := .submit default "0"

/-- A request of whom it is known what it asks next. -/
theorem Step.of_client {w : Setting} {s : State} {i : ℕ} {action : Action} {q : Need}
    {next : q.Answer → UseCase action.Result} {r : q.Answer} {t : Trace}
    (hclient : s.clients i = ⟨action, .ask q next⟩) (hserves : Serves s.trace q r t) :
    Step w s { s with trace := t, clients := Function.update s.clients i ⟨action, next r⟩ } := by
  have hnext : ∃ next' : q.Answer → UseCase (s.clients i).action.Result,
      (s.clients i).rest = .ask q next' ∧
        (⟨(s.clients i).action, next' r⟩ : Client) = ⟨action, next r⟩ := by
    rw [hclient]
    exact ⟨next, rfl, rfl⟩
  obtain ⟨next', hasks, heq⟩ := hnext
  rw [← heq]
  exact .client hasks hserves

/-- Every question of a request can be answered. -/
theorem exists_serves (t : Trace) (q : Need) : ∃ r t', Serves t q r t' := by
  cases q with
  | store call => exact ⟨_, _, default, rfl, rfl⟩
  | now => exact ⟨default, t, rfl⟩
  | salt => exact ⟨[], t, rfl⟩

/-- Every request can come to its end, with nothing else going on. -/
theorem exists_answered (w : Setting) {action : Action} (rest : UseCase action.Result) {s : State}
    {i : ℕ} (hclient : s.clients i = ⟨action, rest⟩) :
    ∃ s' r, Reaches w s s' ∧ s'.Answered i action r ∧ ∀ j, j ≠ i → s'.clients j = s.clients j := by
  induction rest generalizing s with
  | done r => exact ⟨s, r, .refl, hclient, fun _ _ => rfl⟩
  | ask q next ih =>
      obtain ⟨answer, t, hserves⟩ := exists_serves s.trace q
      have hnext : (State.mk t (Function.update s.clients i ⟨action, next answer⟩) s.worker
          s.asked).clients i = ⟨action, next answer⟩ := Function.update_self ..
      obtain ⟨s', r, hreaches, hanswered, hothers⟩ := ih answer hnext
      refine ⟨s', r, .head (Step.of_client hclient hserves) hreaches, hanswered, fun j hj => ?_⟩
      exact (hothers j hj).trans (Function.update_of_ne hj ..)

/-- Whoever is the first to submit a number may have done so before anything else happens. -/
theorem Reachable.submitted {w : Setting} {i : ℕ} (hi : w.action i = .submit default "0") :
    ∃ s, Reachable w s ∧
      s.trace = Trace.start.ask ⟨default, .createOrder default default⟩ ∧
      s.worker = .done .empty ∧ s.asked = [] ∧
      s.clients = Function.update (System.start w).clients i
        ⟨.submit default "0",
          .done (.ok (.accepted (.submitted default default default default)))⟩ := by
  have hparse : OrderNumber.parse? "0" = some default := by decide +kernel
  have hclient : (System.start w).clients i =
      ⟨.submit default "0",
        .ask (.store (.createOrder default default)) (Orders.filed default default)⟩ := by
    change Client.mk (w.action i) _ = _
    rw [hi, ← submit_of_parse? hparse]
    rfl
  exact ⟨_, Reachable.start.step (Step.of_client hclient ⟨default, rfl, rfl⟩), rfl, rfl, rfl, rfl⟩

end System

end Loyalty
