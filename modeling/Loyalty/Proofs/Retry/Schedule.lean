import Loyalty.Proofs.Retry.Course
import Loyalty.Proofs.Store.Retrying

/-!
# Loyalty.Proofs.Retry.Schedule

Runs of attempts keep to their schedule.

`Scheduled` is what a schedule promises of one run: how many calls there are, when
each of them begins, and how and when the run ends.  It holds of every course
(`Course.scheduled`), and so of every run in a sequence of runs, each of which has
the whole schedule to itself.
-/

namespace Loyalty.Simulation

variable {ε α : Type}

/-- A run that keeps to a schedule, with the calls that it makes of an action. -/
structure Scheduled (p : RetryPolicy ε) (delays : List ℕ) (signal : Shutdown) (start : ℕ)
    (calls : List (Call ε α)) (r : Except (RetryError ε) α) (finish : ℕ) : Prop where
  /-- There is one call more than there are delays at most. -/
  length_le : calls.length ≤ delays.length + 1
  /-- No call is made when the signal has fired. -/
  live : ∀ c ∈ calls, ¬ signal.FiredBy c.start
  first : ∀ c ∈ calls.head?, c.start = start
  /-- Another call begins one delay after the end of the call before it. -/
  next : ∀ (k : ℕ) (c c' : Call ε α), calls[k]? = some c → calls[k + 1]? = some c' →
    ∃ delay, delays[k]? = some delay ∧ c'.start = c.finish + delay
  ok_iff : ∀ v, r = .ok v ↔ ∃ c, calls.getLast? = some c ∧ c.attempt.result = .ok v
  operation_iff : ∀ e, r = .error (.operation e) ↔
    ∃ c, calls.getLast? = some c ∧ c.attempt.result = .error e ∧
    (p.isRetryable e = false ∨ calls.length = delays.length + 1)
  /-- Only the signal cancels a run: before the first call, or before the end of a wait for another
  one. -/
  cancelled_iff : r = .error .cancelled ↔
    signal.FiredBy start ∨ ∃ c e delay, calls.getLast? = some c ∧
    c.attempt.result = .error e ∧ p.isRetryable e = true ∧ delays[calls.length - 1]? = some delay ∧
    signal.FiredBy (c.finish + delay)
  finish_of_nil : calls = [] → finish = start
  finish_of_called : r ≠ .error .cancelled → ∀ c, calls.getLast? = some c → finish = c.finish
  finish_of_cancelled : r = .error .cancelled → ∀ c, calls.getLast? = some c →
    ∃ instant, signal.due.min? = some instant ∧ finish = max instant c.finish

namespace Course

variable {p : RetryPolicy ε} {signal : Shutdown} {delays : List ℕ} {start finish : ℕ}
  {cs : List (Call ε α)} {r : Except (RetryError ε) α}

/-- A run makes a call unless the signal has fired. -/
theorem exists_cons (h : Course p signal delays start cs r finish)
    (hlive : ¬ signal.FiredBy start) :
    ∃ c rest, cs = c :: rest ∧ c.start = start := by
  cases h with
  | refused hfired => exact absurd hfired hlive
  | succeeded | failed | stopped | retried => exact ⟨_, _, rfl, rfl⟩

theorem ne_nil (h : Course p signal delays start cs r finish) (hlive : ¬ signal.FiredBy start) :
    cs ≠ [] := by
  obtain ⟨c, rest, rfl, -⟩ := h.exists_cons hlive
  exact List.cons_ne_nil c rest

theorem length_le (h : Course p signal delays start cs r finish) :
    cs.length ≤ delays.length + 1 := by
  induction h with
  | refused | succeeded | failed | stopped => simp
  | retried _ _ _ _ _ ih => simpa using ih

theorem live (h : Course p signal delays start cs r finish) :
    ∀ c ∈ cs, ¬ signal.FiredBy c.start := by
  induction h with
  | refused => exact nofun
  | succeeded hlive | failed hlive | stopped hlive => exact List.forall_mem_singleton.mpr hlive
  | retried hlive _ _ _ _ ih => exact List.forall_mem_cons.mpr ⟨hlive, ih⟩

theorem first (h : Course p signal delays start cs r finish) : ∀ c ∈ cs.head?, c.start = start := by
  cases h with
  | refused => exact nofun
  | succeeded | failed | stopped | retried => rintro _ ⟨⟩; rfl

theorem next (h : Course p signal delays start cs r finish) (k : ℕ) (c c' : Call ε α)
    (hc : cs[k]? = some c) (hc' : cs[k + 1]? = some c') :
    ∃ delay, delays[k]? = some delay ∧ c'.start = c.finish + delay := by
  induction h generalizing k with
  | refused | succeeded | failed | stopped => simp at hc'
  | @retried delay _ _ _ _ _ _ _ _ _ hquiet hrest ih =>
      rw [List.getElem?_cons_succ] at hc'
      cases k with
      | zero =>
          obtain ⟨c₂, rest, rfl, hstart⟩ := hrest.exists_cons hquiet
          simp only [List.getElem?_cons_zero, Option.some.injEq] at hc hc'
          subst hc hc'
          exact ⟨delay, rfl, hstart⟩
      | succ k => exact ih k hc hc'

/-- The last call of a run that goes on is the last one of what follows. -/
theorem getLast?_cons (h : Course p signal delays start cs r finish)
    (hlive : ¬ signal.FiredBy start) (c : Call ε α) :
    (c :: cs).getLast? = cs.getLast? := by
  obtain ⟨c', rest, rfl, -⟩ := h.exists_cons hlive
  exact List.getLast?_cons_cons

theorem ok_iff (h : Course p signal delays start cs r finish) (v : α) :
    r = .ok v ↔ ∃ c, cs.getLast? = some c ∧ c.attempt.result = .ok v := by
  induction h with
  | refused => simp
  | succeeded _ hresult => simp [hresult]
  | failed _ hresult | stopped _ hresult => simp [hresult]
  | retried _ _ _ hquiet hrest ih => rw [hrest.getLast?_cons hquiet, ih]

theorem operation_iff (h : Course p signal delays start cs r finish) (e : ε) :
    r = .error (.operation e) ↔ ∃ c, cs.getLast? = some c ∧ c.attempt.result = .error e ∧
      (p.isRetryable e = false ∨ cs.length = delays.length + 1) := by
  induction h with
  | refused => simp
  | succeeded _ hresult => simp [hresult]
  | failed _ hresult hlast =>
      simp only [Except.error.injEq, RetryError.operation.injEq, List.getLast?_singleton,
        Option.some.injEq, exists_eq_left', hresult]
      constructor
      · rintro rfl
        exact ⟨rfl, hlast.imp_right fun hnil => by simp [hnil]⟩
      · exact fun h => h.1
  | stopped _ hresult hretry =>
      simp only [Except.error.injEq, reduceCtorEq, List.getLast?_singleton, Option.some.injEq,
        exists_eq_left', hresult, false_iff, not_and]
      rintro rfl
      simp [hretry]
  | retried _ _ _ hquiet hrest ih =>
      rw [hrest.getLast?_cons hquiet, ih]
      simp

theorem cancelled_iff (h : Course p signal delays start cs r finish) :
    r = .error .cancelled ↔
      signal.FiredBy start ∨ ∃ c e delay, cs.getLast? = some c ∧ c.attempt.result = .error e ∧
      p.isRetryable e = true ∧ delays[cs.length - 1]? = some delay ∧
        signal.FiredBy (c.finish + delay) := by
  induction h with
  | refused hfired => simp [hfired]
  | succeeded hlive hresult => simp [hlive, hresult]
  | failed hlive hresult hlast =>
      simp only [Except.error.injEq, reduceCtorEq, hlive, List.getLast?_singleton,
        Option.some.injEq, false_or, false_iff, not_exists]
      rintro c e delay ⟨rfl, he, hretry, hdelay, -⟩
      obtain rfl := Except.error.inj (hresult.symm.trans he)
      rw [hlast.resolve_left (by simp [hretry])] at hdelay
      cases hdelay
  | stopped hlive hresult hretry hfired =>
      exact iff_of_true rfl (.inr ⟨_, _, _, rfl, hresult, hretry, rfl, hfired⟩)
  | retried hlive _ _ hquiet hrest ih =>
      obtain ⟨n, hlength⟩ :=
        Nat.exists_eq_succ_of_ne_zero (mt List.eq_nil_of_length_eq_zero (hrest.ne_nil hquiet))
      rw [hrest.getLast?_cons hquiet, ih]
      simp [hlive, hquiet, hlength]

theorem finish_of_nil (h : Course p signal delays start cs r finish) (hnil : cs = []) :
    finish = start := by
  cases h with
  | refused => rfl
  | succeeded | failed | stopped | retried => cases hnil

theorem finish_of_called (h : Course p signal delays start cs r finish)
    (hr : r ≠ .error .cancelled) (c : Call ε α) (hc : cs.getLast? = some c) :
    finish = c.finish := by
  induction h with
  | refused | stopped => exact absurd rfl hr
  | succeeded | failed =>
      obtain rfl := Option.some.inj hc
      rfl
  | retried _ _ _ hquiet hrest ih => exact ih hr (hrest.getLast?_cons hquiet _ ▸ hc)

theorem finish_of_cancelled (h : Course p signal delays start cs r finish)
    (hr : r = .error .cancelled) (c : Call ε α) (hc : cs.getLast? = some c) :
    ∃ instant, signal.due.min? = some instant ∧ finish = max instant c.finish := by
  induction h with
  | refused => cases hc
  | succeeded | failed => cases hr
  | stopped _ _ _ _ hinstant =>
      obtain rfl := Option.some.inj hc
      exact ⟨_, hinstant, rfl⟩
  | retried _ _ _ hquiet hrest ih => exact ih hr (hrest.getLast?_cons hquiet _ ▸ hc)

/-- A course is what the schedule promises. -/
theorem scheduled (h : Course p signal delays start cs r finish) :
    Scheduled p delays signal start cs r finish where
  length_le := h.length_le
  live := h.live
  first := h.first
  next := h.next
  ok_iff := h.ok_iff
  operation_iff := h.operation_iff
  cancelled_iff := h.cancelled_iff
  finish_of_nil := h.finish_of_nil
  finish_of_called := h.finish_of_called
  finish_of_cancelled := h.finish_of_cancelled

end Course

/-! ## runs in sequence -/

section

variable {p : RetryPolicy ε} {script : ℕ → Attempt ε α}

/-- The policy of a schedule, with a test of failures or without one. -/
def policy (delays : List ℕ) : Option (ε → Bool) → RetryPolicy ε
  | none => .ofDelays delays
  | some test => (RetryPolicy.ofDelays delays).withPredicate test

theorem delays_policy (delays : List ℕ) (retryable : Option (ε → Bool)) :
    (policy delays retryable).delays = if delays = [] then [1000, 3000, 5000] else delays := by
  cases retryable <;>
    simp [policy, RetryPolicy.withPredicate, RetryPolicy.ofDelays, RetryPolicy.defaultDelays,
      List.isEmpty_iff]

/-- A clock at its start, with a signal. -/
def RetryState.start (signal : Shutdown) : RetryState :=
  { now := 0, signal, calls := [], count := 0 }

/-- The state after so many runs. -/
def afterRuns (p : RetryPolicy ε) (script : ℕ → Attempt ε α) (signal : Shutdown) : ℕ → RetryState
  | 0 => .start signal
  | n + 1 => (runRetry p script (afterRuns p script signal n)).2.2

/-- One run, from a clock that shows all that has happened. -/
theorem course_runRetry (p : RetryPolicy ε) (script : ℕ → Attempt ε α) {s : RetryState}
    (hcurrent : s.signal.Current s.now) :
    ∃ r starts s', runRetry p script s = (r, starts, s') ∧
      Course p s.signal p.delays s.now (calls script s.count starts) r s'.now ∧
      Leaves s.signal { s with calls := [] } s' starts := by
  obtain ⟨starts, r, s', hrun, hcourse, hleaves⟩ := course_attempts p script p.delays
    (s := { s with calls := [] }) hcurrent (.refl s.signal s.now)
  have hstarts : s'.calls.reverse = starts := by simp [hleaves.calls]
  refine ⟨r, starts, s', ?_, hcourse, hleaves⟩
  simp only [runRetry, RetryPolicy.run, hrun, hstarts]

/-- The clock shows all that has happened before every run, and the signal is the one that it
was. -/
theorem current_afterRuns (p : RetryPolicy ε) (script : ℕ → Attempt ε α) (signal : Shutdown)
    (n : ℕ) :
    let s := afterRuns p script signal n
    s.signal.Current s.now ∧ signal.Follows s.signal s.now := by
  induction n with
  | zero => exact ⟨signal.current_zero, (Shutdown.Later.refl signal 0).follows⟩
  | succ n ih =>
      obtain ⟨hcurrent, hfollows⟩ := ih
      obtain ⟨r, starts, s', hrun, -, hleaves⟩ := course_runRetry p script hcurrent
      simp only [afterRuns, hrun]
      exact ⟨hleaves.current, hfollows.trans hleaves.follows hleaves.le_now⟩

end

/-- A store call under a schedule is a run whose failures are those of the store. -/
theorem run_retrying (p : RetryPolicy StoreError) (call : StoreCall)
    (script : ℕ → Attempt StoreError call.Value) (s : RetryState) :
    (Store.retrying p call).run (answerRetry script) { s with calls := [] } =
      ((runRetry (Store.retryPolicy p) script s).1.mapError Store.failure,
        (runRetry (Store.retryPolicy p) script s).2.2) := by
  rw [Store.retrying, Program.run_bind]
  rfl

/-- **Runs keep to their schedule**: whatever the delays, of which none mean the default ones, the
test of failures or its absence, the action, and the signal,

* every run in a sequence of runs has the whole schedule to itself, and keeps to it: it makes one
  call more than there are delays at most, and none when the signal has fired; every call after the
  first begins exactly one delay after the end of the call before it; and it ends with the value of
  its last call exactly if that succeeded, with its failure exactly if that was not worth another
  attempt or there was none left, and as cancelled exactly if the signal had fired before the first
  call or before the end of the wait for another one, then at the later of the signal and the end of
  the last call;
* the signal of a run is the one that there was at the beginning, and no trigger that fired before
  the run has been missed;
* and a store call under a schedule is such a run, with failed connections alone worth another
  attempt. -/
theorem runs_keep_schedule :
    (∀ (ε α : Type) (delays : List ℕ) (retryable : Option (ε → Bool)) (script : ℕ → Attempt ε α)
      (signal : Shutdown)
      (n : ℕ),
      let p := policy delays retryable
      let s := afterRuns p script signal n
      ∃ r starts s', runRetry p script s = (r, starts, s') ∧
        Scheduled p (if delays = [] then [1000, 3000, 5000] else delays) s.signal s.now
          (calls script s.count starts) r
          s'.now ∧
        s'.count = s.count + starts.length ∧ signal.Follows s.signal s.now) ∧
      ∀ (delays : List ℕ) (call : StoreCall) (script : ℕ → Attempt StoreError call.Value)
        (s : RetryState),
        let p := policy delays (some StoreError.isRetryable)
        (Store.retrying (.ofDelays delays) call).run (answerRetry script) { s with calls := [] } =
            ((runRetry p script s).1.mapError Store.failure, (runRetry p script s).2.2) ∧
          ∀ e, p.isRetryable e = true ↔ ∃ reason, e = .connection reason := by
  constructor
  · intro ε α delays retryable script signal n p s
    obtain ⟨hcurrent, hfollows⟩ := current_afterRuns p script signal n
    obtain ⟨r, starts, s', hrun, hcourse, hleaves⟩ := course_runRetry p script hcurrent
    rw [delays_policy] at hcourse
    exact ⟨r, starts, s', hrun, hcourse.scheduled, hleaves.count, hfollows⟩
  · intro delays call script s p
    exact ⟨run_retrying (.ofDelays delays) call script s,
      fun e => Store.isRetryable_iff (p := .ofDelays delays)⟩

end Loyalty.Simulation
