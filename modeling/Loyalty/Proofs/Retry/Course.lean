import Loyalty.Proofs.Shutdown
import Loyalty.Simulation.Retry

/-!
# Loyalty.Proofs.Retry.Course

What a run of attempts is on the clock.

`Course` says once what can become of a run: it is refused before its first call,
a call succeeds, fails for good, or fails before a wait that the signal ends, and
otherwise the run goes on behind the wait with one delay less.  Every run of
`attempts` has a course (`course_attempts`), whatever the script does and
whenever the signal fires, so what holds of courses holds of runs.
-/

namespace Loyalty.Simulation

variable {ε α : Type}

/-- A call: the instant at which it began, and what came of it. -/
structure Call (ε α : Type) where
  start : ℕ
  attempt : Attempt ε α

/-- The end of a call. -/
def Call.finish (c : Call ε α) : ℕ := c.start + c.attempt.takes

/-- The calls that began at these instants, when so many were made before them. -/
def calls (script : ℕ → Attempt ε α) : ℕ → List ℕ → List (Call ε α)
  | _, [] => []
  | count, start :: starts => ⟨start, script count⟩ :: calls script (count + 1) starts

/-- What becomes of a run with these delays left that begins at an instant: its calls, how it ends,
and when. -/
inductive Course (p : RetryPolicy ε) (signal : Shutdown) :
    List ℕ → ℕ → List (Call ε α) → Except (RetryError ε) α → ℕ → Prop
  /-- The signal has fired before the first call. -/
  | refused {delays : List ℕ} {start : ℕ} (hfired : signal.FiredBy start) :
    Course p signal delays start [] (.error .cancelled) start
  | succeeded {delays : List ℕ} {c : Call ε α} {v : α} (hlive : ¬ signal.FiredBy c.start)
    (hresult : c.attempt.result = .ok v) : Course p signal delays c.start [c] (.ok v) c.finish
  /-- The failure is not worth another attempt, or there is none left. -/
  | failed {delays : List ℕ} {c : Call ε α} {e : ε} (hlive : ¬ signal.FiredBy c.start)
    (hresult : c.attempt.result = .error e) (hlast : p.isRetryable e = false ∨ delays = []) :
    Course p signal delays c.start [c] (.error (.operation e)) c.finish
  /-- The signal fires before the end of the wait, perhaps already during the call. -/
  | stopped {delay : ℕ} {delays : List ℕ} {c : Call ε α} {e : ε} {instant : ℕ}
      (hlive : ¬ signal.FiredBy c.start) (hresult : c.attempt.result = .error e)
      (hretry : p.isRetryable e = true) (hfired : signal.FiredBy (c.finish + delay))
      (hinstant : signal.due.min? = some instant) :
    Course p signal (delay :: delays) c.start [c] (.error .cancelled) (max instant c.finish)
  | retried {delay : ℕ} {delays : List ℕ} {c : Call ε α} {e : ε} {cs : List (Call ε α)}
      {r : Except (RetryError ε) α} {finish : ℕ} (hlive : ¬ signal.FiredBy c.start)
      (hresult : c.attempt.result = .error e) (hretry : p.isRetryable e = true)
      (hquiet : ¬ signal.FiredBy (c.finish + delay))
      (hrest : Course p signal delays (c.finish + delay) cs r finish) :
    Course p signal (delay :: delays) c.start (c :: cs) r finish

/-! ## runs -/

section

variable {p : RetryPolicy ε} {script : ℕ → Attempt ε α} {s : RetryState} {delays : List ℕ}

/-- The state after an attempt. -/
def RetryState.attempted (s : RetryState) (takes : ℕ) : RetryState where
  now := s.now + takes
  signal := s.signal.pass s.now takes
  calls := s.now :: s.calls
  count := s.count + 1

/-- What follows from the answer to an attempt. -/
def answered (p : RetryPolicy ε) :
    List ℕ → Except ε α → Program (RetryPolicy.Question.Answer ε α) (Except (RetryError ε) α)
  | _, .ok v => .done (.ok v)
  | [], .error e => .done (.error (.operation e))
  | delay :: delays, .error e =>
    if p.isRetryable e then
      if delay = 0 then p.attempts delays
      else .ask (.wait delay) fun stopped => if stopped then .done (.error .cancelled)
        else p.attempts delays
    else .done (.error (.operation e))

theorem run_attempts (p : RetryPolicy ε) (script : ℕ → Attempt ε α) (delays : List ℕ)
    (s : RetryState) :
    (p.attempts delays).run (answerRetry script) s =
      if s.signal.fired then (.error .cancelled, s)
      else
        (answered p delays (script s.count).result).run (answerRetry script)
          (s.attempted (script s.count).takes) := by
  cases delays with
  | nil =>
      rw [RetryPolicy.attempts, Program.run_ask]
      cases hfired : s.signal.fired with
      | true => simp [answerRetry, hfired]
      | false =>
          simp only [answerRetry, hfired, Bool.false_eq_true, if_false, Program.run_ask]
          cases (script s.count).result <;> rfl
  | cons delay delays =>
      rw [RetryPolicy.attempts, Program.run_ask]
      cases hfired : s.signal.fired with
      | true => simp [answerRetry, hfired]
      | false =>
          simp only [answerRetry, hfired, Bool.false_eq_true, if_false, Program.run_ask]
          cases (script s.count).result with
          | ok v => rfl
          | error e =>
              cases hretry : p.isRetryable e <;> simp [answered, hretry, RetryState.attempted]

/-- A failure that is worth another attempt is followed by a wait, and the attempts behind it. -/
theorem run_answered_of_quiet {delay : ℕ} {e : ε} (hretry : p.isRetryable e = true)
    (hquiet : ¬ s.signal.FiredBy (s.now + delay)) :
    (answered (α := α) p (delay :: delays) (.error e)).run (answerRetry script) s =
      (p.attempts delays).run (answerRetry script) { s with now := s.now + delay } := by
  by_cases hdelay : delay = 0
  · simp [answered, hretry, hdelay]
  · simp only [answered, hretry, hdelay, if_true, if_false, Program.run_ask, answerRetry,
      Shutdown.await_of_not_firedBy hquiet, Bool.false_eq_true]

/-- What is left behind by a run that began with a signal. -/
structure Leaves (signal : Shutdown) (s s' : RetryState) (starts : List ℕ) : Prop where
  calls : s'.calls = starts.reverse ++ s.calls
  count : s'.count = s.count + starts.length
  le_now : s.now ≤ s'.now
  current : s'.signal.Current s'.now
  follows : signal.Follows s'.signal s'.now

theorem leaves_self {signal : Shutdown} (hcurrent : s.signal.Current s.now)
    (hfollows : signal.Follows s.signal s.now) :
    Leaves signal s s [] := ⟨rfl, rfl, le_rfl, hcurrent, hfollows⟩

/-- An attempt, a wait, and what follows them. -/
theorem Leaves.attempted {signal : Shutdown} {takes : ℕ} (delay : ℕ) {s' : RetryState}
    {starts : List ℕ}
    (h : Leaves signal { s.attempted takes with now := s.now + takes + delay } s' starts) :
    Leaves signal s s' (s.now :: starts) where
  calls := by simpa [RetryState.attempted] using h.calls
  count := by
    have hcount := h.count
    simp only [RetryState.attempted, List.length_cons] at hcount ⊢
    omega
  le_now := by
    have hle := h.le_now
    simp only at hle
    omega
  current := h.current
  follows := h.follows

/-- A wait that the signal ends is the end of the run. The first trigger of a signal that has fired
by now is the one that was due before the wait. -/
theorem run_answered_of_firedBy (script : ℕ → Attempt ε α) (delays : List ℕ) {signal : Shutdown}
    {delay t : ℕ} {e : ε} (hretry : p.isRetryable e = true) (hlater : signal.Later s.signal s.now)
    (hcurrent : s.signal.Current s.now) (hlive : ¬ signal.FiredBy t)
    (hfired : signal.FiredBy (s.now + delay)) :
    ∃ s' instant, (answered (α := α) p (delay :: delays) (.error e)).run (answerRetry script) s =
        (.error .cancelled, s') ∧
      signal.due.min? = some instant ∧ s'.now = max instant s.now ∧ Leaves signal s s' [] := by
  cases hnow : s.signal.fired with
  | true =>
      have hpast := (hlater.firedBy_iff s.now le_rfl).mp (.inl hnow)
      obtain ⟨instant, hmin, hlt⟩ := hpast.exists_min?_due hlive
      refine ⟨s, instant, ?_, hmin, (max_eq_right hlt.le).symm, leaves_self hcurrent hlater.follows⟩
      by_cases hdelay : delay = 0
      · simp [answered, hretry, hdelay, run_attempts, hnow]
      · simp [answered, hretry, hdelay, Program.run_ask, answerRetry, Shutdown.await, hnow]
  | false =>
      have hlive' : ¬ s.signal.FiredBy s.now := by
        rw [hcurrent.firedBy_iff, hnow]
        exact Bool.false_ne_true
      have hfired' := (hlater.firedBy_iff _ (Nat.le_add_right ..)).mpr hfired
      obtain ⟨instant, after, hawait, hmin, hend, hfollows⟩ :=
        Shutdown.await_of_firedBy hlive' hfired'
      have hdelay : delay ≠ 0 := by
        rintro rfl
        exact hlive' hfired'
      refine ⟨{ s with now := max s.now instant, signal := after }, instant, ?_,
        hlater.due_eq hnow ▸ hmin,
        max_comm .., rfl, rfl, le_max_left .., fun h => ?_,
        hlater.follows.trans hfollows (le_max_left ..)⟩
      · simp [answered, hretry, hdelay, Program.run_ask, answerRetry, hawait]
      · rw [hend] at h
        contradiction

theorem run_answered_ok (v : α) :
    (answered p delays (.ok v)).run (answerRetry script) s = (.ok v, s) := by
  cases delays <;> rfl

theorem run_answered_failed {e : ε} (hlast : p.isRetryable e = false ∨ delays = []) :
    (answered (α := α) p delays (.error e)).run (answerRetry script) s =
      (.error (.operation e), s) := by
  cases delays with
  | nil => rfl
  | cons delay delays =>
      have hretry := hlast.resolve_right (List.cons_ne_nil _ _)
      simp [answered, hretry]

/-- **Every run has a course**, and leaves a signal that agrees with the one it began with. -/
theorem course_attempts (p : RetryPolicy ε) (script : ℕ → Attempt ε α) {signal : Shutdown}
    (delays : List ℕ) {s : RetryState} (hcurrent : s.signal.Current s.now)
    (hlater : signal.Later s.signal s.now) :
    ∃ starts r s', (p.attempts delays).run (answerRetry script) s = (r, s') ∧
      Course p signal delays s.now (calls script s.count starts) r s'.now ∧
        Leaves signal s s' starts := by
  rw [run_attempts]
  cases hfired : s.signal.fired with
  | true =>
      have hstart := (hlater.firedBy_iff s.now le_rfl).mp (.inl hfired)
      exact ⟨[], _, s, rfl, .refused hstart, leaves_self hcurrent hlater.follows⟩
  | false =>
      rw [if_neg Bool.false_ne_true]
      let c : Call ε α := ⟨s.now, script s.count⟩
      have hlive : ¬ signal.FiredBy c.start := by
        rw [← hlater.firedBy_iff s.now le_rfl, hcurrent.firedBy_iff, hfired]
        exact Bool.false_ne_true
      have hcurrent' : (s.attempted c.attempt.takes).signal.Current c.finish := hcurrent.pass _
      have hlater' : signal.Later (s.attempted c.attempt.takes).signal c.finish :=
        hlater.trans (s.signal.later_pass s.now _) (Nat.le_add_right ..)
      have hover : Leaves signal s (s.attempted c.attempt.takes) [s.now] :=
        Leaves.attempted 0
          (leaves_self (s := s.attempted c.attempt.takes) hcurrent' hlater'.follows)
      cases hresult : (script s.count).result with
      | ok v =>
          exact ⟨[s.now], .ok v, s.attempted c.attempt.takes, run_answered_ok v,
            .succeeded (c := c) hlive hresult, hover⟩
      | error e =>
          by_cases hlast : p.isRetryable e = false ∨ delays = []
          · exact ⟨[s.now], .error (.operation e), s.attempted c.attempt.takes,
              run_answered_failed hlast,
              .failed (c := c) hlive hresult hlast, hover⟩
          · rw [not_or, Bool.not_eq_false] at hlast
            obtain ⟨hretry, hne⟩ := hlast
            obtain ⟨delay, rest, rfl⟩ := List.exists_cons_of_ne_nil hne
            by_cases hstop : signal.FiredBy (c.finish + delay)
            · obtain ⟨s', instant, hrun, hmin, hnow, hleaves⟩ := run_answered_of_firedBy script rest
                (s := s.attempted c.attempt.takes) hretry hlater' hcurrent' hlive hstop
              refine ⟨[s.now], _, s', hrun, ?_, hleaves.attempted 0⟩
              rw [hnow]
              exact .stopped (c := c) hlive hresult hretry hstop hmin
            · have hquiet := mt (hlater'.firedBy_iff _ (Nat.le_add_right ..)).mp hstop
              rw [run_answered_of_quiet hretry hquiet]
              obtain ⟨starts, r, s', hrun, hcourse, hleaves⟩ := course_attempts p script rest
                (s := { s.attempted c.attempt.takes with now := c.finish + delay })
                (Shutdown.current_of_not_firedBy hquiet) (hlater'.mono (Nat.le_add_right ..))
              exact ⟨s.now :: starts, r, s', hrun,
                .retried (c := c) hlive hresult hretry hstop hcourse,
                hleaves.attempted delay⟩
termination_by delays.length

end

end Loyalty.Simulation
