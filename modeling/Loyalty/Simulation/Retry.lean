import Loyalty.Retry
import Loyalty.Shutdown

/-!
# Loyalty.Simulation.Retry

Retried actions on a clock that moves only when everything waits.

The action is a script: what each attempt takes and how it ends.
-/

namespace Loyalty.Simulation

/-- One attempt of a scripted action. -/
structure Attempt (ε α : Type) where
  /-- The milliseconds it takes. -/
  takes : Nat
  result : Except ε α

/-- The clock, the signal, and the instants at which attempts began, newest first. -/
structure RetryState where
  now : Nat
  signal : Shutdown
  /-- Attempts of this run. -/
  calls : List Nat
  /-- Attempts of all runs. -/
  count : Nat

variable {ε α : Type}

/-- The answers that a script and a clock give. -/
def answerRetry (script : Nat → Attempt ε α) :
    (q : RetryPolicy.Question) → RetryState → q.Answer ε α × RetryState
  | .stopping, s => (s.signal.fired, s)
  | .attempt, s =>
    let a := script s.count
    (a.result, { s with
      now := s.now + a.takes, signal := s.signal.pass s.now a.takes, calls := s.now :: s.calls,
      count := s.count + 1 })
  | .wait ms, s =>
    let (fired, now, signal) := s.signal.await s.now ms
    (fired, { s with now, signal })

/-- One run: how it ends, when its attempts began, and the state after it. -/
def runRetry (p : RetryPolicy ε) (script : Nat → Attempt ε α) (s : RetryState) :
    Except (RetryError ε) α × List Nat × RetryState :=
  let (r, s) := (RetryPolicy.run p).run (answerRetry script) { s with calls := [] }
  (r, s.calls.reverse, s)

end Loyalty.Simulation
