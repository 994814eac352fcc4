import Loyalty.Program
import Loyalty.Text.Digits

/-!
# Loyalty.Retry

Bounded retry with a fixed schedule of delays.

A run makes one attempt more than there are delays.  Before each attempt it
looks whether the program is stopping; after a failure that is worth another
attempt it waits the next delay, and stops waiting when the program stops.  A
delay of nothing is no wait.
-/

namespace Loyalty

/-- How an action ends that was retried. -/
inductive RetryError (ε : Type)
  /-- The program was stopping before an attempt or while waiting for one. -/
  | cancelled
  /-- The failure of the last attempt. -/
  | operation (error : ε)
  deriving DecidableEq

/-- A schedule of delays in milliseconds, and the failures that are worth another attempt. -/
structure RetryPolicy (ε : Type) where
  delays : List Nat
  /-- Without a test every failure is worth another attempt. -/
  retryable : Option (ε → Bool)

namespace RetryPolicy

variable {ε α : Type}

/-- The schedule when none is given. -/
def defaultDelays : List Nat := [1000, 3000, 5000]

/-- The policy of a schedule; an empty one means the default. -/
def ofDelays (delays : List Nat) : RetryPolicy ε :=
  { delays := if delays.isEmpty then defaultDelays else delays, retryable := none }

/-- The policy of a schedule that may have negative delays, which are no waits. -/
def ofMillis (delays : List Int) : RetryPolicy ε := ofDelays (delays.map Int.toNat)

/-- The policy with a test of failures. -/
def withPredicate (p : RetryPolicy ε) (retryable : ε → Bool) : RetryPolicy ε :=
  { p with retryable := some retryable }

/-- The number of attempts of one run at most. -/
def maxAttempts (p : RetryPolicy ε) : Nat := p.delays.length + 1

/-- Whether a failure is worth another attempt. -/
def isRetryable (p : RetryPolicy ε) (e : ε) : Bool :=
  match p.retryable with
  | none => true
  | some test => test e

/-! ## the text of a policy -/

/-- A delay in the largest unit that leaves it a whole number or, in seconds, its thousandths. -/
def delayText (ms : Nat) : String :=
  let seconds := ms / 1000
  let thousandths := ms % 1000
  if ms = 0 then "0ns"
  else if seconds = 0 then s!"{thousandths}ms"
  else if thousandths = 0 then s!"{seconds}s"
  else
    let places := (Text.Digits.padded 3 thousandths).reverse.dropWhile (· = '0')
    s!"{seconds}.{String.ofList places.reverse}s"

/-- The policy as text. -/
def text (p : RetryPolicy ε) : String :=
  let delays := ", ".intercalate (p.delays.map delayText)
  s!"RetryPolicy \x7b delays: [{delays}], has_predicate: {p.retryable.isSome} \x7d"

/-! ## running -/

/-- What a run asks of its surroundings. -/
inductive Question
  /-- Whether the program is stopping. -/
  | stopping
  /-- An attempt. -/
  | attempt
  /-- A wait; the answer is whether the program was stopping before its end. -/
  | wait (ms : Nat)
  deriving DecidableEq

/-- The answers of each question. -/
@[reducible] def Question.Answer (ε α : Type) : Question → Type
  | .stopping => Bool
  | .attempt => Except ε α
  | .wait _ => Bool

/-- An action attempted under a schedule of delays. -/
def attempts (p : RetryPolicy ε) :
    List Nat → Program (Question.Answer ε α) (Except (RetryError ε) α)
  | [] => .ask .stopping fun stopping =>
    if stopping then .done (.error .cancelled)
    else .ask .attempt fun r =>
      match r with
      | .ok a => .done (.ok a)
      | .error e => .done (.error (.operation e))
  | delay :: delays => .ask .stopping fun stopping =>
    if stopping then .done (.error .cancelled)
    else .ask .attempt fun r =>
      match r with
      | .ok a => .done (.ok a)
      | .error e =>
        if !p.isRetryable e then .done (.error (.operation e))
        else if delay = 0 then p.attempts delays
        else .ask (.wait delay) fun stopped =>
          if stopped then .done (.error .cancelled) else p.attempts delays

/-- An action attempted until it succeeds, fails for good, or is cancelled. -/
def run (p : RetryPolicy ε) : Program (Question.Answer ε α) (Except (RetryError ε) α) :=
  p.attempts p.delays

end RetryPolicy

end Loyalty
