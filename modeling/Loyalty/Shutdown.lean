/-!
# Loyalty.Shutdown

The signal by which the program is told to stop.

A signal has one trigger, which is held by who may fire it.  Firing it is for
good; letting go of it without firing leaves those who wait for the signal
waiting.  A trigger can be handed on to be fired later.  A signal that never
fires is one without a trigger of its own.

Time is in milliseconds.  `passed` says what became of the handed-on triggers
by a given instant: who waits until that very instant does not see the one that
fires at it.
-/

namespace Loyalty

/-- A signal and what is known of its trigger. -/
structure Shutdown where
  fired : Bool
  /-- Whether the trigger is still in the hands of its first holder. -/
  held : Bool
  /-- Whether firing the trigger fires the signal. -/
  connected : Bool
  /-- The instants at which triggers that were handed on fire. -/
  due : List Nat
  deriving DecidableEq

namespace Shutdown

/-- A signal and its trigger. -/
def channel : Shutdown := { fired := false, held := true, connected := true, due := [] }

/-- A signal that never fires, beside a trigger of no signal. -/
def never : Shutdown := { fired := false, held := true, connected := false, due := [] }

/-- The trigger fired, if it is held. -/
def trigger (s : Shutdown) : Shutdown := { s with fired := s.fired || (s.held && s.connected) }

/-- The trigger let go of. -/
def drop (s : Shutdown) : Shutdown := { s with held := false }

/-- The trigger handed on, to be fired at an instant. -/
def triggerAt (s : Shutdown) (instant : Nat) : Shutdown :=
  if s.held && s.connected then { s with held := false, due := instant :: s.due }
  else { s with held := false }

/-- The first instant before a deadline at which a handed-on trigger fires. -/
def nextDue? (s : Shutdown) (deadline : Nat) : Option Nat := (s.due.filter (· < deadline)).min?

/-- The signal after everything that is due before a deadline has happened. -/
def passed (s : Shutdown) (deadline : Nat) : Shutdown :=
  { s with fired := s.fired || s.due.any (· < deadline), due := s.due.filter (deadline ≤ ·) }

/-- A wait for the signal from one instant on, for a length of time at most: whether it fired, and
the instant at which the wait ends. -/
def await (s : Shutdown) (now length : Nat) : Bool × Nat × Shutdown :=
  if s.fired then (true, now, s)
  else if length = 0 then (false, now, s)
  else
    match s.nextDue? (now + length) with
    | some instant => (true, max now instant, s.passed (max now instant + 1))
    | none => (false, now + length, s)

/-- A stretch of time. -/
def pass (s : Shutdown) (now length : Nat) : Shutdown :=
  if length = 0 then s else s.passed (now + length)

/-- A trigger that is held and connected fires. -/
@[simp] theorem fired_trigger_of_held {s : Shutdown} (h : s.held = true) (hc : s.connected = true) :
    s.trigger.fired = true := by simp [trigger, h, hc]

/-- A signal that fired stays fired. -/
theorem fired_passed {s : Shutdown} (h : s.fired = true) (deadline : Nat) :
    (s.passed deadline).fired = true := by
  simp [passed, h]

end Shutdown

end Loyalty
