import Loyalty.Watch

/-!
# Loyalty.Shutdown.Wait

The signal of `Loyalty.Shutdown` as those who listen to it see it.

The signal is a channel whose value says whether the trigger fired.  A listener
is a receiver of it: it can be asked, or waited for.  A wait listens through a
receiver of its own.  It looks at the value, and as long as the signal has not
fired it waits for another value and looks again; once there can be no other it
stays where it is.
-/

namespace Loyalty.Shutdown

variable (w : Watch Bool)

/-- The channel of a signal, and its first listener. -/
def listen : w.Channel × w.Mark := w.create false

/-- The channel of a signal that never fires: its trigger is let go of at once. -/
def listenNever : w.Channel × w.Mark := (w.dropSender (w.create false).1, (w.create false).2)

/-- Whether the signal fired, as a listener tells. -/
def isTriggered (c : w.Channel) (listener : w.Mark) : Bool := w.borrow c listener

/-- Where a wait for the signal stands, with the mark of its own receiver. -/
inductive Wait (Mark : Type) where
  /-- About to look at the value. -/
  | looking (mark : Mark)
  /-- Waiting for another value. -/
  | watching (mark : Mark)
  /-- Waiting for nothing. -/
  | stuck
  | ended
  /-- Dropped by its caller before it was over. -/
  | givenUp
  deriving DecidableEq

namespace Wait

/-- Whether a wait is still to end, and so has its receiver. -/
def isOpen {Mark : Type} : Wait Mark → Bool
  | .looking _ | .watching _ | .stuck => true
  | .ended | .givenUp => false

/-- What a wait does next, where there is something that it can do. -/
def step? (c : w.Channel) : Wait w.Mark → Option (Wait w.Mark)
  | .looking mark =>
    if (w.update c mark).1 then some .ended else some (.watching (w.update c mark).2)
  | .watching mark =>
      match w.changed? c mark with
      | some (.changed mark') => some (.looking mark')
      | some .closed => some .stuck
      | none => none
  | .stuck | .ended | .givenUp => none

end Wait

end Loyalty.Shutdown
