/-!
# Loyalty.Accrual.Interval

When the passes of the worker are due.

The first pass is due one interval after the start, each other one an interval
after the one before.  A pass that begins late — because the one before it took
longer than the interval — moves those after it: the next one is due a whole
interval after the late beginning.  A delay of a few milliseconds is not late.

Times are in milliseconds.
-/

namespace Loyalty.Accrual

/-- When the next pass is due, and how far apart passes are. -/
structure Interval where
  due : Nat
  period : Nat
  deriving DecidableEq

namespace Interval

/-- Passes from an instant on. -/
def start (now period : Nat) : Interval := { due := now + period, period }

/-- A delay up to which a pass is not late. -/
def tolerance : Nat := 5

/-- The passes after the one that is due, which begins now. -/
def next (i : Interval) (now : Nat) : Interval :=
  { i with due := (if i.due + tolerance < now then now else i.due) + i.period }

/-- Passes stay in order. -/
theorem due_lt_next {i : Interval} (h : 0 < i.period) (now : Nat) : i.due < (i.next now).due := by
  unfold next
  dsimp only
  split <;> omega

end Interval

end Loyalty.Accrual
