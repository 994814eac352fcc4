import Loyalty.Simulation.World

/-!
# Loyalty.Simulation.Clock

How time passes.

Two things can happen while the foreground waits: a trigger that was handed on
fires the stores' signal, and the worker goes on.  They happen in the order of
their instants, and what waits until the same instant as the foreground waits
until the foreground waits again.  A wait that heeds the stores' signal ends
when the signal fires.

A wait of no length is no wait: nothing happens in it.
-/

namespace Loyalty.Simulation

/-- How far a program goes without waiting. -/
inductive Stage (α : Type)
  | finished (value : α)
  /-- It waits until an instant, or only until the stores are told to stop. -/
  | waiting (wake : Nat) (heeding : Bool) (rest : Bool → Acting α)

namespace World

variable {α : Type}

/-- A program up to its first wait. -/
def proceed : Acting α → World → Stage α × World
  | .done a, w => (.finished a, w)
  | .ask (.wait ms heeding) k, w =>
    if ms = 0 then proceed (k false) w else (.waiting (w.now + ms) heeding k, w)
  | .ask q k, w => proceed (k (w.act q).1) (w.act q).2

/-! ## the worker -/

/-- The worker goes on with a pass; when the pass ends it waits for the next one. -/
def continuePass (w : World) (interval : Accrual.Interval) (p : Acting Accrual.Report) : World :=
  match proceed p w with
  | (.finished _, w) => { w with worker := .idle interval }
  | (.waiting wake heeding rest, w) => { w with worker := .busy interval wake heeding rest }

/-- The instant at which the worker goes on, `now` at the earliest. -/
def workerDue? (w : World) : Option Nat :=
  match w.worker with
  | .absent => none
  | .idle interval => some (max w.now interval.due)
  | .busy _ wake heeding _ => some (if heeding && w.stores.fired then w.now else max w.now wake)

/-- The worker goes on, at an instant at which it is due. -/
def resumeWorker (w : World) : World :=
  match w.worker with
  | .absent => w
  | .idle interval => w.continuePass (interval.next w.now) (w.setup.pass .worker)
  | .busy interval _ heeding rest => w.continuePass interval (rest (heeding && w.stores.fired))

/-! ## waiting -/

/-- The instant of the next thing that happens before a deadline. -/
def nextEvent? (w : World) (deadline : Nat) : Option Nat :=
  let trigger := (w.stores.nextDue? deadline).map (max w.now)
  let worker := w.workerDue?.filter (· < deadline)
  match trigger, worker with
  | some a, some b => some (min a b)
  | some a, none => some a
  | none, worker => worker

/-- Everything that happens at an instant: triggers fire, and the worker goes on if it is due. -/
def happen (w : World) (instant : Nat) : World :=
  let w := { w with now := instant, stores := w.stores.passed (instant + 1) }
  if w.workerDue? = some instant then w.resumeWorker else w

/-- The foreground waits until a deadline, or until the stores are told to stop if it heeds that;
the answer is whether they were. -/
def waitUntil : Nat → Nat → Bool → World → Bool × World
  | 0, deadline, _, w => (false, { w with now := deadline })
  | fuel + 1, deadline, heeding, w =>
    if heeding && w.stores.fired then (true, w)
    else
      match w.nextEvent? deadline with
      | some instant => waitUntil fuel deadline heeding (w.happen instant)
      | none => (false, { w with now := deadline })

/-- More than can happen before a deadline: the worker begins a pass and goes on in one at most once
for each millisecond, and every trigger fires once. -/
def fuelUntil (w : World) (deadline : Nat) : Nat := 2 * deadline + w.stores.due.length + 2

/-- The foreground waits for a length of time. -/
def wait (w : World) (ms : Nat) (heeding : Bool) : Bool × World :=
  if ms = 0 then (false, w) else waitUntil (w.fuelUntil (w.now + ms)) (w.now + ms) heeding w

/-- A program in the foreground. -/
def perform : Acting α → World → α × World
  | .done a, w => (a, w)
  | .ask (.wait ms heeding) k, w => perform (k (w.wait ms heeding).1) (w.wait ms heeding).2
  | .ask q k, w => perform (k (w.act q).1) (w.act q).2

/-! ## waiting for the worker -/

/-- Time passes in which only triggers can fire. -/
def waitAlone (w : World) (ms : Nat) (heeding : Bool) : Bool × World :=
  if heeding then
    let (fired, now, stores) := w.stores.await w.now ms
    (fired, { w with now, stores })
  else (false, { w with now := w.now + ms, stores := w.stores.pass w.now ms })

/-- A program that everything else waits for. -/
def complete : Acting α → World → World
  | .done _, w => w
  | .ask (.wait ms heeding) k, w =>
      complete (k (w.waitAlone ms heeding).1) (w.waitAlone ms heeding).2
  | .ask q k, w => complete (k (w.act q).1) (w.act q).2

/-- The pass in which the worker is, to its end. -/
def finishPass (w : World) : World :=
  match w.worker with
  | .absent | .idle _ => w
  | .busy _ wake heeding rest =>
    let (stopped, w) := w.waitAlone (wake - w.now) heeding
    complete (rest stopped) w

end World

end Loyalty.Simulation
