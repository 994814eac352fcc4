import Loyalty.Accrual.Teardown
import Loyalty.Simulation.Clock

/-!
# Loyalty.Simulation.Session

What is done to such a world from outside, one thing after the other.
-/

namespace Loyalty.Simulation.World

/-- A call of the stores. -/
def store (w : World) (c : StoreCall) : c.Answer × World := perform (w.setup.call c) w

/-- A use case, or the answering of a request. -/
def serve {α : Type} (w : World) (p : Program Need.Answer α) : α × World :=
  perform (w.setup.serve p) w

/-- A pass made on request. -/
def tick (w : World) : Accrual.Report × World := perform (w.setup.pass .passes) w

/-- Time passes. -/
def advance (w : World) (ms : Nat) : World := (w.wait ms false).2

/-- The failures of a call are written down. -/
def setFaults (w : World) (name : String) (faults : List Fault) : World :=
  { w with faults := w.faults.insert name faults }

/-- The answers for a number are written down. -/
def setReplies (w : World) (number : String) (replies : List Reply) : World :=
  { w with replies := w.replies.insert number replies }

/-- Passes made on request are told to stop. -/
def stopTicks (w : World) : World := { w with passesStopped := true }

/-- The stores are told to stop, now or after a number of milliseconds. -/
def stopStores (w : World) : Option Nat → World
  | none => { w with stores := w.stores.trigger.drop }
  | some ms => { w with stores := w.stores.triggerAt (w.now + ms) }

/-- The worker starts; whoever stops it holds the trigger of the stores from now on. -/
def spawnWorker (w : World) : World :=
  { w with worker := .idle (.start w.now w.setup.interval), workerStopped := false }

/-- What stopping the worker does. -/
def answerTeardown : (q : Accrual.Teardown.Question) → World → q.Answer × World
  | .tellWorker, w => ((), { w with workerStopped := true })
  | .join, w => ((), { w.finishPass with worker := .absent })
  | .tellStores, w => ((), { w with stores := w.stores.trigger.drop })

/-- The worker is stopped, if there is one. -/
def stopWorker (w : World) : World :=
  match w.worker with
  | .absent => w
  | _ => (Accrual.Teardown.stop.run answerTeardown w).2

/-- What was called since the log was last taken, in order. -/
def takeLog (w : World) : List Entry × World := (w.log.reverse, { w with log := [] })

end Loyalty.Simulation.World
