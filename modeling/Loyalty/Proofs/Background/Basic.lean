import Loyalty.Accrual.Teardown
import Loyalty.Proofs.Accrual.Stage
import Loyalty.Proofs.Store.Budget

/-!
# Loyalty.Proofs.Background.Basic

The worker in the background, and whoever stops it.

The worker makes one pass after the other, on stores whose calls are tried again.
Stopping it is a program of its own, `Accrual.Teardown.stop`.  One step is a step
of one of the two: they are under way at once, and stopping may begin, and go on,
between any two steps of the worker.  The accrual service answers what it likes,
and so does every attempt of a call.

`Step.turn` says what a step does to the pass, whatever its other effects:
nothing, one move from stage to stage with what is noted of it, or the end of one
pass or the beginning of another.
-/

namespace Loyalty.Background

open Accrual (Question Report Outcome Stage)

/-! ## states -/

/-- Where the worker is. -/
inductive Task
  /-- Between two passes. -/
  | waiting
  /-- In a pass of which this is left. -/
  | passing (rest : Program Question.Answer Report)
  /-- In a call of a pass: the answers of its attempts, what is left of it, and what follows from
  it. -/
  | calling (call : StoreCall) (answers : List call.Answer)
    (rest : Program (RetryPolicy.Question.Answer StoreError call.Value) call.Answer)
    (next : call.Answer → Program Question.Answer Report)
  | ended

/-- What is noted of a pass. -/
inductive Event
  /-- The accrual service was asked about an order. -/
  | fetched (number : OrderNumber) (answer : Except GatewayError Outcome)
  /-- A call got these answers to its attempts, and gave its caller the last argument. -/
  | called (call : StoreCall) (answers : List call.Answer) (answer : call.Answer)

/-- The worker and whoever stops it between two steps. -/
structure State where
  task : Task
  /-- The worker's signal has fired. -/
  workerTold : Bool
  /-- The signal of the stores has fired. -/
  storesTold : Bool
  /-- What is left of stopping. -/
  stopping : Program Accrual.Teardown.Question.Answer Unit
  /-- What was noted, newest first. -/
  log : List Event

/-- A worker before its first pass, and nobody has begun to stop it. -/
def start : State where
  task := .waiting
  workerTold := false
  storesTold := false
  stopping := Accrual.Teardown.stop
  log := []

/-! ## steps -/

/-- How a question of a pass may be answered that is no call. -/
def Tells (told : Bool) : (q : Question) → q.Answer → Prop
  | .stopping, r => r = told
  | .store _, _ => False
  | .coolDown _, _ | .startCooldown _, _ | .fetch _, _ => True

/-- What is noted of such a question. -/
def noted : (q : Question) → q.Answer → List Event
  | .fetch number, r => [.fetched number r]
  | .store _, _ | .coolDown _, _ | .startCooldown _, _ | .stopping, _ => []

/-- One step. -/
inductive Step (p : RetryPolicy StoreError) (interval : ℕ) (s : State) : State → Prop
  /-- The next pass begins, be the worker told to stop or not. -/
  | tick (htask : s.task = .waiting) :
      Step p interval s { s with task := .passing (Accrual.pass interval) }
  /-- The worker ends. -/
  | leave (htask : s.task = .waiting) (htold : s.workerTold = true) :
      Step p interval s { s with task := .ended }
  /-- A pass is over. -/
  | finish {report : Report} (htask : s.task = .passing (.done report)) :
      Step p interval s { s with task := .waiting }
  /-- A question of a pass is answered. -/
  | tell {q : Question} {next : q.Answer → Program Question.Answer Report} {r : q.Answer}
      (htask : s.task = .passing (.ask q next)) (htells : Tells s.workerTold q r) :
      Step p interval s { s with task := .passing (next r), log := noted q r ++ s.log }
  /-- A call begins. -/
  | call {call : StoreCall} {next : call.Answer → Program Question.Answer Report}
      (htask : s.task = .passing (.ask (.store call) next)) :
      Step p interval s { s with task := .calling call [] (Store.retrying p call) next }
  /-- A call looks whether the stores are told to stop. -/
  | look {call : StoreCall} {answers : List call.Answer}
      {rest : Bool → Program (RetryPolicy.Question.Answer StoreError call.Value) call.Answer}
      {next : call.Answer → Program Question.Answer Report}
      (htask : s.task = .calling call answers (.ask .stopping rest) next) :
      Step p interval s { s with task := .calling call answers (rest s.storesTold) next }
  /-- A wait of a call ends, before its time only when the stores are told to stop. -/
  | wait {call : StoreCall} {answers : List call.Answer} {ms : ℕ}
      {rest : Bool → Program (RetryPolicy.Question.Answer StoreError call.Value) call.Answer}
      {next : call.Answer → Program Question.Answer Report} {stopped : Bool}
      (htask : s.task = .calling call answers (.ask (.wait ms) rest) next)
      (hstopped : stopped = true → s.storesTold = true) :
      Step p interval s { s with task := .calling call answers (rest stopped) next }
  /-- An attempt of a call is answered. -/
  | attempt {call : StoreCall} {answers : List call.Answer}
      {rest : call.Answer → Program (RetryPolicy.Question.Answer StoreError call.Value) call.Answer}
      {next : call.Answer → Program Question.Answer Report} (answer : call.Answer)
      (htask : s.task = .calling call answers (.ask .attempt rest) next) :
      Step p interval s { s with task := .calling call (answers ++ [answer]) (rest answer) next }
  /-- A call is over. -/
  | ret {call : StoreCall} {answers : List call.Answer} {answer : call.Answer}
      {next : call.Answer → Program Question.Answer Report}
      (htask : s.task = .calling call answers (.done answer) next) :
      Step p interval s
        { s with task := .passing (next answer), log := .called call answers answer :: s.log }
  | tellWorker {next : Unit → Program Accrual.Teardown.Question.Answer Unit}
      (hasks : s.stopping = .ask .tellWorker next) :
      Step p interval s { s with workerTold := true, stopping := next () }
  /-- Whoever waits for the worker goes on when it has ended. -/
  | join {next : Unit → Program Accrual.Teardown.Question.Answer Unit}
      (hasks : s.stopping = .ask .join next) (htask : s.task = .ended) :
      Step p interval s { s with stopping := next () }
  | tellStores {next : Unit → Program Accrual.Teardown.Question.Answer Unit}
      (hasks : s.stopping = .ask .tellStores next) :
      Step p interval s { s with storesTold := true, stopping := next () }

/-- What comes of a state in some interleaving. -/
def Reaches (p : RetryPolicy StoreError) (interval : ℕ) : State → State → Prop :=
  Relation.ReflTransGen (Step p interval)

/-- What a worker comes to that is stopped at any time or not at all. -/
def Reachable (p : RetryPolicy StoreError) (interval : ℕ) : State → Prop := Reaches p interval start

variable {p : RetryPolicy StoreError} {interval : ℕ} {s s' : State}

/-! ## how far stopping is -/

/-- How far stopping is, and what it has done. -/
inductive Phase (s : State) : Prop
  | before (hstopping : s.stopping = Accrual.Teardown.stop) (hworker : s.workerTold = false)
      (hstores : s.storesTold = false)
  | joining (hstopping : s.stopping = .ask .join fun _ => .ask .tellStores fun _ => .done ())
      (hworker : s.workerTold = true) (hstores : s.storesTold = false)
  | joined (hstopping : s.stopping = .ask .tellStores fun _ => .done ())
      (hworker : s.workerTold = true) (hstores : s.storesTold = false) (htask : s.task = .ended)
  | finished (hstopping : s.stopping = .done ()) (hworker : s.workerTold = true)
      (hstores : s.storesTold = true) (htask : s.task = .ended)

namespace Phase

/-- The stores are told only after the worker has ended. -/
theorem ended_of_told (h : Phase s) (htold : s.storesTold = true) : s.task = .ended := by
  cases h with
  | before _ _ hstores | joining _ _ hstores | joined _ _ hstores _ =>
      rw [hstores] at htold
      cases htold
  | finished _ _ _ htask => exact htask

theorem untold (h : Phase s) (htask : s.task ≠ .ended) : s.storesTold = false :=
  Bool.eq_false_iff.mpr fun htold => htask (h.ended_of_told htold)

/-- A step of the worker that has not ended leaves stopping where it is. -/
theorem of_running (h : Phase s) (htask : s.task ≠ .ended) (task : Task) (log : List Event) :
    Phase { s with task, log } := by
  cases h with
  | before hstopping hworker hstores => exact .before hstopping hworker hstores
  | joining hstopping hworker hstores => exact .joining hstopping hworker hstores
  | joined _ _ _ hended | finished _ _ _ hended => exact (htask hended).elim

theorem step (h : Phase s) (hstep : Step p interval s s') : Phase s' := by
  cases hstep with
  | tick htask | leave htask | finish htask | tell htask | call htask | look htask | wait htask
  | attempt _ htask | ret htask => exact h.of_running (by simp [htask]) _ _
  | tellWorker hasks =>
      cases h with
      | before hstopping _ hstores =>
          rw [hstopping] at hasks
          cases hasks
          exact .joining rfl rfl hstores
      | joining hstopping | joined hstopping | finished hstopping => simp [hstopping] at hasks
  | join hasks htask =>
      cases h with
      | joining hstopping hworker hstores =>
          rw [hstopping] at hasks
          cases hasks
          exact .joined rfl hworker hstores htask
      | before hstopping => simp [hstopping, Accrual.Teardown.stop] at hasks
      | joined hstopping | finished hstopping => simp [hstopping] at hasks
  | tellStores hasks =>
      cases h with
      | joined hstopping hworker _ htask =>
          rw [hstopping] at hasks
          cases hasks
          exact .finished rfl hworker rfl htask
      | before hstopping => simp [hstopping, Accrual.Teardown.stop] at hasks
      | joining hstopping | finished hstopping => simp [hstopping] at hasks

end Phase

/-! ## how far a pass is -/

/-- The stage that a worker is at while no signal cuts its calls short; outside of its passes it is
at none. -/
inductive Stands (p : RetryPolicy StoreError) : Task → Option Stage → Prop
  | waiting : Stands p .waiting none
  | ended : Stands p .ended none
  | passing {rest : Program Question.Answer Report} (stage : Stage) (hrest : rest = stage.program) :
      Stands p (.passing rest) (some stage)
  | calling {call : StoreCall} {answers : List call.Answer}
      {rest : Program (RetryPolicy.Question.Answer StoreError call.Value) call.Answer}
      {next : call.Answer → Program Question.Answer Report} (stage : Stage)
      (hasks : stage.program = .ask (.store call) next)
      (htrying : Store.Trying p call answers rest) :
      Stands p (.calling call answers rest next) (some stage)

/-- What is noted of a question of a pass that got an answer, when no signal cuts its call short. -/
def Notes (p : RetryPolicy StoreError) (told : Bool) : (q : Question) → q.Answer → List Event → Prop
  | .stopping, r, added => r = told ∧ added = []
  | .fetch number, r, added => added = [.fetched number r]
  | .store call, r, added => ∃ answers, Store.Spent p answers r ∧ added = [.called call answers r]
  | .coolDown _, _, added | .startCooldown _, _, added => added = []

theorem Tells.notes {told : Bool} {q : Question} {r : q.Answer} (h : Tells told q r) :
    Notes p told q r (noted q r) := by
  cases q with
  | stopping => exact ⟨h, rfl⟩
  | store call => exact h.elim
  | coolDown _ | startCooldown _ | fetch _ => rfl

/-- What a step does to a pass, and what is noted of it. -/
inductive Turn (p : RetryPolicy StoreError) (told : Bool) :
    Option Stage → List Event → Option Stage → Prop
  | still (stage? : Option Stage) : Turn p told stage? [] stage?
  | begins (interval : ℕ) : Turn p told none [] (some (.starting interval))
  | ends (report : Report) : Turn p told (some (.left report [])) [] none
  | moves {stage stage' : Stage} {q : Question} {r : q.Answer} {added : List Event}
      (hmoves : stage.Moves q r stage') (hnotes : Notes p told q r added) :
      Turn p told (some stage) added (some stage')

/-- What a step does while the stores are told nothing before the worker has ended. -/
theorem Step.turn (h : Step p interval s s') (hphase : Phase s) {stage? : Option Stage}
    (hstands : Stands p s.task stage?) :
    ∃ added stage?', Turn p s.workerTold stage? added stage?' ∧ Stands p s'.task stage?' ∧
      s'.log = added ++ s.log := by
  cases h with
  | tick htask =>
      rw [htask] at hstands
      cases hstands
      exact ⟨_, _, .begins interval, .passing _ rfl, rfl⟩
  | leave htask =>
      rw [htask] at hstands
      cases hstands
      exact ⟨_, _, .still none, .ended, rfl⟩
  | finish htask =>
      rw [htask] at hstands
      cases hstands with
      | passing stage hrest =>
          obtain rfl := Stage.eq_left_nil hrest.symm
          exact ⟨_, _, .ends _, .waiting, rfl⟩
  | tell htask htells =>
      rw [htask] at hstands
      cases hstands with
      | passing stage hrest =>
          obtain ⟨stage', hmoves, hnext⟩ := Stage.moves hrest.symm _
          exact ⟨_, _, .moves hmoves htells.notes, .passing stage' hnext, rfl⟩
  | call htask =>
      rw [htask] at hstands
      cases hstands with
      | passing stage hrest => exact ⟨_, _, .still _, .calling stage hrest.symm (.start p _), rfl⟩
  | look htask =>
      -- The stores are not told while a call is under way, so it goes on to its next attempt.
      have huntold := hphase.untold (by simp [htask])
      rw [htask] at hstands
      rw [huntold]
      cases hstands with
      | calling stage hasks htrying =>
          exact ⟨_, _, .still _, .calling stage hasks htrying.look, rfl⟩
  | wait htask hstopped =>
      have huntold := hphase.untold (by simp [htask])
      rw [huntold] at hstopped
      obtain rfl := Bool.eq_false_iff.mpr fun h => Bool.false_ne_true (hstopped h)
      rw [htask] at hstands
      cases hstands with
      | calling stage hasks htrying =>
          exact ⟨_, _, .still _, .calling stage hasks htrying.resume, rfl⟩
  | attempt answer htask =>
      rw [htask] at hstands
      cases hstands with
      | calling stage hasks htrying =>
          exact ⟨_, _, .still _, .calling stage hasks (htrying.attempt answer), rfl⟩
  | ret htask =>
      rw [htask] at hstands
      cases hstands with
      | calling stage hasks htrying =>
          obtain ⟨stage', hmoves, hnext⟩ := Stage.moves hasks _
          exact ⟨_, _, .moves hmoves ⟨_, htrying.spent, rfl⟩, .passing stage' hnext, rfl⟩
  | tellWorker | join | tellStores => exact ⟨_, _, .still _, hstands, rfl⟩

end Loyalty.Background
