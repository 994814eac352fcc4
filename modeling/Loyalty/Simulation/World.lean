import Loyalty.Accrual.Interval
import Loyalty.Accrual.Worker
import Loyalty.Service.UseCase
import Loyalty.Shutdown
import Loyalty.Store.Memory
import Loyalty.Store.Retrying

/-!
# Loyalty.Simulation.World

The program in a world where everything that happens is written down beforehand.

The stores are in memory, behind a script of failures for each of their calls;
the accrual service is a script of answers for each number; the clock moves only
when everything waits.  Use cases and the worker's passes become
programs over `Act`, the few things that happen in such a world, of which only
`wait` takes time.
-/

namespace Loyalty.Simulation

/-! ## scripts -/

/-- What happens to one call of the stores. -/
structure Fault where
  /-- The milliseconds before anything else. -/
  before : Nat
  /-- The failure that the caller gets. -/
  error : Option StoreError
  /-- Whether the call is made although the caller gets a failure. -/
  applied : Bool
  /-- The milliseconds between the call and its end. -/
  after : Nat

/-- One answer of the accrual service. -/
structure Reply where
  takes : Nat
  /-- Whether the passes are told to stop before it. -/
  stopsPasses : Bool
  outcome : Except GatewayError Accrual.Outcome

/-- What was called when. -/
inductive Entry
  | called (name : String) (time : Nat)
  | fetched (number : OrderNumber) (time : Nat)
  deriving DecidableEq

/-! ## what happens -/

/-- A signal that somebody looks at. -/
inductive Signal
  /-- The one that the retries of the stores heed. -/
  | stores
  /-- The one that passes made on request heed. -/
  | passes
  /-- The one that the worker heeds. -/
  | worker
  deriving DecidableEq

/-- What happens in such a world. -/
inductive Act
  /-- Time passes, if asked for only until the stores are told to stop. -/
  | wait (ms : Nat) (heeding : Bool)
  | isFired (signal : Signal)
  /-- The passes are told to stop. -/
  | stopPasses
  /-- The next failure of a call is taken from its script. -/
  | fault (name : String)
  /-- A call of the stores in memory. -/
  | memory (call : StoreCall)
  /-- The next answer for a number is taken from its script. -/
  | reply (number : OrderNumber)
  | coolDown (interval : Nat)
  | startCooldown (ms : Nat)
  | now
  | salt

/-- What each act gives. -/
@[reducible] def Act.Answer : Act → Type
  | wait _ _ => Bool
  | isFired _ => Bool
  | stopPasses => Unit
  | fault _ => Option Fault
  | memory call => call.Answer
  | reply _ => Option Reply
  | coolDown _ => Bool
  | startCooldown _ => Unit
  | now => Instant
  | salt => List UInt8

/-- A program in such a world. -/
abbrev Acting (α : Type) := Program Act.Answer α

/-- A single act. -/
def Act.once (a : Act) : Acting a.Answer := .ask a .done

/-! ## what everything comes to -/

/-- How the parts are put together. -/
structure Setup where
  /-- The policy of the retries around the stores, if there are any. -/
  retry : Option (RetryPolicy StoreError)
  /-- Whether the stores are behind scripts. -/
  scripted : Bool
  /-- The poll interval of the worker in milliseconds. -/
  interval : Nat

namespace Setup

/-- A call of the stores as their script wants it. -/
def faulty (call : StoreCall) : Option Fault → Acting call.Answer
  | none => Act.once (.memory call)
  | some f => .ask (.wait f.before false) fun _ =>
    match f.error with
    | none => .ask (.memory call) fun r => .ask (.wait f.after false) fun _ => .done r
    | some e =>
      if f.applied then .ask (.memory call) fun _ => .ask (.wait f.after false) fun _ =>
        .done (.error e)
      else .done (.error e)

/-- One attempt of a call. -/
def attempt (s : Setup) (call : StoreCall) : Acting call.Answer :=
  if s.scripted then .ask (.fault call.name) (faulty call) else Act.once (.memory call)

/-- A retried call in terms of its attempts. -/
def answerRetry (s : Setup) (call : StoreCall) :
    (q : RetryPolicy.Question) → Acting (q.Answer StoreError call.Value)
  | .stopping => Act.once (.isFired .stores)
  | .attempt => s.attempt call
  | .wait ms => Act.once (.wait ms true)

/-- A call of the stores. -/
def call (s : Setup) (c : StoreCall) : Acting c.Answer :=
  match s.retry with
  | none => s.attempt c
  | some p => (Store.retrying p c).interpret (s.answerRetry c)

/-- The accrual service asked about an order. -/
def fetch (number : OrderNumber) : Acting (Except GatewayError Accrual.Outcome) :=
  .ask (.reply number) fun reply? =>
  match reply? with
  | none => .done (.ok .notRegistered)
  | some reply => .ask (.wait reply.takes false) fun _ =>
    if reply.stopsPasses then .ask .stopPasses fun _ => .done reply.outcome else .done reply.outcome

/-- What a use case asks. -/
def answerNeed (s : Setup) : (q : Need) → Acting q.Answer
  | .store c => s.call c
  | .now => Act.once .now
  | .salt => Act.once .salt

/-- What a pass asks that heeds a signal. -/
def answerPass (s : Setup) (signal : Signal) : (q : Accrual.Question) → Acting q.Answer
  | .coolDown interval => Act.once (.coolDown interval)
  | .startCooldown ms => Act.once (.startCooldown ms)
  | .stopping => Act.once (.isFired signal)
  | .fetch number => fetch number
  | .store c => s.call c

/-- One pass over the pending orders that heeds a signal. -/
def pass (s : Setup) (signal : Signal) : Acting Accrual.Report :=
  (Accrual.pass s.interval).interpret (s.answerPass signal)

/-- A use case, or anything else that asks for the same things. -/
def serve {α : Type} (s : Setup) (p : Program Need.Answer α) : Acting α := p.interpret s.answerNeed

end Setup

/-! ## the world -/

/-- What the worker is doing. -/
inductive Worker
  /-- There is none, or it has ended. -/
  | absent
  /-- It waits for its next pass. -/
  | idle (interval : Accrual.Interval)
  /-- It waits within a pass, until an instant or only until the stores are told to stop. -/
  | busy (interval : Accrual.Interval) (wake : Nat) (heeding : Bool)
      (rest : Bool → Acting Accrual.Report)

/-- Everything there is. -/
structure World where
  setup : Setup
  /-- The milliseconds since the beginning. -/
  now : Nat
  /-- The instant of the beginning. -/
  epoch : Instant
  memory : Store.Memory.State
  /-- How many stamps were used up. -/
  stamps : Nat
  faults : Table String (List Fault)
  replies : Table String (List Reply)
  /-- The signal to the stores. -/
  stores : Shutdown
  /-- Whether passes made on request were told to stop. -/
  passesStopped : Bool
  /-- Whether the worker was told to stop. -/
  workerStopped : Bool
  cooldown : Nat
  worker : Worker
  /-- What was called, newest first. -/
  log : List Entry

namespace World

/-- The beginning. -/
def initial (setup : Setup) (epoch : Instant) : World :=
  { setup, now := 0, epoch, memory := .empty, stamps := 0, faults := .empty, replies := .empty,
    stores := .channel,
    passesStopped := false, workerStopped := false, cooldown := 0, worker := .absent, log := [] }

/-- The present instant. -/
def instant (w : World) : Instant := w.epoch.add (.ofMillis w.now)

/-- An identifier that nothing has, at the present instant. -/
def stamp (w : World) : Store.Memory.Stamp :=
  { id := ⟨.ofNat 128 (w.stamps + 1)⟩, now := w.instant }

/-- The first failure of a script is used up. -/
def takeFault (w : World) (name : String) : Option Fault × World :=
  match (w.faults.get? name).getD [] with
  | [] => (none, w)
  | f :: rest => (some f, { w with faults := w.faults.insert name rest })

/-- The first answer of a script is used up, unless it is the last. -/
def takeReply (w : World) (number : OrderNumber) : Option Reply × World :=
  match (w.replies.get? number.text).getD [] with
  | [] => (none, w)
  | [reply] => (some reply, w)
  | reply :: rest => (some reply, { w with replies := w.replies.insert number.text rest })

/-- Whether a signal was fired. -/
def isFired (w : World) : Signal → Bool
  | .stores => w.stores.fired
  | .passes => w.passesStopped
  | .worker => w.workerStopped

/-- An act that takes no time. A wait is none of them: who waits is looked after by the clock. -/
def act (w : World) : (a : Act) → a.Answer × World
  | .wait _ _ => (false, w)
  | .isFired signal => (w.isFired signal, w)
  | .stopPasses => ((), { w with passesStopped := true })
  | .fault name => { w with log := .called name w.now :: w.log }.takeFault name
  | .memory call =>
    let r := Store.Memory.step w.stamp w.memory call
    (r.1, { w with memory := r.2, stamps := w.stamps + 1 })
  | .reply number => { w with log := .fetched number w.now :: w.log }.takeReply number
  | .coolDown interval =>
    if w.cooldown = 0 then (false, w)
    else (true, { w with cooldown := Accrual.remainingCooldown w.cooldown interval })
  | .startCooldown ms => ((), { w with cooldown := ms })
  | .now => (w.instant, w)
  | .salt => ((List.range 16).map fun i => UInt8.ofNat (w.stamps + i),
      { w with stamps := w.stamps + 1 })

end World

end Loyalty.Simulation
