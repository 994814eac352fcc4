import Loyalty.Proofs.Accrual.Answers
import Loyalty.Proofs.System.Following

/-!
# Loyalty.Proofs.System.Web

The system with the accrual service behind HTTP.

What an order has earned is said by a server that is asked over HTTP, and that
may answer a request with any status, headers and body, or not at all.  All that
went over the wire is kept, so that the last word of the server on a number can
be read off it (`Web.replies`).

Everything else happens as in a system whose service never says anything
(`Setting.silent`).  A run is one of a system whose service says whatever can be
read from some answers (`Setting.online`), so what holds of every system holds
here too.
-/

namespace Loyalty.System

open Accrual Store Store.Memory

/-! ## states and steps -/

/-- A system, and what went over the wire, newest first. -/
structure Web where
  state : State
  wire : List (Program.Exchange Gateway.Get.Answer)

/-- The service says nothing. -/
def Setting.silent (w : Setting) : Setting := { w with gateway := fun _ _ => False }

/-- The service says what a server may answer. -/
def Setting.online (w : Setting) (base : String) : Setting :=
  { w with gateway := fun number r => ∃ log, (Gateway.fetch base number).Gives log r }

namespace Web

/-- A system to which nothing happened. -/
def start (w : Setting) : Web := { state := System.start w, wire := [] }

/-- One step of a system whose service is a server. -/
inductive Step (w : Setting) (base : String) (s : Web) : Web → Prop
  /-- The worker asks the server about an order. -/
  | fetch {number : OrderNumber}
      {next : Except GatewayError Outcome → Program Accrual.Question.Answer Accrual.Report}
      {log : List (Program.Exchange Gateway.Get.Answer)} {r : Except GatewayError Outcome}
      (hasks : s.state.worker = .ask (.fetch number) next)
      (hgives : (Gateway.fetch base number).Gives log r) :
      Step w base s
        { state := { s.state with worker := next r, asked := ⟨.fetch number, r⟩ :: s.state.asked }
          wire := log.reverse ++ s.wire }
  /-- Anything else happens. -/
  | other {state : State} (hstep : System.Step w.silent s.state state) :
      Step w base s { s with state }

/-- What a system can come to from a state. -/
def Reaches (w : Setting) (base : String) : Web → Web → Prop := Relation.ReflTransGen (Step w base)

/-- What a system can come to. -/
def Reachable (w : Setting) (base : String) : Web → Prop := Reaches w base (start w)

/-- The order of a number. -/
def order? (s : Web) (number : OrderNumber) : Option Order := s.state.trace.state.order? number

/-- What became of the requests about a number, newest first. -/
def replies (s : Web) (base : String) (number : OrderNumber) :
    List (Except String Gateway.Answer) :=
  (s.wire.filter (·.question.address = Gateway.address base number)).map (·.answer)

variable {w : Setting} {base : String} {s s' : Web}

/-- What happens without a server can happen before anything is asked of it. -/
theorem reaches_of_silent {state : State} (h : System.Reachable w.silent state) :
    Reachable w base { state, wire := [] } := by
  induction h with
  | start => exact Relation.ReflTransGen.refl
  | step _ hstep ih => exact ih.tail (.other hstep)

end Web

/-! ## stages along a run -/

/-- A service that says nothing is one that says only what a server may answer. -/
theorem Tells.of_silent {w : Setting} {base : String} {t t' : Trace} {q : Question} {r : q.Answer}
    (h : Tells w.silent t q r t') : Tells (w.online base) t q r t' := by
  cases q with
  | fetch number => exact h.1.elim
  | coolDown _ | startCooldown _ | stopping | store _ => exact h

/-- What happens without a server can happen beside one. -/
theorem Advance.of_silent {w : Setting} {base : String} {s s' : State} {stage stage' : Stage}
    (h : Advance w.silent s stage s' stage') : Advance (w.online base) s stage s' stage' := by
  cases h with
  | client hasks hserves => exact .client hasks hserves
  | worker hmoves htells => exact .worker hmoves htells.of_silent
  | tick => exact .tick

namespace Web

variable {w : Setting} {base : String} {s s' : Web} {stage stage' : Stage}

/-- A step of a system, and the stage that it takes the worker to. -/
inductive Advance (w : Setting) (base : String) (s : Web) (stage : Stage) : Web → Stage → Prop
  | fetch {number : OrderNumber} {log : List (Program.Exchange Gateway.Get.Answer)}
      {r : Except GatewayError Outcome} {stage' : Stage}
      (hmoves : stage.Moves (.fetch number) r stage')
      (hgives : (Gateway.fetch base number).Gives log r) :
      Advance w base s stage
        { state := { s.state with
            worker := stage'.program, asked := ⟨.fetch number, r⟩ :: s.state.asked }
          wire := log.reverse ++ s.wire } stage'
  | other {state : State} {stage' : Stage}
      (h : System.Advance w.silent s.state stage state stage') :
      Advance w base s stage { s with state } stage'

/-- Every step takes the worker to some stage. -/
theorem Step.advance (h : Step w base s s') (hworker : s.state.worker = stage.program) :
    ∃ stage', Advance w base s stage s' stage' ∧ s'.state.worker = stage'.program := by
  cases h with
  | fetch hasks hgives =>
      rw [hworker] at hasks
      obtain ⟨stage', hmoves, hnext⟩ := Stage.moves hasks _
      rw [hnext]
      exact ⟨stage', .fetch hmoves hgives, rfl⟩
  | other hstep =>
      obtain ⟨stage', hadvance, hworker'⟩ := hstep.advance hworker
      exact ⟨stage', .other hadvance, hworker'⟩

/-- Seen without the wire, a step is one of a system whose service says what a server may answer. -/
theorem Advance.online (h : Advance w base s stage s' stage') :
    System.Advance (w.online base) s.state stage s'.state stage' := by
  cases h with
  | fetch hmoves hgives => exact .worker hmoves ⟨⟨_, hgives⟩, rfl⟩
  | other h => exact h.of_silent

end Web

end Loyalty.System
