/-!
# Loyalty.Program

Computations that ask their surroundings.

A program either is done or asks a question and goes on with the answer.  What
can be asked is a type, and each question has its own type of answers.  So a use
case is written once, as data, and is then run in different surroundings: on a
store in memory, against servers that answer as they like, on a clock that
others share.  `run` answers every question from a state, `interpret` answers
each by another program, and `runM` answers each in a monad.
-/

namespace Loyalty

/-- A computation that asks questions `q`, each answered by an `A q`. -/
inductive Program {Q : Type} (A : Q → Type) (α : Type) : Type
  | done (value : α)
  | ask (question : Q) (next : A question → Program A α)

namespace Program

variable {Q R : Type} {A : Q → Type} {B : R → Type} {α β γ σ : Type}

/-! ## composition -/

/-- One program after the other. -/
def bind : Program A α → (α → Program A β) → Program A β
  | done a, f => f a
  | ask q k, f => ask q fun r => bind (k r) f

instance : Monad (Program A) where
  pure := done
  bind := bind

/-- A single question. -/
def request (q : Q) : Program A (A q) := ask q done

/-- What is done goes on with its value. -/
@[simp] theorem done_bind (a : α) (f : α → Program A β) : (done a).bind f = f a := rfl

/-- What asks asks first. -/
@[simp] theorem ask_bind (q : Q) (k : A q → Program A α) (f : α → Program A β) :
    (ask q k).bind f = ask q fun r => (k r).bind f := rfl

/-- Going on with nothing more changes nothing. -/
@[simp] theorem bind_done (p : Program A α) : p.bind done = p := by
  induction p with
  | done a => rfl
  | ask q k ih => simp [ih]

/-- Of three programs one after the other it does not matter which two are put together first. -/
theorem bind_assoc (p : Program A α) (f : α → Program A β) (g : β → Program A γ) :
    (p.bind f).bind g = p.bind fun a => (f a).bind g := by
  induction p with
  | done a => rfl
  | ask q k ih => simp [ih]

/-! ## running -/

/-- A program with every question answered from a state. -/
def run (answer : (q : Q) → σ → A q × σ) : Program A α → σ → α × σ
  | done a, s => (a, s)
  | ask q k, s => run answer (k (answer q s).1) (answer q s).2

@[simp] theorem run_done (answer : (q : Q) → σ → A q × σ) (a : α) (s : σ) :
    (done a : Program A α).run answer s = (a, s) := rfl

/-- A run goes on from the answer to the first question and from the state that it left. -/
theorem run_ask (answer : (q : Q) → σ → A q × σ) (q : Q) (k : A q → Program A α) (s : σ) :
    (ask q k).run answer s = (k (answer q s).1).run answer (answer q s).2 := rfl

/-- A run of one program after the other runs the second one from where the first one ended. -/
theorem run_bind (answer : (q : Q) → σ → A q × σ) (p : Program A α) (f : α → Program A β) (s : σ) :
    (p.bind f).run answer s = (f (p.run answer s).1).run answer (p.run answer s).2 := by
  induction p generalizing s with
  | done a => rfl
  | ask q k ih => simp [run_ask, ih]

/-- A program with every question answered in a monad. -/
def runM {m : Type → Type} [Monad m] (answer : (q : Q) → m (A q)) : Program A α → m α
  | done a => pure a
  | ask q k => do runM answer (k (← answer q))

/-! ## programs inside programs -/

/-- A program with every question answered by another program. -/
def interpret (answer : (q : Q) → Program B (A q)) : Program A α → Program B α
  | done a => done a
  | ask q k => (answer q).bind fun r => interpret answer (k r)

@[simp] theorem interpret_done (answer : (q : Q) → Program B (A q)) (a : α) :
    (done a : Program A α).interpret answer = done a := rfl

end Program

end Loyalty
