import Loyalty.Program
import Mathlib

/-!
# Loyalty.Proofs.Program

What programs can ask, and what they come to.

`p.Asks P` says that every question that `p` can come to, whatever the answers
before it, satisfies `P`.  It is known from the text of a program and says what
its surroundings have to expect of it, step after step (`Asks.of_ask`) and over
a whole run (`Asks.run`, `Asks.of_mem_questions`).

`p.Gives log a` says that `p` comes to `a` when its questions get the answers of
`log`, as a run does by its exchanges (`gives_exchanges`).  The steps of a run are
its exchanges with the states around them, and lie between its beginning and its
end on every clock that is never set back (`le_of_mem_steps`).
-/

namespace Loyalty.Program

variable {Q : Type} {A : Q → Type} {P P' : Q → Prop} {α β : Type}

/-- Every question that a program can come to satisfies a predicate. -/
inductive Asks (P : Q → Prop) : Program A α → Prop
  | done (a : α) : Asks P (.done a)
  | ask {q : Q} {next : A q → Program A α} (hq : P q) (hnext : ∀ r, Asks P (next r)) :
      Asks P (.ask q next)

/-- What is asked stands at the head, and what may come after it is as good. -/
theorem Asks.of_ask {p : Program A α} {q : Q} {next : A q → Program A α} (h : p.Asks P)
    (hp : p = .ask q next) : P q ∧ ∀ r, (next r).Asks P := by
  subst hp
  cases h with
  | ask hq hnext => exact ⟨hq, hnext⟩

/-- One program after the other asks what either asks. -/
theorem Asks.bind {p : Program A α} {f : α → Program A β} (hp : p.Asks P) (hf : ∀ a, (f a).Asks P) :
    (p.bind f).Asks P := by
  induction hp with
  | done a => exact hf a
  | ask hq _ ih => exact .ask hq ih

/-- A program whose questions are answered by programs asks what those ask. -/
theorem Asks.interpret {R : Type} {B : R → Type} {S : R → Prop}
    {answer : (q : Q) → Program B (A q)} {p : Program A α} (hp : p.Asks P)
    (hanswer : ∀ q, P q → (answer q).Asks S) : (p.interpret answer).Asks S := by
  induction hp with
  | done a => exact .done a
  | ask hq _ ih => exact (hanswer _ hq).bind ih

/-- A weaker predicate is satisfied too. -/
theorem Asks.mono {p : Program A α} (hp : p.Asks P) (h : ∀ q, P q → P' q) : p.Asks P' := by
  induction hp with
  | done a => exact .done a
  | ask hq _ ih => exact .ask (h _ hq) ih

theorem asks_true (p : Program A α) : p.Asks fun _ => True := by
  induction p with
  | done a => exact .done a
  | ask q next ih => exact .ask trivial ih

/-- What every answer to a good question keeps, a run keeps. -/
theorem Asks.run {σ : Type} {I : σ → Prop} {answer : (q : Q) → σ → A q × σ} {p : Program A α}
    (hp : p.Asks P) (hanswer : ∀ q s, P q → I s → I (answer q s).2) {s : σ} (hs : I s) :
    I (p.run answer s).2 := by
  induction hp generalizing s with
  | done a => exact hs
  | ask hq _ ih => exact ih _ (hanswer _ _ hq hs)

/-- The questions that come up in a run, the first one first. -/
def questions {σ : Type} (answer : (q : Q) → σ → A q × σ) : Program A α → σ → List Q
  | done _, _ => []
  | ask q next, s => q :: questions answer (next (answer q s).1) (answer q s).2

/-- What comes up in a run can be asked. -/
theorem Asks.of_mem_questions {σ : Type} {answer : (q : Q) → σ → A q × σ} {p : Program A α}
    (hp : p.Asks P) {s : σ} {q : Q} (hq : q ∈ p.questions answer s) : P q := by
  induction hp generalizing s with
  | done a => cases hq
  | ask hq' _ ih =>
      cases hq with
      | head => exact hq'
      | tail _ hmem => exact ih _ hmem

/-- Questions that are answered by programs are answered by the runs of those. -/
theorem run_interpret {R : Type} {B : R → Type} {σ : Type} (answer : (q : Q) → Program B (A q))
    (answer' : (r : R) → σ → B r × σ) (p : Program A α) (s : σ) :
    (p.interpret answer).run answer' s = p.run (fun q => (answer q).run answer') s := by
  induction p generalizing s with
  | done a => rfl
  | ask q next ih =>
      rw [Program.interpret, run_bind, run_ask]
      exact ih _ _

/-! ## answers -/

/-- A question and the answer that it got. -/
structure Exchange (A : Q → Type) where
  question : Q
  answer : A question

/-- A program comes to a value when its questions get these answers, the first one first. -/
inductive Gives : Program A α → List (Exchange A) → α → Prop
  | done (a : α) : Gives (.done a) [] a
  | ask {q : Q} {next : A q → Program A α} {log : List (Exchange A)} {a : α} (r : A q)
      (h : Gives (next r) log a) : Gives (.ask q next) (⟨q, r⟩ :: log) a

theorem gives_done_iff {a b : α} {log : List (Exchange A)} :
    (done a : Program A α).Gives log b ↔ log = [] ∧ b = a := by
  constructor
  · intro h
    cases h
    exact ⟨rfl, rfl⟩
  · rintro ⟨rfl, rfl⟩
    exact .done b

theorem gives_ask_iff {q : Q} {next : A q → Program A α} {log : List (Exchange A)} {a : α} :
    (ask q next).Gives log a ↔ ∃ r rest, log = ⟨q, r⟩ :: rest ∧ (next r).Gives rest a := by
  constructor
  · intro h
    cases h with
    | ask r h => exact ⟨r, _, rfl, h⟩
  · rintro ⟨r, rest, rfl, h⟩
    exact .ask r h

theorem gives_ask_cons_iff {q : Q} {next : A q → Program A α} {r : A q} {log : List (Exchange A)}
    {a : α} :
    (ask q next).Gives (⟨q, r⟩ :: log) a ↔ (next r).Gives log a := by
  constructor
  · intro h
    cases h with
    | ask r h => exact h
  · exact .ask r

/-- The exchanges of a run, the first one first. -/
def exchanges {σ : Type} (answer : (q : Q) → σ → A q × σ) : Program A α → σ → List (Exchange A)
  | done _, _ => []
  | ask q next, s => ⟨q, (answer q s).1⟩ :: exchanges answer (next (answer q s).1) (answer q s).2

/-- A run comes to its value by its exchanges. -/
theorem gives_exchanges {σ : Type} (answer : (q : Q) → σ → A q × σ) (p : Program A α) (s : σ) :
    p.Gives (p.exchanges answer s) (p.run answer s).1 := by
  induction p generalizing s with
  | done a => exact .done a
  | ask q next ih => exact .ask _ (ih _ _)

/-! ## steps -/

/-- An exchange of a run, between two states. -/
structure Step (A : Q → Type) (σ : Type) where
  before : σ
  exchange : Exchange A
  after : σ

section

variable {σ : Type} {answer : (q : Q) → σ → A q × σ}

/-- The exchanges of a run with the states around them, the first one first. -/
def steps (answer : (q : Q) → σ → A q × σ) : Program A α → σ → List (Step A σ)
  | done _, _ => []
  | ask q next, s =>
    ⟨s, ⟨q, (answer q s).1⟩, (answer q s).2⟩ :: steps answer (next (answer q s).1) (answer q s).2

theorem map_exchange_steps (p : Program A α) (s : σ) :
    (p.steps answer s).map Step.exchange = p.exchanges answer s := by
  induction p generalizing s with
  | done a => rfl
  | ask q next ih => exact congrArg (_ :: ·) (ih _ _)

/-- A clock that no answer sets back is not set back by a run. -/
theorem le_run (now : σ → ℕ) (hanswer : ∀ q s, now s ≤ now (answer q s).2) (p : Program A α)
    (s : σ) :
    now s ≤ now (p.run answer s).2 := by
  induction p generalizing s with
  | done a => exact le_rfl
  | ask q next ih => exact (hanswer q s).trans (ih _ _)

/-- Every exchange of a run happens between its beginning and its end. -/
theorem le_of_mem_steps (now : σ → ℕ) (hanswer : ∀ q s, now s ≤ now (answer q s).2)
    {p : Program A α} {s : σ} {x : Step A σ} (hx : x ∈ p.steps answer s) :
    now s ≤ now x.before ∧ now x.after ≤ now (p.run answer s).2 := by
  induction p generalizing s with
  | done a => cases hx
  | ask q next ih =>
      cases hx with
      | head => exact ⟨le_rfl, le_run now hanswer ..⟩
      | tail _ hmem =>
          obtain ⟨hbefore, hafter⟩ := ih _ hmem
          exact ⟨(hanswer q s).trans hbefore, hafter⟩

end

end Loyalty.Program
