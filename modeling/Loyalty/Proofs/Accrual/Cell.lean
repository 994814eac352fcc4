import Loyalty.Accrual.Worker
import Loyalty.Proofs.Program
import Loyalty.Simulation.Session

/-!
# Loyalty.Proofs.Accrual.Cell

The cool-down as a cell in the surroundings of passes.

Only who looks at the cool-down or begins one has to do with it (`coolingDown`), so
what it is after a run shows in the exchanges of the run (`cooldown_run`).  A world
without a worker in the background is such surroundings: whatever else happens in
it neither reads the cool-down nor writes it (`Spares`), so a pass made on request
there is a run of a pass beside a cool-down (`exists_tick_eq`).
-/

namespace Loyalty.Accrual

open Simulation (Act Acting Setup World)

variable {α β σ : Type}

/-- Surroundings with a cool-down, which the other answers have nothing to do with. -/
def coolingDown (answer : (q : Question) → σ → q.Answer × σ) :
    (q : Question) → ℕ × σ → q.Answer × (ℕ × σ)
  | .coolDown interval, (cooldown, s) =>
    if cooldown = 0 then (false, cooldown, s) else (true, remainingCooldown cooldown interval, s)
  | .startCooldown ms, (_, s) => ((), ms, s)
  | .stopping, (cooldown, s) => ((answer .stopping s).1, cooldown, (answer .stopping s).2)
  | .fetch number, (cooldown, s) =>
      ((answer (.fetch number) s).1, cooldown, (answer (.fetch number) s).2)
  | .store call, (cooldown, s) => ((answer (.store call) s).1, cooldown, (answer (.store call) s).2)

/-- The cool-down after an exchange. -/
def cooled (cooldown : ℕ) : Program.Exchange Question.Answer → ℕ
  | ⟨.coolDown interval, _⟩ => remainingCooldown cooldown interval
  | ⟨.startCooldown ms, _⟩ => ms
  | _ => cooldown

theorem cooldown_coolingDown (answer : (q : Question) → σ → q.Answer × σ) (q : Question)
    (cooldown : ℕ) (s : σ) :
    (coolingDown answer q (cooldown, s)).2.1 =
      cooled cooldown ⟨q, (coolingDown answer q (cooldown, s)).1⟩ := by
  cases q with
  | coolDown interval =>
      by_cases hcooldown : cooldown = 0
      · simp [coolingDown, cooled, remainingCooldown, hcooldown]
      · simp [coolingDown, cooled, hcooldown]
  | startCooldown | stopping | fetch | store => rfl

/-- The exchanges of a run make its cool-down, whatever the program. -/
theorem cooldown_run (answer : (q : Question) → σ → q.Answer × σ) (p : Program Question.Answer α)
    (cooldown : ℕ) (s : σ) :
    (p.run (coolingDown answer) (cooldown, s)).2.1 =
      (p.exchanges (coolingDown answer) (cooldown, s)).foldl cooled cooldown := by
  induction p generalizing cooldown s with
  | done a => rfl
  | ask q next ih =>
      rw [Program.run_ask, Program.exchanges, List.foldl_cons, ← cooldown_coolingDown]
      exact ih _ _ _

/-- A clock that no answer sets back is not set back beside a cool-down either. -/
theorem now_coolingDown {answer : (q : Question) → σ → q.Answer × σ} {now : σ → ℕ}
    (hanswer : ∀ q s, now s ≤ now (answer q s).2) (q : Question) (s : ℕ × σ) :
    now s.2 ≤ now (coolingDown answer q s).2.2 := by
  obtain ⟨cooldown, s⟩ := s
  cases q with
  | coolDown interval =>
      simp only [coolingDown]
      split <;> exact le_rfl
  | startCooldown ms => exact le_rfl
  | stopping | fetch | store => exact hanswer _ s

/-! ## worlds -/

/-- A world that is put together in the same way, and has no worker in the background. -/
structure Alone (w w' : World) : Prop where
  worker : w'.worker = .absent
  setup : w'.setup = w.setup

theorem Alone.trans {w w' w'' : World} (h : Alone w w') (h' : Alone w' w'') : Alone w w'' :=
  ⟨h'.worker, h'.setup.trans h.setup⟩

/-- What neither reads the cool-down of a world without a worker nor writes it. -/
def Spares (f : World → β × World) : Prop :=
  ∀ w : World, w.worker = .absent →
    ∃ b w', Alone w w' ∧ ∀ cooldown, f { w with cooldown } = (b, { w' with cooldown })

/-- An act, and the time that it takes. -/
def happens : (a : Act) → World → a.Answer × World
  | .wait ms heeding, w => w.wait ms heeding
  | a, w => w.act a

theorem perform_eq_run (p : Acting α) (w : World) : World.perform p w = p.run happens w := by
  induction p generalizing w with
  | done a => rfl
  | ask a next ih => cases a <;> exact ih _ _

/-- An act that has nothing to do with the cool-down. -/
def IsSparing : Act → Prop
  | .coolDown _ | .startCooldown _ => False
  | _ => True

theorem exists_waitUntil_eq (fuel deadline : ℕ) (heeding : Bool) {w : World}
    (hw : w.worker = .absent) :
    ∃ stopped now stores, ∀ cooldown, World.waitUntil fuel deadline heeding { w with cooldown } =
      (stopped, { w with now, stores, cooldown }) := by
  induction fuel generalizing w with
  | zero => exact ⟨false, deadline, w.stores, fun _ => rfl⟩
  | succ fuel ih =>
      cases hstop : heeding && w.stores.fired with
      | true => exact ⟨true, w.now, w.stores, fun _ => by simp [World.waitUntil, hstop]⟩
      | false =>
          have hnext (cooldown : ℕ) :
              World.nextEvent? { w with cooldown } deadline = w.nextEvent? deadline := rfl
          cases hevent : w.nextEvent? deadline with
          | none =>
              exact ⟨false, deadline, w.stores, fun _ => by
                simp [World.waitUntil, hstop, hnext, hevent]⟩
          | some instant =>
              obtain ⟨stopped, now, stores, heq⟩ :=
                ih (w := { w with now := instant, stores := w.stores.passed (instant + 1) }) hw
              refine ⟨stopped, now, stores, fun cooldown => ?_⟩
              have hhappen : World.happen { w with cooldown } instant =
                  { w with now := instant, stores := w.stores.passed (instant + 1), cooldown } := by
                simp [World.happen, World.workerDue?, hw]
              rw [← heq cooldown, World.waitUntil]
              simp [hstop, hnext, hevent, hhappen]

theorem spares_happens {a : Act} (ha : IsSparing a) : Spares (happens a) := by
  intro w hw
  have hself : Alone w w := ⟨hw, rfl⟩
  cases a with
  | wait ms heeding =>
      by_cases hms : ms = 0
      · exact ⟨false, w, hself, fun _ => by simp [happens, World.wait, hms]⟩
      · obtain ⟨stopped, now, stores, heq⟩ :=
          exists_waitUntil_eq (w.fuelUntil (w.now + ms)) (w.now + ms) heeding hw
        refine ⟨stopped, { w with now, stores }, ⟨hw, rfl⟩, fun cooldown => ?_⟩
        rw [happens, World.wait, if_neg hms]
        exact heq cooldown
  | fault name =>
      refine ⟨(w.act (.fault name)).1, (w.act (.fault name)).2, ?_, fun cooldown => ?_⟩
      · constructor <;> (simp only [World.act, World.takeFault]; split <;> first | exact hw | rfl)
      · simp only [happens, World.act, World.takeFault]
        cases (w.faults.get? name).getD [] <;> rfl
  | reply number =>
      refine ⟨(w.act (.reply number)).1, (w.act (.reply number)).2, ?_, fun cooldown => ?_⟩
      · constructor <;> (simp only [World.act, World.takeReply]; split <;> first | exact hw | rfl)
      · simp only [happens, World.act, World.takeReply]
        cases h : (w.replies.get? number.text).getD [] with
        | nil => rfl
        | cons reply rest => cases rest <;> rfl
  | isFired signal => exact ⟨w.isFired signal, w, hself, fun _ => by cases signal <;> rfl⟩
  | stopPasses => exact ⟨(), { w with passesStopped := true }, ⟨hw, rfl⟩, fun _ => rfl⟩
  | memory call =>
      exact ⟨(w.act (.memory call)).1, (w.act (.memory call)).2, ⟨hw, rfl⟩, fun _ => rfl⟩
  | now => exact ⟨w.instant, w, hself, fun _ => rfl⟩
  | salt => exact ⟨(w.act .salt).1, (w.act .salt).2, ⟨hw, rfl⟩, fun _ => rfl⟩
  | coolDown | startCooldown => exact ha.elim

theorem spares_run {p : Acting α} (hp : p.Asks IsSparing) : Spares (p.run happens) := by
  intro w hw
  induction hp generalizing w with
  | done a => exact ⟨a, w, ⟨hw, rfl⟩, fun _ => rfl⟩
  | ask ha _ ih =>
      obtain ⟨r, w', halone, heq⟩ := spares_happens ha w hw
      obtain ⟨a, w'', halone', heq'⟩ := ih r w' halone.worker
      exact ⟨a, w'', halone.trans halone', fun cooldown => by rw [Program.run_ask, heq, heq']⟩

/-! ## passes made on request -/

theorem asks_attempt (s : Setup) (call : StoreCall) : (s.attempt call).Asks IsSparing := by
  have hfaulty (f : Option Simulation.Fault) : (Setup.faulty call f).Asks IsSparing := by
    cases f with
    | none => exact .ask trivial .done
    | some f =>
        refine .ask trivial fun _ => ?_
        cases f.error with
        | none => exact .ask trivial fun _ => .ask trivial fun _ => .done _
        | some e =>
            dsimp only
            split
            · exact .ask trivial fun _ => .ask trivial fun _ => .done _
            · exact .done _
  unfold Setup.attempt
  split
  · exact .ask trivial hfaulty
  · exact .ask trivial .done

theorem asks_call (s : Setup) (call : StoreCall) : (s.call call).Asks IsSparing := by
  unfold Setup.call
  split
  · exact asks_attempt s call
  · next p _ =>
      refine (Store.retrying p call).asks_true.interpret fun q _ => ?_
      cases q with
      | stopping | wait => exact .ask trivial .done
      | attempt => exact asks_attempt s call

theorem asks_fetch (number : OrderNumber) : (Setup.fetch number).Asks IsSparing := by
  refine .ask trivial fun reply? => ?_
  cases reply? with
  | none => exact .done _
  | some reply =>
      refine .ask trivial fun _ => ?_
      split
      · exact .ask trivial fun _ => .done _
      · exact .done _

/-- What a pass made on request is answered in a world. -/
def answerTick (s : Setup) (q : Question) : World → q.Answer × World :=
  World.perform (s.answerPass .passes q)

theorem tick_eq_run (w : World) : w.tick = (pass w.setup.interval).run (answerTick w.setup) w := by
  have hanswer : answerTick w.setup = fun q => (w.setup.answerPass .passes q).run happens :=
    funext₂ fun q w' => perform_eq_run _ w'
  rw [World.tick, Setup.pass, perform_eq_run, Program.run_interpret, hanswer]

/-- A question is answered in a world without a worker as it is beside a cool-down. -/
theorem exists_answerTick_eq (s : Setup) (q : Question) {w : World} (hw : w.worker = .absent)
    (cooldown : ℕ) :
    ∃ r cooldown' w', Alone w w' ∧ coolingDown (answerTick s) q (cooldown, w) = (r, cooldown', w') ∧
      answerTick s q { w with cooldown } = (r, { w' with cooldown := cooldown' }) := by
  have hspares (hq : (s.answerPass .passes q).Asks IsSparing) :
      ∃ r w', Alone w w' ∧ answerTick s q w = (r, w') ∧
      answerTick s q { w with cooldown } = (r, { w' with cooldown }) := by
    obtain ⟨r, w', halone, heq⟩ := spares_run hq w hw
    refine ⟨r, { w' with cooldown := w.cooldown }, ⟨halone.worker, halone.setup⟩, ?_, ?_⟩
    · rw [answerTick, perform_eq_run]
      exact heq w.cooldown
    · rw [answerTick, perform_eq_run]
      exact heq cooldown
  cases q with
  | coolDown interval =>
      by_cases hcooldown : cooldown = 0
      · exact ⟨false, cooldown, w, ⟨hw, rfl⟩, if_pos hcooldown, if_pos hcooldown⟩
      · exact ⟨true, remainingCooldown cooldown interval, w, ⟨hw, rfl⟩, if_neg hcooldown,
          if_neg hcooldown⟩
  | startCooldown ms => exact ⟨(), ms, w, ⟨hw, rfl⟩, rfl, rfl⟩
  | stopping =>
      obtain ⟨r, w', halone, heq, heq'⟩ := hspares (.ask trivial .done)
      exact ⟨r, cooldown, w', halone, by rw [coolingDown, heq], heq'⟩
  | fetch number =>
      obtain ⟨r, w', halone, heq, heq'⟩ := hspares (asks_fetch number)
      exact ⟨r, cooldown, w', halone, by rw [coolingDown, heq], heq'⟩
  | store call =>
      obtain ⟨r, w', halone, heq, heq'⟩ := hspares (asks_call s call)
      exact ⟨r, cooldown, w', halone, by rw [coolingDown, heq], heq'⟩

theorem exists_run_answerTick_eq (s : Setup) (p : Program Question.Answer α) {w : World}
    (hw : w.worker = .absent) (cooldown : ℕ) :
    ∃ a cooldown' w', Alone w w' ∧
      p.run (coolingDown (answerTick s)) (cooldown, w) = (a, cooldown', w') ∧
      p.run (answerTick s) { w with cooldown } = (a, { w' with cooldown := cooldown' }) := by
  induction p generalizing w cooldown with
  | done a => exact ⟨a, cooldown, w, ⟨hw, rfl⟩, rfl, rfl⟩
  | ask q next ih =>
      obtain ⟨r, cooldown', w', halone, heq, heq'⟩ := exists_answerTick_eq s q hw cooldown
      obtain ⟨a, cooldown'', w'', halone', hrun, hrun'⟩ := ih r halone.worker cooldown'
      refine ⟨a, cooldown'', w'', halone.trans halone', ?_, ?_⟩
      · rw [Program.run_ask, heq, hrun]
      · rw [Program.run_ask, heq', hrun']

/-- **A pass made on request is a pass beside a cool-down**, where no worker is in the
background. -/
theorem exists_tick_eq {w : World} (hw : w.worker = .absent) :
    ∃ report cooldown w', Alone w w' ∧
      (pass w.setup.interval).run (coolingDown (answerTick w.setup)) (w.cooldown, w) =
        (report, cooldown, w') ∧
      w.tick = (report, { w' with cooldown }) := by
  rw [tick_eq_run]
  exact exists_run_answerTick_eq w.setup (pass w.setup.interval) hw w.cooldown

end Loyalty.Accrual
