import Loyalty.Config
import Loyalty.Proofs.Accrual.Cell
import Loyalty.Proofs.Accrual.Visits

/-!
# Loyalty.Proofs.Accrual.Cooldown

How long the accrual service is left alone.

The cool-down is a cell beside everything else (`coolingDown`).  A pass that finds
it running only makes it shorter; any other one leaves it as it is unless the
service wants to be left alone (`cooldown_run_pass`).  So a cool-down of length `d`
takes `⌈d / p⌉` passes that are `p` apart, and while it lasts the time until the
next request and what is left of it are never less than `d` together
(`le_start_add_cooldown`).  This holds of passes in any surroundings, and of those
made on request in a world (`report_ofWorld`).
-/

namespace Loyalty.Accrual

open Simulation (World)

variable {σ : Type}

/-! ## passes -/

section

variable {answer : (q : Question) → σ → q.Answer × σ} {interval cooldown : ℕ} {s : σ}

/-- A pass in a cool-down makes it shorter and does nothing else. -/
theorem run_pass_of_ne_zero (answer : (q : Question) → σ → q.Answer × σ) (interval : ℕ) (s : σ)
    (hcooldown : cooldown ≠ 0) :
    (pass interval).run (coolingDown answer) (cooldown, s) =
        ({ Report.empty with cooledDown := true }, remainingCooldown cooldown interval, s) ∧
      (pass interval).exchanges (coolingDown answer) (cooldown, s) =
        [⟨.coolDown interval, true⟩] := by
  constructor
  · simp [pass, Program.run_ask, coolingDown, hcooldown]
  · simp [pass, Program.exchanges, coolingDown, hcooldown]

/-- Nothing but the service's own wish sets the cool-down in a visit: the calls of the store leave
it alone. -/
theorem foldl_cooled_calls (v : Visit) (cooldown : ℕ) :
    v.calls.foldl cooled cooldown = cooldown := by
  unfold Visit.calls
  split
  · dsimp only
    split <;> rfl
  · rfl

theorem foldl_cooled_exchanges (v : Visit) (cooldown : ℕ) :
    v.exchanges.foldl cooled cooldown = v.throttled?.getD cooldown := by
  have hconsequences : v.exchanges.foldl cooled cooldown = v.consequences.foldl cooled cooldown :=
    rfl
  rw [hconsequences, Visit.consequences, List.foldl_append, foldl_cooled_calls]
  cases v.throttled? <;> rfl

/-- After some visits the cool-down is what their report says, if it says so. -/
theorem foldl_cooled_passed (visits : List Visit) (stopped : Bool) (before : Report)
    (cooldown : ℕ) :
    (passed visits stopped).foldl cooled (before.throttled.getD cooldown) =
      (reportOf visits before).throttled.getD cooldown := by
  induction visits generalizing before with
  | nil => cases stopped <;> rfl
  | cons v visits ih =>
      have hthrottled := (v.counts before).throttled
      rw [passed_cons, List.foldl_append, foldl_cooled_exchanges, ← Option.getD_or, ← hthrottled]
      exact ih (v.report before)

/-- A pass that the service throttles finds no cool-down and leaves the one that the service asked
for. -/
theorem cooldown_run_pass {d : ℕ}
    (h : ((pass interval).run (coolingDown answer) (cooldown, s)).1.throttled = some d) :
    cooldown = 0 ∧ ((pass interval).run (coolingDown answer) (cooldown, s)).2.1 = d := by
  by_cases hcooldown : cooldown = 0
  · subst hcooldown
    refine ⟨rfl, ?_⟩
    obtain ⟨r, log, hexchanges, hprocessed⟩ :=
      processed_pass (coolingDown answer) interval (0, s) rfl
    rw [cooldown_run, hexchanges]
    cases r with
    | error e =>
        rw [hprocessed.2] at h
        cases h
    | ok orders =>
        obtain ⟨visits, stopped, hvisited, rfl, hreported⟩ := hprocessed
        rw [hreported.unique (reported_passed hvisited)] at h
        have hcooled := foldl_cooled_passed visits stopped .empty 0
        rw [h] at hcooled
        simpa [cooled, remainingCooldown, Report.empty] using hcooled
  · rw [(run_pass_of_ne_zero answer interval s hcooldown).1] at h
    cases h

end

/-! ## passes in sequence -/

/-- Passes one after the other, each of which begins in surroundings of its own. -/
structure Passes (σ : Type) where
  answer : (q : Question) → σ → q.Answer × σ
  interval : ℕ
  /-- The cool-down before the first pass. -/
  cooldown : ℕ
  /-- The surroundings when a pass begins. -/
  start : ℕ → σ

namespace Passes

variable (ps : Passes σ)

/-- The cool-down when a pass begins. -/
def cooldownAt : ℕ → ℕ
  | 0 => ps.cooldown
  | n + 1 => ((pass ps.interval).run (coolingDown ps.answer) (cooldownAt n, ps.start n)).2.1

/-- The report of a pass. -/
def report (n : ℕ) : Report :=
  ((pass ps.interval).run (coolingDown ps.answer) (ps.cooldownAt n, ps.start n)).1

/-- The surroundings when a pass ends. -/
def finish (n : ℕ) : σ :=
  ((pass ps.interval).run (coolingDown ps.answer) (ps.cooldownAt n, ps.start n)).2.2

/-- What is asked in a pass, and answered. -/
def exchanges (n : ℕ) : List (Program.Exchange Question.Answer) :=
  (pass ps.interval).exchanges (coolingDown ps.answer) (ps.cooldownAt n, ps.start n)

/-- The exchanges of a pass, with the surroundings in which each of them begins and ends. -/
def steps (n : ℕ) : List (Program.Step Question.Answer (ℕ × σ)) :=
  (pass ps.interval).steps (coolingDown ps.answer) (ps.cooldownAt n, ps.start n)

/-- A world after so many passes made on request, with something else done after each of them. -/
def worldAt (w : World) (between : ℕ → World → World) : ℕ → World
  | 0 => w
  | n + 1 => between n (worldAt w between n).tick.2

/-- Passes made on request. -/
def ofWorld (w : World) (between : ℕ → World → World) : Passes World where
  answer := answerTick w.setup
  interval := w.setup.interval
  cooldown := w.cooldown
  start := worldAt w between

/-- The passes come one after the other, an interval apart or more, on a clock that is never set
back. -/
structure Spaced (now : σ → ℕ) : Prop where
  le_answer : ∀ q s, now s ≤ now (ps.answer q s).2
  le_start : ∀ n, now (ps.finish n) ≤ now (ps.start (n + 1))
  apart : ∀ n, now (ps.start n) + ps.interval ≤ now (ps.start (n + 1))

variable {ps} {n k d : ℕ}

theorem map_exchange_steps (ps : Passes σ) (n : ℕ) :
    (ps.steps n).map Program.Step.exchange = ps.exchanges n :=
  Program.map_exchange_steps ..

/-- A pass in a cool-down makes it shorter and does nothing else. -/
theorem cools (h : ps.cooldownAt n ≠ 0) :
    ps.report n = { Report.empty with cooledDown := true } ∧
      ps.exchanges n = [⟨.coolDown ps.interval, true⟩] ∧
      ps.cooldownAt (n + 1) = ps.cooldownAt n - ps.interval := by
  obtain ⟨hrun, hexchanges⟩ := run_pass_of_ne_zero ps.answer ps.interval (ps.start n) h
  exact ⟨by rw [report, hrun], hexchanges, by rw [cooldownAt, hrun, remainingCooldown]⟩

/-- A pass without a cool-down asks for the pending orders and goes on with them. -/
theorem lists (h : ps.cooldownAt n = 0) : ∃ r log,
    ps.exchanges n = ⟨.coolDown ps.interval, false⟩ :: ⟨.store .listPending, r⟩ :: log ∧
      Processed r log (ps.report n) := by
  rw [exchanges, report, h]
  exact processed_pass (coolingDown ps.answer) ps.interval (0, ps.start n) rfl

/-- An order is asked about only without a cool-down. -/
theorem cooldownAt_eq_zero {x : Program.Exchange Question.Answer} (hx : x ∈ ps.exchanges n)
    (hfetch : isFetch x = true) : ps.cooldownAt n = 0 := by
  by_contra h
  rw [(cools h).2.1, List.mem_singleton] at hx
  rw [hx] at hfetch
  contradiction

/-! ## passes made on request -/

/-- What has nothing to do with the cool-down of a world, and starts no worker. -/
def KeepsCooldown (f : World → World) : Prop :=
  ∀ w : World, w.worker = .absent → Alone w (f w) ∧ (f w).cooldown = w.cooldown

theorem keepsCooldown_of_spares {β : Type} {f : World → β × World} (h : Spares f) :
    KeepsCooldown fun w => (f w).2 := by
  intro w hw
  obtain ⟨b, w', halone, heq⟩ := h w hw
  have hself : f w = (b, { w' with cooldown := w.cooldown }) := heq w.cooldown
  dsimp only
  rw [hself]
  exact ⟨⟨halone.worker, halone.setup⟩, rfl⟩

section

variable {w : World} {between : ℕ → World → World}

/-- A pass made on request is the next one of the passes, when they have come to its world. -/
theorem exists_tick_worldAt (halone : Alone w (worldAt w between n))
    (hcooldown : (ofWorld w between).cooldownAt n = (worldAt w between n).cooldown) :
    ∃ w', Alone w w' ∧ (worldAt w between n).tick =
      ((ofWorld w between).report n,
        { w' with cooldown := (ofWorld w between).cooldownAt (n + 1) }) := by
  obtain ⟨report', cooldown, w', halone', hrun, htick⟩ := exists_tick_eq halone.worker
  rw [halone.setup, ← hcooldown] at hrun
  have hpass : (pass (ofWorld w between).interval).run (coolingDown (ofWorld w between).answer)
      ((ofWorld w between).cooldownAt n, (ofWorld w between).start n) = (report', cooldown, w') :=
    hrun
  exact ⟨w', halone.trans halone', by rw [htick, report, cooldownAt, hpass]⟩

/-- The passes come to the worlds of the passes made on request, with the cool-downs of those. -/
theorem cooldownAt_ofWorld (hw : w.worker = .absent) (hbetween : ∀ n, KeepsCooldown (between n))
    (n : ℕ) :
    Alone w (worldAt w between n) ∧
      (ofWorld w between).cooldownAt n = (worldAt w between n).cooldown := by
  induction n with
  | zero => exact ⟨⟨hw, rfl⟩, rfl⟩
  | succ n ih =>
      obtain ⟨w', halone, htick⟩ := exists_tick_worldAt ih.1 ih.2
      have hafter := hbetween n (worldAt w between n).tick.2
      rw [htick] at hafter
      obtain ⟨hkept, hcooldown⟩ := hafter halone.worker
      rw [worldAt, htick]
      exact ⟨⟨hkept.worker, hkept.setup.trans halone.setup⟩, hcooldown.symm⟩

theorem report_ofWorld (hw : w.worker = .absent) (hbetween : ∀ n, KeepsCooldown (between n))
    (n : ℕ) :
    (ofWorld w between).report n = (worldAt w between n).tick.1 := by
  obtain ⟨halone, hcooldown⟩ := cooldownAt_ofWorld hw hbetween n
  obtain ⟨w', -, htick⟩ := exists_tick_worldAt halone hcooldown
  rw [htick]

end

/-! ## counting -/

/-- Fewer intervals than it takes are shorter than a cool-down. -/
theorem mul_lt_of_lt_ceilDiv {p j : ℕ} (hp : 0 < p) (hj : j < d ⌈/⌉ p) : j * p < d := by
  rw [← Nat.not_le, ceilDiv_le_iff_le_mul hp] at hj
  rw [Nat.mul_comm]
  exact Nat.not_le.mp hj

/-- A cool-down that a pass finds is shorter by an interval in every pass after it, until it is
over. -/
theorem cooldownAt_add (hinterval : 0 < ps.interval) (h : ps.cooldownAt n = d) {j : ℕ}
    (hj : j ≤ d ⌈/⌉ ps.interval) :
    ps.cooldownAt (n + j) = d - j * ps.interval := by
  induction j with
  | zero => rw [Nat.add_zero, h, Nat.zero_mul, Nat.sub_zero]
  | succ j ih =>
      have hbefore := ih (Nat.le_of_succ_le hj)
      have hlt := mul_lt_of_lt_ceilDiv hinterval hj
      have hcooling : ps.cooldownAt (n + j) ≠ 0 := by omega
      rw [← Nat.add_assoc, (cools hcooling).2.2, hbefore, Nat.sub_sub, Nat.succ_mul]

/-- As long as fewer intervals have passed than it takes, a cool-down is not over. -/
theorem cooldownAt_add_ne_zero (hinterval : 0 < ps.interval) (h : ps.cooldownAt n = d) {j : ℕ}
    (hj : j < d ⌈/⌉ ps.interval) : ps.cooldownAt (n + j) ≠ 0 := by
  have hlt := mul_lt_of_lt_ceilDiv hinterval hj
  have hcooldown := cooldownAt_add hinterval h hj.le
  omega

/-- After as many intervals as it takes, a cool-down is over. -/
theorem cooldownAt_add_ceilDiv (hinterval : 0 < ps.interval) (h : ps.cooldownAt n = d) :
    ps.cooldownAt (n + d ⌈/⌉ ps.interval) = 0 := by
  have hle := (ceilDiv_le_iff_le_mul hinterval).mp (le_refl (d ⌈/⌉ ps.interval))
  rw [cooldownAt_add hinterval h le_rfl, Nat.mul_comm]
  omega

/-- What the service asked for is the cool-down that the next pass finds. -/
theorem cooldownAt_succ (h : (ps.report n).throttled = some d) : ps.cooldownAt (n + 1) = d :=
  (cooldown_run_pass h).2

/-! ## time -/

/-- While a cool-down lasts, the passes that it takes and what is left of it are as long as it
was. -/
theorem le_start_add_cooldown {now : σ → ℕ} (h : ps.Spaced now) {t : ℕ}
    (hstart : t ≤ now (ps.start n) + ps.cooldownAt n) (hle : n ≤ k) :
    t ≤ now (ps.start k) + ps.cooldownAt k := by
  induction k, hle using Nat.le_induction with
  | base => exact hstart
  | succ k _ ih =>
      have hapart := h.apart k
      by_cases hcooling : ps.cooldownAt k = 0
      · omega
      · have hshorter := (cools hcooling).2.2
        omega

/-- Everything in a pass happens between its start and its end. -/
theorem Spaced.le_of_mem_steps {now : σ → ℕ} (h : ps.Spaced now)
    {x : Program.Step Question.Answer (ℕ × σ)} (hx : x ∈ ps.steps n) :
    now (ps.start n) ≤ now x.before.2 ∧ now x.after.2 ≤ now (ps.finish n) :=
  Program.le_of_mem_steps (fun s : ℕ × σ => now s.2) (now_coolingDown h.le_answer) hx

/-- No order is asked about in a pass once the service wants to be left alone. -/
theorem pairwise_exchanges (ps : Passes σ) (n : ℕ) :
    (ps.exchanges n).Pairwise fun x y => isFetch x = true →
    isFetch y = true → ∀ number ms, x ≠ ⟨.fetch number, .ok (.throttled ms)⟩ := by
  by_cases hcooling : ps.cooldownAt n = 0
  · obtain ⟨r, log, hexchanges, hprocessed⟩ := lists hcooling
    rw [hexchanges]
    exact .cons (fun _ _ => nofun) (.cons (fun _ _ => nofun) hprocessed.pairwise)
  · rw [(cools hcooling).2.1]
    exact List.pairwise_singleton ..

/-- The report says so when the service wants to be left alone. -/
theorem throttled_of_mem {number : OrderNumber}
    (h : (⟨.fetch number, .ok (.throttled d)⟩ : Program.Exchange Question.Answer) ∈
      ps.exchanges n) :
    (ps.report n).throttled = some d := by
  obtain ⟨r, log, hexchanges, hprocessed⟩ := lists (cooldownAt_eq_zero h rfl)
  rw [hexchanges] at h
  simp only [List.mem_cons, Program.Exchange.mk.injEq, reduceCtorEq, false_and, false_or] at h
  exact hprocessed.throttled h

/-- **The service is left alone for as long as it asks**, and then no longer: whatever the interval
between passes, whatever cool-down there is at first, and whatever the surroundings do,

* after a pass that the service throttled for `d`, exactly the next `⌈d / p⌉` passes do nothing but
  make the cool-down shorter, by one interval `p` each, and the pass after them asks for the pending
  orders;
* when passes come one after the other and begin an interval apart or more, no order is asked about
  earlier than `d` after any answer that throttled for `d`;
* passes made on request in a world without a worker in the background are such passes, with the
  cool-down of the world, whatever is done between them that has nothing to do with the cool-down;
* and no configuration has an interval of nothing. -/
theorem left_alone (ps : Passes σ) (hinterval : 0 < ps.interval) :
    (∀ n d, (ps.report n).throttled = some d →
      (∀ j, 1 ≤ j → j ≤ d ⌈/⌉ ps.interval →
        ps.report (n + j) = { Report.empty with cooledDown := true } ∧
          ps.exchanges (n + j) = [⟨.coolDown ps.interval, true⟩] ∧
          ps.cooldownAt (n + j + 1) = d - j * ps.interval) ∧
      ∃ r log, ps.exchanges (n + d ⌈/⌉ ps.interval + 1) =
        ⟨.coolDown ps.interval, false⟩ :: ⟨.store .listPending, r⟩ :: log) ∧
      (∀ now : σ → ℕ, ps.Spaced now → ∀ (n m i j : ℕ) (x y : Program.Step Question.Answer (ℕ × σ))
        (number number' : OrderNumber) (d : ℕ), (ps.steps n)[i]? = some x →
          (ps.steps m)[j]? = some y →
        n < m ∨ n = m ∧ i < j → x.exchange = ⟨.fetch number, .ok (.throttled d)⟩ →
        y.exchange.question = .fetch number' → now x.after.2 + d ≤ now y.before.2) ∧
      (∀ (w : World) (between : ℕ → World → World), w.worker = .absent →
        (∀ n, KeepsCooldown (between n)) → ∀ n,
        (ofWorld w between).report n = (worldAt w between n).tick.1 ∧
          (ofWorld w between).cooldownAt n = (worldAt w between n).cooldown) ∧
      ∀ config : Config, 0 < config.pollInterval := by
  refine ⟨fun n d hthrottled => ⟨fun j hj hle => ?_, ?_⟩,
    fun now hspaced n m i j x y number number' d hx hy hlater
    hthrottled hfetch => ?_, fun w between hw hbetween n => ⟨report_ofWorld hw hbetween n,
      (cooldownAt_ofWorld hw hbetween n).2⟩,
      fun config => Nat.lt_of_lt_of_le Nat.one_pos (le_max_right ..)⟩
  · obtain ⟨k, rfl⟩ := Nat.exists_eq_add_of_le' hj
    have hcooling := cooldownAt_add_ne_zero hinterval (cooldownAt_succ hthrottled) hle
    have hafter := cooldownAt_add hinterval (cooldownAt_succ hthrottled) hle
    rw [Nat.add_assoc, Nat.add_comm 1] at hcooling hafter
    obtain ⟨hreport, hexchanges, -⟩ := cools hcooling
    exact ⟨hreport, hexchanges, hafter⟩
  · have hover := cooldownAt_add_ceilDiv hinterval (cooldownAt_succ hthrottled)
    rw [Nat.add_right_comm] at hover
    obtain ⟨r, log, hexchanges, -⟩ := lists hover
    exact ⟨r, log, hexchanges⟩
  · have hx' : (ps.exchanges n)[i]? = some x.exchange := by
      rw [← map_exchange_steps, List.getElem?_map, hx]; rfl
    have hy' : (ps.exchanges m)[j]? = some y.exchange := by
      rw [← map_exchange_steps, List.getElem?_map, hy]; rfl
    have hasked : isFetch y.exchange = true := isFetch_iff.mpr ⟨number', hfetch⟩
    rcases hlater with hlt | ⟨rfl, hij⟩
    · -- The cool-down that begins with the answer is over before the other order is asked about.
      have hfound := cooldownAt_succ (throttled_of_mem (hthrottled ▸ List.mem_of_getElem? hx'))
      have hfree := cooldownAt_eq_zero (List.mem_of_getElem? hy') hasked
      have hanswered := (hspaced.le_of_mem_steps (List.mem_of_getElem? hx)).2
      have hbegun := (hspaced.le_of_mem_steps (List.mem_of_getElem? hy)).1
      have hstart := hspaced.le_start n
      have hlong :=
        le_start_add_cooldown hspaced (t := now x.after.2 + d) (n := n + 1) (by omega) hlt
      omega
    · -- Within one pass there is no other order.
      obtain ⟨hi, hx'⟩ := List.getElem?_eq_some_iff.mp hx'
      obtain ⟨hj, hy'⟩ := List.getElem?_eq_some_iff.mp hy'
      have hnone := List.pairwise_iff_getElem.mp (ps.pairwise_exchanges n) i j hi hj hij
      rw [hx', hy', hthrottled] at hnone
      exact absurd rfl (hnone rfl hasked number d)

/-- Passes over one order for which the service always wants to be left alone, ten milliseconds
apart. -/
def throttling : Passes ℕ where
  answer := fun
    | .coolDown _, now => (false, now)
    | .startCooldown _, now => ((), now)
    | .stopping, now => (false, now)
    | .fetch _, now => (.ok (.throttled 3), now + 1)
    | .store .listPending, now => (.ok [Order.submitted ⟨⟨0⟩⟩ ⟨⟨0⟩⟩ default .epoch], now + 1)
    | .store _, now => (.error .cancelled, now)
  interval := 2
  cooldown := 0
  start n := 10 * n

theorem spaced_throttling : throttling.Spaced id where
  le_answer q s := by
    cases q with
    | coolDown | startCooldown | stopping => exact le_rfl
    | fetch => exact Nat.le_succ s
    | store call => cases call <;> simp [throttling]
  le_start n := by
    by_cases hcooling : throttling.cooldownAt n = 0
    · have hfinish : throttling.finish n = 10 * n + 2 := by
        rw [finish, hcooling]
        rfl
      rw [id, id, hfinish]
      simp only [throttling]
      omega
    · have hfinish : throttling.finish n = 10 * n := by
        rw [finish, (run_pass_of_ne_zero _ _ _ hcooling).1]
        rfl
      rw [id, id, hfinish]
      simp only [throttling]
      omega
  apart n := by
    simp only [throttling, id]
    omega

/-- A world at its beginning, with two milliseconds between passes. -/
def quietWorld : World := .initial { retry := none, scripted := false, interval := 2 } .epoch

theorem keepsCooldown_advance (ms : ℕ) : KeepsCooldown fun w => w.advance ms :=
  keepsCooldown_of_spares (spares_happens (a := .wait ms false) trivial)

theorem left_alone_throttling :
    0 < throttling.interval ∧
      ((throttling.report 0).throttled = some 3 ∧
        throttling.report 2 = { Report.empty with cooledDown := true } ∧
        throttling.cooldownAt 3 = 3 - 2 * 2) ∧
      (throttling.Spaced id ∧ 2 + 3 ≤ 31) ∧
      quietWorld.worker = .absent ∧ (∀ _ : ℕ, KeepsCooldown fun w => w.advance 2) ∧
        (ofWorld quietWorld fun _ w => w.advance 2).report 1 =
          (worldAt quietWorld (fun _ w => w.advance 2) 1).tick.1 := by
  obtain ⟨hcounted, htimed, hworld, -⟩ := left_alone throttling (by decide)
  have hthrottled : (throttling.report 0).throttled = some 3 := rfl
  have hceil : (3 : ℕ) ⌈/⌉ throttling.interval = 2 := rfl
  obtain ⟨hreport, -, hcooldown⟩ := (hcounted 0 3 hthrottled).1 2 (by decide) (by rw [hceil])
  have hx : (throttling.steps 0)[3]? =
      some ⟨(0, 1), ⟨.fetch default, .ok (.throttled 3)⟩, (0, 2)⟩ := rfl
  have hy : (throttling.steps 3)[3]? =
      some ⟨(0, 31), ⟨.fetch default, .ok (.throttled 3)⟩, (0, 32)⟩ := rfl
  have hkeeps : ∀ _ : ℕ, KeepsCooldown fun w => w.advance 2 := fun _ => keepsCooldown_advance 2
  exact ⟨by decide, ⟨hthrottled, hreport, hcooldown⟩, ⟨spaced_throttling,
    htimed id spaced_throttling 0 3 3 3 _ _ default default 3 hx hy (.inl (by decide)) rfl rfl⟩,
    rfl, hkeeps,
    (hworld quietWorld (fun _ w => w.advance 2) rfl hkeeps 1).1⟩

end Passes

end Loyalty.Accrual
