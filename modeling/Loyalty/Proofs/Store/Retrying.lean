import Loyalty.Store.Memory
import Loyalty.Store.Retrying
import Mathlib

/-!
# Loyalty.Proofs.Store.Retrying

How often a call takes effect that is tried again.

A call of a store can be carried out although its caller hears of a failed
connection: the reply was lost.  `Runs` is every run of a retried call on a store
that is free to lose replies, before a call or after it, at any attempt, while
the program stops whenever it likes.

Every attempt but the last failed to reach the store as far as the caller knows
(`Ends`), so a call takes effect once for every lost reply, and once more when it
succeeds in the end (`Runs.effects_eq`).  The promise that it takes effect at
most once is kept exactly as far as replies are not lost.
-/

namespace Loyalty.Store

open RetryPolicy

/-! ## attempts -/

/-- What becomes of an attempt. -/
inductive Fate
  /-- It is carried out and answered. -/
  | heard
  /-- The connection fails before it is carried out. -/
  | unheard (reason : String)
  /-- It is carried out and the connection fails before it is answered. -/
  | lost (reason : String)

/-- An attempt of a call: what the caller hears, and whether the call took effect. -/
structure Attempt (call : StoreCall) where
  answer : call.Answer
  applied : Bool

/-- The call took effect, and the caller heard of a failure. -/
def Attempt.isLost {call : StoreCall} (a : Attempt call) : Bool := a.applied && !a.answer.isOk

section

variable {σ : Type} {call : StoreCall}

/-- An attempt on a store. A call takes effect when the store carries it out and does not refuse
it. -/
def tryOnce (perform : σ → call.Answer × σ) (s : σ) : Fate → Attempt call × σ
  | .heard => ({ answer := (perform s).1, applied := (perform s).1.isOk }, (perform s).2)
  | .unheard reason => ({ answer := .error (.connection reason), applied := false }, s)
  | .lost reason =>
      ({ answer := .error (.connection reason), applied := (perform s).1.isOk }, (perform s).2)

/-- The attempts that took effect. -/
def effects (attempts : List (Attempt call)) : ℕ := attempts.countP (·.applied)

/-- The attempts that took effect and whose reply was lost. -/
def lostReplies (attempts : List (Attempt call)) : ℕ := attempts.countP (·.isLost)

/-! ## runs -/

/-- A run of a program on a store: the attempts it makes, what it gives, and what the store comes
to. Whether the program is stopping is answered in any way, and attempts have any fate. What others
do to the store in between is a part of `perform`. -/
inductive Runs (perform : σ → call.Answer × σ) :
    Program (Question.Answer StoreError call.Value) call.Answer → σ → List (Attempt call) →
      call.Answer → σ →
      Prop
  | done (r : call.Answer) (s : σ) : Runs perform (.done r) s [] r s
  | stopping {next s attempts r s'} (stopping : Bool)
      (h : Runs perform (next stopping) s attempts r s') :
      Runs perform (.ask .stopping next) s attempts r s'
  | wait {ms next s attempts r s'} (stopped : Bool)
      (h : Runs perform (next stopped) s attempts r s') :
      Runs perform (.ask (.wait ms) next) s attempts r s'
  | attempt {next s attempts r s'} (fate : Fate)
      (h : Runs perform (next (tryOnce perform s fate).1.answer)
        (tryOnce perform s fate).2 attempts r s') :
      Runs perform (.ask .attempt next) s ((tryOnce perform s fate).1 :: attempts) r s'

/-- What the caller hears in a run, and what the run gives: every attempt but the last heard of a
failed connection, and the last one is the result unless the run was cancelled. -/
inductive Ends : List (Attempt call) → call.Answer → Prop
  | cancelled : Ends [] (.error .cancelled)
  | last (a : Attempt call) : Ends [a] a.answer
  | again {a : Attempt call} {attempts : List (Attempt call)} {r : call.Answer} {reason : String}
      (ha : a.answer = .error (.connection reason)) (h : Ends attempts r) : Ends (a :: attempts) r

variable {perform : σ → call.Answer × σ} {p : RetryPolicy StoreError} {s s' : σ}
  {attempts : List (Attempt call)} {r : call.Answer}

/-- Only a failed connection is worth another attempt. -/
theorem isRetryable_iff {e : StoreError} :
    (retryPolicy p).isRetryable e = true ↔ ∃ reason, e = .connection reason := by
  cases e <;> simp [retryPolicy, withPredicate, RetryPolicy.isRetryable, StoreError.isRetryable]

/-- What is left of a schedule ends as a run does. -/
theorem Runs.ends_attempts {delays : List ℕ}
    (h : Runs perform (((retryPolicy p).attempts delays).bind fun r => .done (r.mapError failure)) s
      attempts r s') :
    Ends attempts r := by
  induction delays generalizing s attempts with
  | nil =>
      cases h with
      | stopping stopping h =>
          cases stopping with
          | true => cases h with | done => exact .cancelled
          | false =>
              cases h with
              | attempt fate h =>
                  generalize (tryOnce perform s fate).1 = a at h ⊢
                  obtain ⟨answer, applied⟩ := a
                  cases answer <;> cases h <;> exact .last _
  | cons delay delays ih =>
      cases h with
      | stopping stopping h =>
          cases stopping with
          | true => cases h with | done => exact .cancelled
          | false =>
              cases h with
              | attempt fate h =>
                  generalize (tryOnce perform s fate).1 = a at h ⊢
                  obtain ⟨answer, applied⟩ := a
                  cases answer with
                  | ok v => cases h with | done => exact .last _
                  | error e =>
                      by_cases he : (retryPolicy p).isRetryable e = true
                      · obtain ⟨reason, hreason⟩ := isRetryable_iff.mp he
                        refine .again (congrArg Except.error hreason) ?_
                        by_cases hd : delay = 0
                        · simp only [he, hd, Bool.not_true, Bool.false_eq_true, if_false,
                            if_true] at h
                          exact ih h
                        · simp only [he, hd, Bool.not_true, Bool.false_eq_true, if_false] at h
                          cases h with
                          | wait stopped h =>
                              cases stopped with
                              | true => cases h with | done => exact .cancelled
                              | false => exact ih h
                      · simp only [he, Bool.not_false, if_true] at h
                        cases h with | done => exact .last _

/-- Every run of a retried call ends as a run does. -/
theorem Runs.ends (h : Runs perform (retrying p call) s attempts r s') : Ends attempts r :=
  h.ends_attempts

/-- The caller is told what became of the call. -/
def Settled (r : call.Answer) : Prop :=
  r.isOk = true ∨ r = .error .duplicate ∨ r = .error .insufficientFunds

/-- A call that is settled at once is attempted once. -/
theorem runs_settled (hr : Settled (perform s).1) (delays : List ℕ) :
    Runs perform (((retryPolicy p).attempts delays).bind fun r => .done (r.mapError failure)) s
      [(tryOnce perform s .heard).1] (perform s).1 (perform s).2 := by
  have hanswer : (tryOnce perform s .heard).1.answer = (perform s).1 := rfl
  cases delays with
  | nil =>
      refine .stopping false (.attempt .heard ?_)
      rw [hanswer]
      cases h : (perform s).1 with
      | ok v => exact .done _ _
      | error e => exact .done _ _
  | cons delay delays =>
      refine .stopping false (.attempt .heard ?_)
      rw [hanswer]
      rcases h : (perform s).1 with e | v
      · rw [h] at hr
        have he : (retryPolicy p).isRetryable e = false := by
          rcases hr with hok | hr | hr
          · contradiction
          · cases hr
            rfl
          · cases hr
            rfl
        simp only [he, Bool.not_false, if_true]
        exact .done _ _
      · exact .done _ _

/-! ## effects -/

/-- What succeeded took effect. -/
theorem applied_of_isOk (fate : Fate) (h : (tryOnce perform s fate).1.answer.isOk = true) :
    (tryOnce perform s fate).1.applied = true := by
  cases fate with
  | heard => exact h
  | unheard reason => exact absurd h Bool.false_ne_true
  | lost reason => exact absurd h Bool.false_ne_true

theorem isLost_heard (perform : σ → call.Answer × σ) (s : σ) :
    (tryOnce perform s .heard).1.isLost = false :=
  Bool.and_not_self _

theorem isLost_lost (perform : σ → call.Answer × σ) (s : σ) (reason : String) :
    (tryOnce perform s (.lost reason)).1.isLost = (perform s).1.isOk :=
  Bool.and_true _

theorem Runs.applied_of_isOk {program} (h : Runs perform program s attempts r s') :
    ∀ a ∈ attempts, a.answer.isOk = true → a.applied = true := by
  induction h with
  | done r s => simp
  | stopping _ _ ih => exact ih
  | wait _ _ ih => exact ih
  | attempt fate _ ih => exact List.forall_mem_cons.mpr ⟨Store.applied_of_isOk fate, ih⟩

/-- At most one attempt succeeds, and only as the result. -/
theorem Ends.countP_isOk (h : Ends attempts r) :
    attempts.countP (·.answer.isOk) = if r.isOk then 1 else 0 := by
  induction h with
  | cancelled => rfl
  | last a => simp
  | again ha _ ih =>
      rw [List.countP_cons, ih, ha]
      rfl

/-- What took effect is what succeeded and what was lost. -/
theorem effects_eq_add (h : ∀ a ∈ attempts, a.answer.isOk = true → a.applied = true) :
    effects attempts = lostReplies attempts + attempts.countP (·.answer.isOk) := by
  induction attempts with
  | nil => rfl
  | cons a attempts ih =>
      obtain ⟨ha, hrest⟩ := List.forall_mem_cons.mp h
      have hone := ih hrest
      simp only [effects, lostReplies] at hone ⊢
      rw [List.countP_cons, List.countP_cons, List.countP_cons, hone]
      by_cases hok : a.answer.isOk = true
      · simp [Attempt.isLost, hok, ha hok]
        omega
      · by_cases happlied : a.applied = true <;> simp [Attempt.isLost, hok, happlied]
        omega

/-- A call takes effect once for every lost reply, and once more when it succeeds. -/
theorem Runs.effects_eq (h : Runs perform (retrying p call) s attempts r s') :
    effects attempts = lostReplies attempts + if r.isOk then 1 else 0 := by
  rw [effects_eq_add h.applied_of_isOk, h.ends.countP_isOk]

/-! ## the promise -/

/-- The promise of a call that is tried again. -/
structure AppliesOnce (attempts : List (Attempt call)) (r : call.Answer) : Prop where
  /-- It takes effect at most once. -/
  at_most_once : effects attempts ≤ 1
  /-- It took effect exactly once when it succeeds. -/
  of_ok : r.isOk = true → effects attempts = 1
  /-- It took no effect when it is refused. -/
  of_refused : r = .error .duplicate ∨ r = .error .insufficientFunds → effects attempts = 0

/-- Where the promise holds, at most one reply was lost, and none if the caller is told what became
of the call. -/
theorem Runs.lostReplies_of_appliesOnce (h : Runs perform (retrying p call) s attempts r s')
    (honce : AppliesOnce attempts r) :
    lostReplies attempts = 0 ∨ lostReplies attempts = 1 ∧ ¬ Settled r := by
  have heffects := h.effects_eq
  obtain ⟨hmost, hok, hrefused⟩ := honce
  by_cases hr : r.isOk = true
  · have hone := hok hr
    rw [if_pos hr] at heffects
    exact .inl (by omega)
  · rw [if_neg hr] at heffects
    by_cases hsettled : r = .error .duplicate ∨ r = .error .insufficientFunds
    · have hzero := hrefused hsettled
      exact .inl (by omega)
    · rcases Nat.eq_zero_or_pos (lostReplies attempts) with hzero | hpos
      · exact .inl hzero
      · refine .inr ⟨by omega, ?_⟩
        rintro (hr' | hr')
        · exact hr hr'
        · exact hsettled hr'

/-- The promise holds when no reply was lost, and when one was and the caller is not told what
became of the call. -/
theorem Runs.appliesOnce_of_lostReplies (h : Runs perform (retrying p call) s attempts r s')
    (hlost : lostReplies attempts = 0 ∨ lostReplies attempts = 1 ∧ ¬ Settled r) :
    AppliesOnce attempts r := by
  have heffects := h.effects_eq
  rcases hlost with hzero | ⟨hone, hsettled⟩
  · rw [hzero, Nat.zero_add] at heffects
    refine ⟨?_, fun hr => ?_, ?_⟩
    · rw [heffects]
      split <;> omega
    · rw [heffects, if_pos hr]
    · rintro (rfl | rfl) <;> exact heffects
  · have hr : ¬ r.isOk = true := fun hr => hsettled (.inl hr)
    rw [if_neg hr] at heffects
    exact ⟨by omega, fun hr' => absurd hr' hr, fun hr' => absurd (.inr hr') hsettled⟩

/-- **When the promise holds**: exactly when no reply to an attempt that took effect was lost, or
one was and the caller is not told what became of the call.  Whatever the schedule, the store and
the moments at which the program stops, a second effect and a wrong answer come from lost replies,
and a lost reply followed by a success or a refusal is always one of them. -/
theorem Runs.appliesOnce_iff (h : Runs perform (retrying p call) s attempts r s') :
    AppliesOnce attempts r ↔ lostReplies attempts = 0 ∨ lostReplies attempts = 1 ∧ ¬ Settled r :=
  ⟨h.lostReplies_of_appliesOnce, h.appliesOnce_of_lostReplies⟩

/-- A credit to the stores in memory. -/
def creditIn (amount : Points) (s : Memory.State) :
    (StoreCall.credit default amount).Answer × Memory.State :=
  Memory.step default s (.credit default amount)

/-- A credit that does not get through at first and succeeds then takes effect once. -/
theorem Runs.appliesOnce_credit :
    let perform := creditIn { coeff := 100, scale := 2 }
    ∃ attempts s', Runs perform (retrying (.ofDelays [10]) _) .empty attempts (.ok ()) s' ∧
      attempts.length = 2 ∧ AppliesOnce attempts (.ok ()) := by
  intro perform
  have hok : (perform .empty).1 = .ok () := by decide +kernel
  have hsettled : Settled (perform .empty).1 := .inl (by rw [hok]; rfl)
  have hagain := runs_settled (p := .ofDelays [10]) hsettled []
  have hrun : Runs perform (retrying (.ofDelays [10]) _) .empty _ _ _ :=
    .stopping false (.attempt (.unheard "") (.wait false hagain))
  rw [hok] at hrun
  exact ⟨_, _, hrun, rfl, hrun.appliesOnce_iff.mpr (.inl (by decide +kernel))⟩

/-! ## how it is broken -/

/-- Under every schedule, a store that carries a call out, loses the reply and then settles the call
that comes again leads to a run that breaks the promise. -/
theorem exists_not_appliesOnce (hp : p.delays ≠ []) (h : (perform s).1.isOk = true)
    (hr : Settled (perform (perform s).2).1) :
    ∃ attempts, Runs perform (retrying p call) s attempts (perform (perform s).2).1
      (perform (perform s).2).2 ∧
      ¬ AppliesOnce attempts (perform (perform s).2).1 := by
  obtain ⟨delay, delays, hdelays⟩ := List.exists_cons_of_ne_nil hp
  have hagain := runs_settled (p := p) hr delays
  have hrun : Runs perform (retrying p call) s
      [(tryOnce perform s (.lost "")).1, (tryOnce perform (perform s).2 .heard).1]
      (perform (perform s).2).1 (perform (perform s).2).2 := by
    have hretry : (retryPolicy p).isRetryable (.connection "") = true :=
      isRetryable_iff.mpr ⟨_, rfl⟩
    have hschedule : (retryPolicy p).delays = delay :: delays := hdelays
    rw [retrying, RetryPolicy.run, hschedule]
    refine .stopping false (.attempt (.lost "") ?_)
    by_cases hd : delay = 0
    · simp only [tryOnce, hretry, hd, Bool.not_true, Bool.false_eq_true, if_false, if_true]
      exact hagain
    · simp only [tryOnce, hretry, hd, Bool.not_true, Bool.false_eq_true, if_false]
      exact .wait false hagain
  refine ⟨_, hrun, fun honce => ?_⟩
  have hlost : lostReplies
      [(tryOnce perform s (.lost "")).1, (tryOnce perform (perform s).2 .heard).1] = 1 := by
    rw [lostReplies, List.countP_cons, List.countP_cons, isLost_heard, isLost_lost, h]
    rfl
  rcases hrun.lostReplies_of_appliesOnce honce with hzero | ⟨-, hsettled⟩
  · omega
  · exact hsettled hr

end

/-- A credit of 1.00 whose first reply is lost succeeds in the end, and the balance is 2.00. -/
theorem lost_reply_credits_twice :
    let perform := creditIn { coeff := 100, scale := 2 }
    ∃ attempts s', Runs perform (retrying (.ofDelays [10]) _) .empty attempts (.ok ()) s' ∧
      ¬ AppliesOnce attempts (.ok ()) ∧
      (s'.balanceOf default).current = { coeff := 200, scale := 2 } := by
  intro perform
  have hok : (perform .empty).1.isOk = true := by decide +kernel
  have hagain : (perform (perform .empty).2).1 = .ok () := by decide +kernel
  obtain ⟨attempts, hrun, hbroken⟩ :=
    exists_not_appliesOnce (p := .ofDelays [10]) (by decide) hok (.inl (by rw [hagain]; rfl))
  rw [hagain] at hrun hbroken
  exact ⟨attempts, _, hrun, hbroken, by decide +kernel⟩

end Loyalty.Store
