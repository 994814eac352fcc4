import Loyalty.Proofs.Program
import Loyalty.Proofs.Store.Retrying

/-!
# Loyalty.Proofs.Store.Budget

Calls that get all the attempts they are worth.

A call under a schedule of delays ends early only when the program stops.
`Trying` names the programs that such a call comes to while nobody stops it, and
`Spent` says what has become of its attempts when it ends: it was tried again
after every failed connection until the schedule had no delay left, and what its
caller gets is what the last attempt was answered.
-/

namespace Loyalty.Store

open RetryPolicy

/-- The attempts of a call that had all it was worth, and what its caller gets. -/
structure Spent (p : RetryPolicy StoreError) {call : StoreCall} (answers : List call.Answer)
    (r : call.Answer) :
    Prop where
  /-- The caller gets what the last attempt was answered. -/
  last : answers.getLast? = some r
  /-- Every attempt before it failed to reach the store. -/
  again : ∀ a ∈ answers.dropLast, ∃ reason, a = .error (.connection reason)
  /-- The last one failed so only when there was no other left. -/
  budget : ∀ reason, r = .error (.connection reason) → answers.length = p.maxAttempts

section

variable {p : RetryPolicy StoreError} {call : StoreCall}

/-- What is left of a call when a part of the schedule is. -/
def tries (p : RetryPolicy StoreError) (call : StoreCall) (delays : List ℕ) :
    Program (Question.Answer StoreError call.Value) call.Answer :=
  ((retryPolicy p).attempts delays).bind fun r => .done (r.mapError failure)

/-- The wait before another attempt, which a stop of the program ends. -/
def pause (p : RetryPolicy StoreError) (call : StoreCall) (delay : ℕ) (delays : List ℕ) :
    Program (Question.Answer StoreError call.Value) call.Answer :=
  .ask (.wait delay) fun stopped => if stopped then .done (.error .cancelled)
    else tries p call delays

/-- What follows from the answer to an attempt. -/
def answered (p : RetryPolicy StoreError) (call : StoreCall) :
    List ℕ → call.Answer → Program (Question.Answer StoreError call.Value) call.Answer
  | _, .ok v => .done (.ok v)
  | [], .error e => .done (.error e)
  | delay :: delays, .error e =>
    if (retryPolicy p).isRetryable e then
      if delay = 0 then tries p call delays else pause p call delay delays
    else .done (.error e)

/-- What follows from the look whether the program is stopping: an attempt, unless it is. -/
def looked (p : RetryPolicy StoreError) (call : StoreCall) (delays : List ℕ) (stopping : Bool) :
    Program (Question.Answer StoreError call.Value) call.Answer :=
  if stopping then .done (.error .cancelled) else .ask .attempt (answered p call delays)

/-- What is left of a call begins with a look whether the program is stopping. -/
theorem tries_eq (delays : List ℕ) :
    tries p call delays = .ask .stopping (looked p call delays) := by
  cases delays with
  | nil =>
      simp only [tries, attempts, Program.ask_bind]
      congr
      funext stopping
      cases stopping with
      | true => rfl
      | false =>
          simp only [looked, Bool.false_eq_true, if_false, Program.ask_bind]
          congr
          funext r
          cases r <;> rfl
  | cons delay delays =>
      simp only [tries, attempts, Program.ask_bind]
      congr
      funext stopping
      cases stopping with
      | true => rfl
      | false =>
          simp only [looked, Bool.false_eq_true, if_false, Program.ask_bind]
          congr
          funext r
          cases r with
          | ok v => rfl
          | error e =>
              cases he : (retryPolicy p).isRetryable e with
              | false => simp [answered, he, Except.mapError, failure]
              | true =>
                  by_cases hdelay : delay = 0
                  · simp [answered, he, hdelay, tries]
                  · simp only [answered, he, hdelay, pause, tries, if_true, if_false, Bool.not_true,
                      Bool.false_eq_true, Program.ask_bind]
                    congr
                    funext stopped
                    cases stopped <;> rfl

theorem retrying_eq (p : RetryPolicy StoreError) (call : StoreCall) :
    retrying p call = tries p call p.delays := rfl

/-- Attempts that all failed to reach the store, after which these delays are left. -/
structure Missed (p : RetryPolicy StoreError) {call : StoreCall} (answers : List call.Answer)
    (delays : List ℕ) :
    Prop where
  again : ∀ a ∈ answers, ∃ reason, a = .error (.connection reason)
  count : answers.length + delays.length = p.delays.length

namespace Missed

variable {answers : List call.Answer} {delays : List ℕ}

/-- One more attempt failed to reach the store. -/
theorem miss {delay : ℕ} (h : Missed p answers (delay :: delays)) (reason : String) :
    Missed p (answers ++ [.error (.connection reason)]) delays where
  again a ha := by
    cases List.mem_append.mp ha with
    | inl hbefore => exact h.again a hbefore
    | inr hlast => exact ⟨reason, List.mem_singleton.mp hlast⟩
  count := by
    have hcount := h.count
    simp only [List.length_append, List.length_cons, List.length_nil] at hcount ⊢
    omega

/-- An attempt that is not made again is the last one, whatever delays are left. -/
theorem spent (h : Missed p answers delays) (a : call.Answer)
    (ha : ∀ reason, a = .error (.connection reason) → delays = []) :
    Spent p (answers ++ [a]) a where
  last := by simp
  again := by simpa using h.again
  budget reason hreason := by
    have hcount := h.count
    rw [ha reason hreason] at hcount
    simpa [maxAttempts] using hcount

end Missed

/-- Where a call stands that nobody stops, after attempts with these answers. -/
inductive Trying (p : RetryPolicy StoreError) (call : StoreCall) (answers : List call.Answer)
    (rest : Program (Question.Answer StoreError call.Value) call.Answer) : Prop
  /-- It is about to look whether the program is stopping. -/
  | looking (delays : List ℕ) (hmissed : Missed p answers delays)
      (hrest : rest = .ask .stopping (looked p call delays))
  | attempting (delays : List ℕ) (hmissed : Missed p answers delays)
      (hrest : rest = .ask .attempt (answered p call delays))
  | pausing (delay : ℕ) (delays : List ℕ) (hmissed : Missed p answers delays)
      (hrest : rest = pause p call delay delays)
  | ended (r : call.Answer) (hspent : Spent p answers r) (hrest : rest = .done r)

namespace Trying

variable {answers : List call.Answer} {delays : List ℕ}

theorem start (p : RetryPolicy StoreError) (call : StoreCall) :
    Trying p call [] (retrying p call) :=
  .looking p.delays ⟨nofun, by simp⟩ (by rw [retrying_eq, tries_eq])

/-- An attempt with this answer leaves the call where `answered` says. -/
theorem of_answered (h : Missed p answers delays) (a : call.Answer) :
    Trying p call (answers ++ [a]) (answered p call delays a) := by
  cases a with
  | ok v => exact .ended (.ok v) (h.spent _ nofun) (by cases delays <;> rfl)
  | error e =>
      cases he : (retryPolicy p).isRetryable e with
      | false =>
          have hlast : answered p call delays (.error e) = .done (.error e) := by
            cases delays with
            | nil => rfl
            | cons delay delays => simp [answered, he]
          refine .ended (.error e) (h.spent _ fun reason hreason => ?_) hlast
          obtain rfl := Except.error.inj hreason
          simp [isRetryable_iff.mpr ⟨reason, rfl⟩] at he
      | true =>
          obtain ⟨reason, rfl⟩ := isRetryable_iff.mp he
          cases delays with
          | nil => exact .ended _ (h.spent _ fun _ _ => rfl) rfl
          | cons delay delays =>
              by_cases hdelay : delay = 0
              · exact .looking delays (h.miss reason) (by simp [answered, he, hdelay, tries_eq])
              · exact .pausing delay delays (h.miss reason) (by simp [answered, he, hdelay])

/-- The program is not stopping before an attempt. -/
theorem look {next : Bool → Program (Question.Answer StoreError call.Value) call.Answer}
    (h : Trying p call answers (.ask .stopping next)) : Trying p call answers (next false) := by
  cases h with
  | looking delays hmissed hrest =>
      injection hrest with _ hnext
      rw [hnext]
      exact .attempting delays hmissed rfl
  | attempting _ _ hrest | pausing _ _ _ hrest | ended _ _ hrest => cases hrest

/-- The program does not stop during a wait. -/
theorem resume {ms : ℕ} {next : Bool → Program (Question.Answer StoreError call.Value) call.Answer}
    (h : Trying p call answers (.ask (.wait ms) next)) : Trying p call answers (next false) := by
  cases h with
  | pausing delay delays hmissed hrest =>
      injection hrest with _ hnext
      rw [hnext]
      exact .looking delays hmissed (tries_eq delays)
  | looking _ _ hrest | attempting _ _ hrest | ended _ _ hrest => cases hrest

/-- An attempt is answered. -/
theorem attempt {next : call.Answer → Program (Question.Answer StoreError call.Value) call.Answer}
    (h : Trying p call answers (.ask .attempt next)) (a : call.Answer) :
    Trying p call (answers ++ [a]) (next a) := by
  cases h with
  | attempting delays hmissed hrest =>
      injection hrest with _ hnext
      rw [hnext]
      exact of_answered hmissed a
  | looking _ _ hrest | pausing _ _ _ hrest | ended _ _ hrest => cases hrest

/-- A call that has ended has spent its attempts. -/
theorem spent {r : call.Answer} (h : Trying p call answers (.done r)) : Spent p answers r := by
  cases h with
  | ended r hspent hrest =>
      obtain rfl := Program.done.inj hrest
      exact hspent
  | looking _ _ hrest | attempting _ _ hrest | pausing _ _ _ hrest => cases hrest

end Trying

end

end Loyalty.Store
