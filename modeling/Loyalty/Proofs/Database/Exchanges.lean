import Loyalty.Proofs.Database.Debit
import Loyalty.Proofs.Program

/-!
# Loyalty.Proofs.Database.Exchanges

What is said between a debit and the server, whatever the server answers.

A debit asks for one thing after the other, and `Said` is what was asked and
answered by the time it stands at a stage.  Since every stage is reached in one
way only, what is asked tells what was said before (`Said.of_committing` and its
like).  As long as a debit goes on nothing has failed (`Said.smooth`), and when
it gives up that is because of what was said last (`Said.of_givingUp`).
-/

namespace Loyalty.Database

open Program (Exchange)

/-! ## what failures mean -/

namespace Failure

/-- What counts as a failure to reach the server. -/
theorem toStore_eq_connection_iff {operation : String} {e : Failure} :
    (∃ reason, e.toStore operation = .connection reason) ↔
      (∃ reason, e = .io reason) ∨ (∃ reason, e = .protocol reason) ∨ (∃ reason, e = .tls reason) ∨
        e = .poolTimedOut ∨ ∃ code message, e = .server code message ∧
          code ∈ ["08000", "08001", "08003", "08004", "08006", "08007", "08P01"] := by
  cases e with
  | server code message =>
      have hcodes : connectionCodes.contains code = true ↔
          code ∈ ["08000", "08001", "08003", "08004", "08006", "08007", "08P01"] := by
        simp only [connectionCodes, List.contains_iff_mem, List.mem_cons, List.not_mem_nil,
          or_false]
        tauto
      simp only [toStore]
      split
      · next hcode =>
        subst hcode
        simp [uniqueViolation]
      · split
        · next hconnection => simpa using hcodes.mp hconnection
        · next hconnection => simpa using mt hcodes.mpr hconnection
  | _ => simp [toStore]

/-- Only a violated uniqueness counts as a duplicate. -/
theorem toStore_eq_duplicate_iff {operation : String} {e : Failure} :
    e.toStore operation = .duplicate ↔ ∃ message, e = .server "23505" message := by
  cases e with
  | server code message =>
      simp only [toStore]
      split
      · next hcode => simp [hcode, uniqueViolation]
      · next hcode =>
        have hne : code ≠ "23505" := hcode
        split <;> simp [hne]
  | _ => simp [toStore]

end Failure

/-- Only a reply without rows has no first one. -/
theorem Reply.rows_eq_nil_of_first? {α : Type} {read : Row → Except Failure α} {reply : Reply}
    (h : reply.first? read = .ok none) : reply.rows = [] := by
  unfold first? at h
  split at h
  · next hrows => exact hrows
  · next row rest hrows => cases hread : read row <;> simp [hread, Except.map] at h

/-! ## what was said -/

/-- The operation of a debit that an exchange belongs to and its failure, if it failed. -/
def failed? : Exchange Question.Answer → Option (String × Failure)
  | ⟨.start, .error e⟩ => some ("begin_transaction", e)
  | ⟨.run (.lockBalance _), r⟩ =>
    match r.bind (Reply.first? (·.points "current")) with
    | .error e => some ("lock_balance", e)
    | .ok _ => none
  | ⟨.run (.debitBalance _ _), .error e⟩ => some ("debit_balance", e)
  | ⟨.run (.insertWithdrawal _ _ _ _), r⟩ =>
    match r.bind (Reply.one (·.timestamp "processed_at")) with
    | .error e => some ("insert_withdrawal", e)
    | .ok _ => none
  | ⟨.commit, .error e⟩ => some ("commit", e)
  | ⟨.rollback, .error e⟩ => some ("rollback", e)
  | _ => none

/-- Nothing failed, and no end of the transaction was asked for. -/
def Smooth (log : List (Exchange Question.Answer)) : Prop :=
  ∀ x ∈ log, failed? x = none ∧ x.question ≠ .commit ∧ x.question ≠ .rollback

theorem Smooth.concat {log : List (Exchange Question.Answer)} {x : Exchange Question.Answer}
    (h : Smooth log) (hx : failed? x = none)
    (hend : x.question ≠ .commit ∧ x.question ≠ .rollback) : Smooth (log ++ [x]) := by
  intro y hy
  rcases List.mem_append.mp hy with hy | hy
  · exact h y hy
  · rw [List.mem_singleton.mp hy]
    exact ⟨hx, hend⟩

/-- Something failed after all went smoothly, and a transaction that was started was let go of after
it. -/
structure Breaks (e : StoreError) (before : List (Exchange Question.Answer))
    (x : Exchange Question.Answer) (after : List (Exchange Question.Answer)) : Prop where
  smooth : Smooth before
  failed : ∃ operation f, failed? x = some (operation, f) ∧ e = f.toStore operation
  after : after = [⟨.abandon, ()⟩] ∨ before = [] ∧ after = []

namespace Breaks

variable {e : StoreError} {before after : List (Exchange Question.Answer)}
  {x y : Exchange Question.Answer}

/-- Nothing but what failed can have asked for an end of the transaction. -/
theorem eq_of_mem (h : Breaks e before x after) (hy : y ∈ before ++ x :: after)
    (hend : y.question = .commit ∨ y.question = .rollback) : y = x := by
  rcases List.mem_append.mp hy with hy | hy
  · obtain ⟨-, hcommit, hrollback⟩ := h.smooth y hy
    exact absurd hend (not_or.mpr ⟨hcommit, hrollback⟩)
  · rcases List.mem_cons.mp hy with rfl | hy
    · rfl
    · rcases h.after with rfl | ⟨-, rfl⟩
      · rw [List.mem_singleton.mp hy] at hend
        simp at hend
      · cases hy

/-- No end of the transaction was acknowledged. -/
theorem notMem_of_failed (h : Breaks e before x after) (hy : failed? y = none)
    (hend : y.question = .commit ∨ y.question = .rollback) : y ∉ before ++ x :: after := by
  intro hmem
  obtain ⟨operation, f, hfailed, -⟩ := h.failed
  rw [← h.eq_of_mem hmem hend, hy] at hfailed
  cases hfailed

/-- A transaction that was started is let go of. -/
theorem after_of_started (h : Breaks e before x after)
    (hstart : ⟨.start, .ok ()⟩ ∈ before ++ x :: after) :
    after = [⟨.abandon, ()⟩] := by
  rcases h.after with hafter | ⟨rfl, rfl⟩
  · exact hafter
  · obtain ⟨operation, f, hfailed, -⟩ := h.failed
    rw [← List.mem_singleton.mp hstart] at hfailed
    cases hfailed

end Breaks

/-- A transaction was started, and in it the balance of a user was locked, whose row covers an
amount. -/
def Covered (u : UserId) (amount : Points) (log : List (Exchange Question.Answer)) : Prop :=
  ∃ reply current, log = [⟨.start, .ok ()⟩, ⟨.run (.lockBalance u), .ok reply⟩] ∧
    reply.first? (·.points "current") = .ok (some current) ∧ amount ≤ current

/-- A balance that was covered was changed. -/
def Taken (u : UserId) (amount : Points) (log : List (Exchange Question.Answer)) : Prop :=
  ∃ before reply, Covered u amount before ∧
    log = before ++ [⟨.run (.debitBalance u amount), .ok reply⟩]

/-- A balance was changed, and then the withdrawal recorded, at an instant that the server gave. -/
def Recorded (u : UserId) (number : OrderNumber) (amount : Points) (w : Withdrawal)
    (log : List (Exchange Question.Answer)) : Prop :=
  ∃ before id reply processedAt, Taken u amount before ∧
    log = before ++ [⟨.fresh, id⟩, ⟨.run (.insertWithdrawal ⟨id⟩ u number amount), .ok reply⟩] ∧
    reply.one (·.timestamp "processed_at") = .ok processedAt ∧
    w = { id := ⟨id⟩, userId := u, orderNumber := number, sum := amount, processedAt }

/-- A transaction was started, and in it the balance of a user was asked for, which is not there or
is less than an amount. -/
def Uncovered (u : UserId) (amount : Points) (log : List (Exchange Question.Answer)) : Prop :=
  ∃ reply, log = [⟨.start, .ok ()⟩, ⟨.run (.lockBalance u), .ok reply⟩] ∧
    (reply.rows = [] ∨ ∃ current, reply.first? (·.points "current") = .ok (some current) ∧
      current < amount)

namespace DebitStage

/-- What was said in a debit by the time it stands at a stage. -/
inductive Said (u : UserId) (number : OrderNumber) (amount : Points) :
    DebitStage → List (Exchange Question.Answer) → Prop
  | starting : Said u number amount starting []
  | step {stage stage' : DebitStage} {log : List (Exchange Question.Answer)} {q : Question}
      {r : q.Answer} (h : Said u number amount stage log)
      (hmoves : stage.Moves u number amount q r stage') :
      Said u number amount stage' (log ++ [⟨q, r⟩])

/-- Whether a debit goes on. -/
def GoesOn : DebitStage → Prop
  | givingUp _ | ended _ => False
  | _ => True

section

variable {u : UserId} {number : OrderNumber} {amount : Points} {stage : DebitStage}
  {log before after : List (Exchange Question.Answer)} {r : Except StoreError Withdrawal}

/-! ## runs -/

/-- Only a debit that has ended asks nothing. -/
theorem eq_ended_of_program (h : stage.program u number amount = .done r) : stage = .ended r := by
  cases stage with
  | ended r' => rw [Program.done.inj h]
  | _ => cases h

/-- What is said in the rest of a debit leads to its end. -/
theorem Said.of_gives (h : Said u number amount stage before)
    (hgives : (stage.program u number amount).Gives log r) :
    Said u number amount (.ended r) (before ++ log) := by
  induction log generalizing stage before with
  | nil =>
      have hdone : stage.program u number amount = .done r := by
        generalize stage.program u number amount = p at hgives
        cases hgives
        rfl
      rw [List.append_nil, ← eq_ended_of_program hdone]
      exact h
  | cons x log ih =>
      obtain ⟨q, a⟩ := x
      obtain ⟨next, hasks, hrest⟩ : ∃ next, stage.program u number amount = .ask q next ∧
          (next a).Gives log r := by
        generalize stage.program u number amount = p at hgives
        cases hgives with
        | ask _ hrest => exact ⟨_, rfl, hrest⟩
      obtain ⟨stage', hmoves, hnext⟩ := moves hasks a
      have hlog : before ++ ⟨q, a⟩ :: log = (before ++ [⟨q, a⟩]) ++ log := by simp
      rw [hlog]
      exact ih (h.step hmoves) (hnext ▸ hrest)

/-- Whatever is said in a debit is asked at some stage. -/
theorem Said.split {stage' : DebitStage} {x : Exchange Question.Answer}
    (h : Said u number amount stage' log) (hlog : log = before ++ x :: after) :
    ∃ stage stage'', Said u number amount stage before ∧
      stage.Moves u number amount x.question x.answer stage'' := by
  induction h generalizing after with
  | starting => simp at hlog
  | @step stage stage' log q a h hmoves ih =>
      rcases List.eq_nil_or_concat after with rfl | ⟨rest, y, rfl⟩
      · obtain ⟨rfl, heq⟩ := List.append_inj' hlog rfl
        obtain rfl := List.singleton_inj.mp heq
        exact ⟨stage, stage', h, hmoves⟩
      · rw [List.concat_eq_append, ← List.cons_append, ← List.append_assoc] at hlog
        exact ih (List.append_inj' hlog rfl).1

/-! ## what a stage tells -/

theorem Said.of_starting (h : Said u number amount .starting log) : log = [] := by
  cases h with
  | starting => rfl
  | step _ hmoves => cases hmoves

theorem Said.of_locking (h : Said u number amount .locking log) : log = [⟨.start, .ok ()⟩] := by
  cases h with
  | step h hmoves =>
      cases hmoves with
      | starts => rw [h.of_starting, List.nil_append]

theorem Said.of_debiting (h : Said u number amount .debiting log) : Covered u amount log := by
  cases h with
  | step h hmoves =>
      cases hmoves with
      | covers r current hread hcovers =>
          rw [h.of_locking]
          cases r with
          | error e => cases hread
          | ok reply =>
              cases current with
              | none => cases hcovers
              | some current => exact ⟨reply, current, rfl, hread, of_decide_eq_true hcovers⟩

theorem Said.of_refusing (h : Said u number amount .refusing log) : Uncovered u amount log := by
  cases h with
  | step h hmoves =>
      cases hmoves with
      | declines r current hread hcovers =>
          rw [h.of_locking]
          cases r with
          | error e => cases hread
          | ok reply =>
              refine ⟨reply, rfl, ?_⟩
              cases current with
              | none => exact .inl (Reply.rows_eq_nil_of_first? hread)
              | some current =>
                  have hless : ¬ amount ≤ current := of_decide_eq_false hcovers
                  rw [Decimal.le_iff, Int.not_le, ← Decimal.lt_iff] at hless
                  exact .inr ⟨current, hread, hless⟩

theorem Said.of_naming (h : Said u number amount .naming log) : Taken u amount log := by
  cases h with
  | step h hmoves =>
      cases hmoves with
      | takes reply => exact ⟨_, reply, h.of_debiting, rfl⟩

theorem Said.of_inserting {id : Uuid} (h : Said u number amount (.inserting id) log) :
    ∃ before, Taken u amount before ∧ log = before ++ [⟨.fresh, id⟩] := by
  cases h with
  | step h hmoves =>
      cases hmoves with
      | names => exact ⟨_, h.of_naming, rfl⟩

theorem Said.of_committing {w : Withdrawal} (h : Said u number amount (.committing w) log) :
    Recorded u number amount w log := by
  cases h with
  | step h hmoves =>
      cases hmoves with
      | records id r processedAt hread =>
          obtain ⟨before, htaken, rfl⟩ := h.of_inserting
          cases r with
          | error e => cases hread
          | ok reply => exact ⟨before, id, reply, processedAt, htaken, by simp, hread, rfl⟩

/-! ## failures -/

/-- As long as a debit goes on all went smoothly. -/
theorem Said.smooth (h : Said u number amount stage log) (hgoes : stage.GoesOn) : Smooth log := by
  induction h with
  | starting => exact fun _ hx => absurd hx List.not_mem_nil
  | step h hmoves ih =>
      cases hmoves with
      | starts | takes | names => exact (ih trivial).concat rfl ⟨nofun, nofun⟩
      | covers r current hread | declines r current hread | records id r current hread =>
          exact (ih trivial).concat (by simp only [failed?, hread]) ⟨nofun, nofun⟩
      | _ => exact hgoes.elim

/-- A debit gives up because of what was said last, which was the first to fail. -/
theorem Said.of_givingUp {e : StoreError} (h : Said u number amount (.givingUp e) log) :
    ∃ before x, log = before ++ [x] ∧ Smooth before ∧
      ∃ operation f, failed? x = some (operation, f) ∧ e = f.toStore operation := by
  cases h with
  | step h hmoves =>
      cases hmoves with
      | unread r f hread | unrecorded id r f hread =>
          exact ⟨_, _, rfl, h.smooth trivial, _, f, by simp only [failed?, hread], rfl⟩
      | untaken f | uncommitted w f | unrefused f =>
          exact ⟨_, _, rfl, h.smooth trivial, _, f, rfl, rfl⟩

/-! ## ends -/

/-- A debit ends by all that was said in it. -/
theorem said_of_gives (h : (debit u number amount).Gives log r) :
    Said u number amount (.ended r) log :=
  Said.starting.of_gives h

/-- A debit succeeds with what was recorded, once the end of its transaction was acknowledged. -/
theorem Said.of_ended_ok {w : Withdrawal} (h : Said u number amount (.ended (.ok w)) log) :
    ∃ before, Recorded u number amount w before ∧ Smooth before ∧
      log = before ++ [⟨.commit, .ok ()⟩] := by
  cases h with
  | step h hmoves =>
      cases hmoves with
      | commits w => exact ⟨_, h.of_committing, h.smooth trivial, rfl⟩

/-- A debit that fails was not covered and was undone, or broke off. -/
theorem Said.of_ended_error {e : StoreError} (h : Said u number amount (.ended (.error e)) log) :
    (e = .insufficientFunds ∧ ∃ before, Uncovered u amount before ∧ Smooth before ∧
      log = before ++ [⟨.rollback, .ok ()⟩]) ∨
    ∃ before x after, log = before ++ x :: after ∧ Breaks e before x after := by
  cases h with
  | step h hmoves =>
      cases hmoves with
      | refuses => exact .inl ⟨rfl, _, h.of_refusing, h.smooth trivial, rfl⟩
      | unstarted f =>
          rw [h.of_starting]
          exact .inr ⟨[], _, [], rfl,
            { smooth := nofun, failed := ⟨_, f, rfl, rfl⟩, after := .inr ⟨rfl, rfl⟩ }⟩
      | givesUp e =>
          obtain ⟨before, x, rfl, hsmooth, hfailed⟩ := h.of_givingUp
          exact .inr ⟨before, x, _, by simp,
            { smooth := hsmooth, failed := hfailed, after := .inl rfl }⟩

/-- A debit succeeds exactly when the end of its transaction is acknowledged. -/
theorem Said.exists_ok_iff (h : Said u number amount (.ended r) log) :
    (∃ w, r = .ok w) ↔ ⟨.commit, .ok ()⟩ ∈ log := by
  cases r with
  | ok w =>
      obtain ⟨before, -, -, rfl⟩ := h.of_ended_ok
      simp
  | error e =>
      rcases h.of_ended_error with ⟨-, before, -, hsmooth, rfl⟩ | ⟨before, x, after, rfl, hbreaks⟩
      · have hbefore : ⟨.commit, .ok ()⟩ ∉ before := fun hmem => (hsmooth _ hmem).2.1 rfl
        simp [hbefore]
      · have hnever := hbreaks.notMem_of_failed (y := ⟨.commit, .ok ()⟩) rfl (.inl rfl)
        simpa using hnever

/-- A debit lacks funds exactly when it was not covered and its transaction was undone. -/
theorem Said.insufficientFunds_iff (h : Said u number amount (.ended r) log) :
    r = .error .insufficientFunds ↔
      ∃ before, Uncovered u amount before ∧ log = before ++ [⟨.rollback, .ok ()⟩] := by
  constructor
  · rintro rfl
    rcases h.of_ended_error with ⟨-, before, huncovered, -, rfl⟩ | ⟨before, x, after, rfl, hbreaks⟩
    · exact ⟨before, huncovered, rfl⟩
    · obtain ⟨operation, f, -, he⟩ := hbreaks.failed
      exact absurd he.symm (f.toStore_ne_insufficientFunds operation)
  · rintro ⟨undone, huncovered, hlog⟩
    have hmem : ⟨.rollback, .ok ()⟩ ∈ log := by simp [hlog]
    cases r with
    | ok w =>
        obtain ⟨before, -, hsmooth, rfl⟩ := h.of_ended_ok
        rcases List.mem_append.mp hmem with hmem | hmem
        · exact absurd rfl (hsmooth _ hmem).2.2
        · simp at hmem
    | error e =>
        rcases h.of_ended_error with ⟨rfl, -⟩ | ⟨before, x, after, rfl, hbreaks⟩
        · rfl
        · exact absurd hmem (hbreaks.notMem_of_failed rfl (.inr rfl))

/-- A debit that fails otherwise broke off. -/
theorem Said.exists_breaks {e : StoreError} (h : Said u number amount (.ended (.error e)) log)
    (he : e ≠ .insufficientFunds) :
    ∃ before x after, log = before ++ x :: after ∧ Breaks e before x after :=
  h.of_ended_error.resolve_left fun hfunds => he hfunds.1

end

end DebitStage

/-- **A debit commits only what is complete and covered**: whatever the server answers,

* the balance is changed only after it was locked in a transaction that is still open and covers the
  amount; the withdrawal is recorded only after that was done; and the end of the transaction is
  asked for only after it was recorded at an instant that could be read;
* the debit succeeds exactly when the end of the transaction is acknowledged, and then with the
  withdrawal that was recorded for this user, number and amount, at the instant that the server
  gave;
* it lacks funds exactly when there is no balance or a smaller one and the transaction was undone;
* otherwise it ends in what the first failure means, after which the transaction is let go of, and
  its end was not asked for unless that is what failed;
* a failure means one to reach the server exactly when it is one on the way or of seven codes, and a
  duplicate exactly when it is of a violated uniqueness. -/
theorem debit_commits_complete {σ : Type} (server : (q : Question) → σ → q.Answer × σ) (s : σ)
    (u : UserId) (number : OrderNumber) (amount : Points) :
    let log := (debit u number amount).exchanges server s
    let result := ((debit u number amount).run server s).1
    (∀ before after v x a, log = before ++ ⟨.run (.debitBalance v x), a⟩ :: after →
      v = u ∧ x = amount ∧ Covered u amount before) ∧
    (∀ before after id v m x a, log = before ++ ⟨.run (.insertWithdrawal id v m x), a⟩ :: after →
      v = u ∧ m = number ∧ x = amount ∧ ∃ taken, Taken u amount taken ∧
        before = taken ++ [⟨.fresh, id.uuid⟩]) ∧
    (∀ before after a, log = before ++ ⟨.commit, a⟩ :: after →
      ∃ w, Recorded u number amount w before) ∧
    ((∃ w, result = .ok w) ↔ ⟨.commit, .ok ()⟩ ∈ log) ∧
    (∀ w, result = .ok w → ∃ before, Recorded u number amount w before ∧
      log = before ++ [⟨.commit, .ok ()⟩]) ∧
    (result = .error .insufficientFunds ↔
      ∃ before, Uncovered u amount before ∧ log = before ++ [⟨.rollback, .ok ()⟩]) ∧
    (∀ e, result = .error e → e ≠ .insufficientFunds →
      ∃ before x after operation f, log = before ++ x :: after ∧ (∀ y ∈ before, failed? y = none) ∧
        failed? x = some (operation, f) ∧ e = f.toStore operation ∧
        (∀ a, ⟨.commit, a⟩ ∈ log → x = ⟨.commit, a⟩) ∧
        (⟨.start, .ok ()⟩ ∈ log → after = [⟨.abandon, ()⟩])) ∧
    ∀ operation (f : Failure),
      ((∃ reason, f.toStore operation = .connection reason) ↔
        (∃ reason, f = .io reason) ∨ (∃ reason, f = .protocol reason) ∨
          (∃ reason, f = .tls reason) ∨
          f = .poolTimedOut ∨ ∃ code message, f = .server code message ∧
            code ∈ ["08000", "08001", "08003", "08004", "08006", "08007", "08P01"]) ∧
      (f.toStore operation = .duplicate ↔ ∃ message, f = .server "23505" message) := by
  intro log result
  have hsaid : DebitStage.Said u number amount (.ended result) log :=
    DebitStage.said_of_gives (Program.gives_exchanges server _ s)
  refine ⟨?_, ?_, ?_, hsaid.exists_ok_iff, ?_, hsaid.insufficientFunds_iff, ?_,
    fun operation f => ⟨Failure.toStore_eq_connection_iff, Failure.toStore_eq_duplicate_iff⟩⟩
  · intro before after v x a hlog
    obtain ⟨stage, stage', hbefore, hmoves⟩ := hsaid.split hlog
    cases hmoves with
    | takes | untaken => exact ⟨rfl, rfl, hbefore.of_debiting⟩
  · intro before after id v m x a hlog
    obtain ⟨stage, stage', hbefore, hmoves⟩ := hsaid.split hlog
    cases hmoves with
    | records | unrecorded => exact ⟨rfl, rfl, rfl, hbefore.of_inserting⟩
  · intro before after a hlog
    obtain ⟨stage, stage', hbefore, hmoves⟩ := hsaid.split hlog
    cases hmoves with
    | commits w | uncommitted w => exact ⟨w, hbefore.of_committing⟩
  · intro w hresult
    rw [hresult] at hsaid
    obtain ⟨before, hrecorded, -, hlog⟩ := hsaid.of_ended_ok
    exact ⟨before, hrecorded, hlog⟩
  · intro e hresult he
    rw [hresult] at hsaid
    obtain ⟨before, x, after, hlog, hbreaks⟩ := hsaid.exists_breaks he
    obtain ⟨operation, f, hfailed, hmeans⟩ := hbreaks.failed
    rw [hlog]
    exact ⟨before, x, after, operation, f, rfl, fun y hy => (hbreaks.smooth y hy).1,
      hfailed, hmeans,
      fun a ha => (hbreaks.eq_of_mem ha (.inl rfl)).symm, hbreaks.after_of_started⟩

end Loyalty.Database
