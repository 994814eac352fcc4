import Loyalty.Store.Database.Calls
import Mathlib

/-!
# Loyalty.Proofs.Database.Debit

Where a debit on a database server stands.

A debit is a program of statements, and `DebitStage` names what is left of it
after some answers.  `DebitStage.Moves` says how an answer leads from one stage
to the next, whatever the server answers: a failure of any kind, or a reply with
any rows.  What a failure means is never a lack of funds
(`Failure.toStore_ne_insufficientFunds`), so that a debit ends as not covered
only when the balance that it locked said so.
-/

namespace Loyalty.Database

/-- Where a debit stands. -/
inductive DebitStage
  /-- It is about to start a transaction. -/
  | starting
  /-- It is about to lock and read the balance. -/
  | locking
  /-- It is about to change the balance, which covers the amount. -/
  | debiting
  /-- It is about to ask for an identifier. -/
  | naming
  /-- It is about to record the withdrawal. -/
  | inserting (id : Uuid)
  /-- It is about to end the transaction, which is kept. -/
  | committing (w : Withdrawal)
  /-- It is about to end the transaction, which is undone. -/
  | refusing
  /-- It is about to let go of the transaction after a failure. -/
  | givingUp (e : StoreError)
  | ended (r : Except StoreError Withdrawal)

/-- A failure of a server is never a lack of funds. -/
theorem Failure.toStore_ne_insufficientFunds (operation : String) (e : Failure) :
    e.toStore operation ≠ .insufficientFunds := by
  cases e with
  | server code message =>
      simp only [toStore]
      split
      · nofun
      · split <;> nofun
  | _ => nofun

namespace DebitStage

variable {u : UserId} {number : OrderNumber} {amount : Points}

/-- What is left to do at a stage. -/
def program (u : UserId) (number : OrderNumber) (amount : Points) : DebitStage → Session Withdrawal
  | starting => debit u number amount
  | locking => lockDebit u number amount
  | debiting => takeDebit u number amount
  | naming => .ask .fresh fun id => recordDebit u number amount id
  | inserting id => recordDebit u number amount id
  | committing w => commit "commit" w
  | refusing => rollback "rollback" .insufficientFunds
  | givingUp e => .ask .abandon fun _ => .done (.error e)
  | ended r => .done r

/-- The withdrawal that a debit records under an identifier. -/
def withdrawal (u : UserId) (number : OrderNumber) (amount : Points) (id : Uuid)
    (processedAt : Instant) :
    Withdrawal :=
  { id := ⟨id⟩, userId := u, orderNumber := number, sum := amount, processedAt }

/-- How an answer leads from a stage to the next. -/
inductive Moves (u : UserId) (number : OrderNumber) (amount : Points) :
    DebitStage → (q : Question) → q.Answer → DebitStage → Prop
  | starts : Moves u number amount starting .start (.ok ()) locking
  | unstarted (e : Failure) :
      Moves u number amount starting .start (.error e)
        (ended (.error (e.toStore "begin_transaction")))
  | covers (r : Except Failure Reply) (current : Option Points)
      (hread : r.bind (Reply.first? (·.points "current")) = .ok current)
      (hcovers : Database.covers current amount = true) :
      Moves u number amount locking (.run (.lockBalance u)) r debiting
  | declines (r : Except Failure Reply) (current : Option Points)
      (hread : r.bind (Reply.first? (·.points "current")) = .ok current)
      (hcovers : Database.covers current amount = false) :
      Moves u number amount locking (.run (.lockBalance u)) r refusing
  | unread (r : Except Failure Reply) (e : Failure)
      (hread : r.bind (Reply.first? (·.points "current")) = .error e) :
      Moves u number amount locking (.run (.lockBalance u)) r (givingUp (e.toStore "lock_balance"))
  | takes (reply : Reply) :
      Moves u number amount debiting (.run (.debitBalance u amount)) (.ok reply) naming
  | untaken (e : Failure) :
      Moves u number amount debiting (.run (.debitBalance u amount)) (.error e)
        (givingUp (e.toStore "debit_balance"))
  | names (id : Uuid) : Moves u number amount naming .fresh id (inserting id)
  | records (id : Uuid) (r : Except Failure Reply) (processedAt : Instant)
      (hread : r.bind (Reply.one (·.timestamp "processed_at")) = .ok processedAt) :
      Moves u number amount (inserting id) (.run (.insertWithdrawal ⟨id⟩ u number amount)) r
        (committing (withdrawal u number amount id processedAt))
  | unrecorded (id : Uuid) (r : Except Failure Reply) (e : Failure)
      (hread : r.bind (Reply.one (·.timestamp "processed_at")) = .error e) :
      Moves u number amount (inserting id) (.run (.insertWithdrawal ⟨id⟩ u number amount)) r
        (givingUp (e.toStore "insert_withdrawal"))
  | commits (w : Withdrawal) : Moves u number amount (committing w) .commit (.ok ()) (ended (.ok w))
  | uncommitted (w : Withdrawal) (e : Failure) :
      Moves u number amount (committing w) .commit (.error e) (givingUp (e.toStore "commit"))
  | refuses : Moves u number amount refusing .rollback (.ok ()) (ended (.error .insufficientFunds))
  | unrefused (e : Failure) :
      Moves u number amount refusing .rollback (.error e) (givingUp (e.toStore "rollback"))
  | givesUp (e : StoreError) : Moves u number amount (givingUp e) .abandon () (ended (.error e))

/-- Every answer to what a stage asks leads to a stage. -/
theorem moves {stage : DebitStage} {q : Question} {next : q.Answer → Session Withdrawal}
    (h : stage.program u number amount = .ask q next) (r : q.Answer) :
    ∃ stage', stage.Moves u number amount q r stage' ∧ next r = stage'.program u number amount := by
  cases stage with
  | starting =>
      cases h
      cases r with
      | ok _ => exact ⟨_, .starts, rfl⟩
      | error e => exact ⟨_, .unstarted e, rfl⟩
  | locking =>
      cases h
      dsimp only
      cases hread : Except.bind r (Reply.first? (·.points "current")) with
      | error e => exact ⟨_, .unread r e hread, rfl⟩
      | ok current =>
          by_cases hcovers : Database.covers current amount = true
          · refine ⟨_, .covers r current hread hcovers, ?_⟩
            dsimp only
            rw [if_pos hcovers]
            rfl
          · refine ⟨_, .declines r current hread (Bool.not_eq_true _ ▸ hcovers), ?_⟩
            dsimp only
            rw [if_neg hcovers]
            rfl
  | debiting =>
      cases h
      cases r with
      | ok reply => exact ⟨_, .takes reply, rfl⟩
      | error e => exact ⟨_, .untaken e, rfl⟩
  | naming =>
      cases h
      exact ⟨_, .names r, rfl⟩
  | inserting id =>
      cases h
      dsimp only
      cases hread : Except.bind r (Reply.one (·.timestamp "processed_at")) with
      | error e => exact ⟨_, .unrecorded id r e hread, rfl⟩
      | ok processedAt => exact ⟨_, .records id r processedAt hread, rfl⟩
  | committing w =>
      cases h
      cases r with
      | ok _ => exact ⟨_, .commits w, rfl⟩
      | error e => exact ⟨_, .uncommitted w e, rfl⟩
  | refusing =>
      cases h
      cases r with
      | ok _ => exact ⟨_, .refuses, rfl⟩
      | error e => exact ⟨_, .unrefused e, rfl⟩
  | givingUp e =>
      cases h
      exact ⟨_, .givesUp e, rfl⟩
  | ended r => cases h

/-- A stage that an answer leads away from asks for it. -/
theorem Moves.asks {stage stage' : DebitStage} {q : Question} {r : q.Answer}
    (h : stage.Moves u number amount q r stage') :
    ∃ next, stage.program u number amount = .ask q next ∧
      next r = stage'.program u number amount := by
  cases h with
  | covers r current hread hcovers =>
      refine ⟨_, rfl, ?_⟩
      dsimp only
      rw [hread]
      exact if_pos hcovers
  | declines r current hread hcovers =>
      refine ⟨_, rfl, ?_⟩
      dsimp only
      rw [hread]
      exact if_neg (ne_true_of_eq_false hcovers)
  | unread r e hread =>
      refine ⟨_, rfl, ?_⟩
      dsimp only
      rw [hread]
      rfl
  | records id r processedAt hread =>
      refine ⟨_, rfl, ?_⟩
      dsimp only
      rw [hread]
      rfl
  | unrecorded id r e hread =>
      refine ⟨_, rfl, ?_⟩
      dsimp only
      rw [hread]
      rfl
  | _ => exact ⟨_, rfl, rfl⟩

end DebitStage

end Loyalty.Database
