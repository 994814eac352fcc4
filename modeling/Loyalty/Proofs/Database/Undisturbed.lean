import Loyalty.Proofs.Database.Debit
import Loyalty.Proofs.Database.Server

/-!
# Loyalty.Proofs.Database.Undisturbed

Debits while nobody else has locked anything.

Such a debit comes to its end: it succeeds when the row covers the amount and
what is left can be stored, and is declined when it does not.  That it need not
wait for anybody is all that `State.Alone` says; the others may be anywhere in
their calls, as long as they hold no lock.
-/

namespace Loyalty.Database.Server

variable {s : State} {i : ℕ} {tables : Tables} {u : UserId} {number : OrderNumber} {amount : Points}
variable {c c' : Connection} {calls : ℕ → StoreCall}

/-- Nobody else has locked anything. -/
def State.Alone (s : State) (i : ℕ) : Prop := ∀ j, j ≠ i → (s.clients j).connection.locks = []

theorem State.Alone.free (h : s.Alone i) (tables : Tables) (client : Client) (st : Statement) :
    (s.after i tables client).Free i st := by
  intro u _ j hj
  simp only [State.after, Function.update_of_ne hj]
  rw [h j hj]
  exact List.not_mem_nil

/-- A debit goes from a stage to the next. -/
theorem Reachable.move {stage stage' : DebitStage} {q : Question} {r : q.Answer}
    {tables' : Tables}
    (h : Reachable calls
      (s.after i tables ⟨.debit u number amount, stage.program u number amount, c⟩))
    (hmoves : stage.Moves u number amount q r stage')
    (hanswers : Answers
      (s.after i tables ⟨.debit u number amount, stage.program u number amount, c⟩) i c q r
      tables' c') :
    Reachable calls
      (s.after i tables' ⟨.debit u number amount, stage'.program u number amount, c'⟩) := by
  obtain ⟨next, hasks, hnext⟩ := hmoves.asks
  have hclient :
      (s.after i tables ⟨.debit u number amount, stage.program u number amount, c⟩).clients i =
      ⟨.debit u number amount, .ask q next, c⟩ := by
    rw [← hasks]
    exact Function.update_self ..
  have hstep := h.step (.of_client hclient hanswers)
  rwa [State.after_after, hnext] at hstep

/-- A debit that the row covers succeeds when nobody disturbs it. -/
theorem Reachable.debit_alone (h : Reachable calls s) (halone : s.Alone i)
    (hclient : s.clients i = ⟨.debit u number amount, debit u number amount, .idle⟩)
    {a a' : Account} {sum : Numeric} (hrow : s.tables.accounts u = some a)
    (hcovers : amount ≤ Row.sent a.current.toDecimal) (hdebit : a.debit? amount = some a')
    (hsum : Numeric.ofRat? amount.toRat = some sum) (now : Instant) (id : Uuid) :
    Reachable calls
      (s.after i
        (s.tables.publish
          (((Transaction.empty.lock u).write u a').record
            { id := ⟨id⟩, userId := u, number, sum, processedAt := now, client := i }))
        ⟨.debit u number amount, .done (.ok (DebitStage.withdrawal u number amount id now)),
          .idle⟩) := by
  rw [← State.after_self hclient] at h
  have hlock : execute i now s.tables .empty (.lockBalance u) =
      some (⟨[[("current", .numeric (some a.current.toDecimal))]], 1⟩,
        Transaction.empty.lock u) := by
    simp [execute, hrow]
  have htake : execute i now s.tables (Transaction.empty.lock u) (.debitBalance u amount) =
      some (⟨[], 1⟩, (Transaction.empty.lock u).write u a') := by
    simp [execute, hrow, hdebit]
  have hinsert : execute i now s.tables ((Transaction.empty.lock u).write u a')
      (.insertWithdrawal ⟨id⟩ u number amount) = some (⟨[[("processed_at", .timestamp now)]], 1⟩,
        ((Transaction.empty.lock u).write u a').record
          { id := ⟨id⟩, userId := u, number, sum, processedAt := now, client := i }) := by
    simp [execute, hsum]
  have hcovered : covers (some (Row.sent a.current.toDecimal)) amount = true :=
    decide_eq_true hcovers
  have hstarted := Reachable.move h .starts (.start (.inl rfl))
  have hlocked :=
    hstarted.move (.covers _ _ rfl hcovered) (.within (halone.free _ _ _) hlock (.inl rfl))
  have htaken := hlocked.move (.takes _) (.within (halone.free _ _ _) htake (.inl rfl))
  have hnamed := htaken.move (.names id) (.fresh _ id)
  have hrecorded :=
    hnamed.move (.records id _ now rfl) (.within (halone.free _ _ _) hinsert (.inl rfl))
  exact hrecorded.move (.commits _) (.commit (.inl rfl))

/-- A debit that no row covers is declined when nobody disturbs it, and changes nothing. -/
theorem Reachable.decline_alone (h : Reachable calls s) (halone : s.Alone i)
    (hclient : s.clients i = ⟨.debit u number amount, debit u number amount, .idle⟩)
    (hcovers : covers ((s.tables.accounts u).map fun a => Row.sent a.current.toDecimal) amount =
      false) :
    Reachable calls
      (s.after i s.tables ⟨.debit u number amount, .done (.error .insufficientFunds), .idle⟩) := by
  rw [← State.after_self hclient] at h
  have hstarted := Reachable.move h .starts (.start (.inl rfl))
  obtain ⟨reply, t, hlock, hread⟩ := exists_execute_lockBalance i default s.tables u
  have hdeclined := hstarted.move (.declines (.ok reply) _ hread hcovers)
    (.within (halone.free _ _ _) hlock (.inl rfl))
  exact hdeclined.move .refuses (.rollback (.inl rfl))

end Loyalty.Database.Server
