import Loyalty.Proofs.Database.Transfers
import Loyalty.Proofs.Database.Undisturbed

/-!
# Loyalty.Proofs.Database.Conservation

Every step of a server and its clients keeps the books.

A statement of a debit is looked at twice: that it is fair to the others, which
is the same for all statements within a transaction, and what its reply tells
the client, which differs from stage to stage.  Only the end of a transaction
changes what everybody sees (`Fair.publish`).
-/

namespace Loyalty.Database.Server

open Decimal

variable {s : State} {i : ℕ} {tables : Tables} {u : UserId} {number : OrderNumber} {amount : Points}
variable {c c' : Connection}

/-! ## what statements tell -/

/-- A client that finds a row covering the amount has locked it. -/
theorem lockBalance_covers {now : Instant} {t : Transaction} {reply : Reply}
    {current : Option Points}
    (hexecute : execute i now tables .empty (.lockBalance u) = some (reply, t))
    (hread : reply.first? (·.points "current") = .ok current)
    (hcovers : covers current amount = true) :
    t = Transaction.empty.lock u ∧ ∃ a, tables.accounts u = some a ∧
      amount.toRat ≤ a.current.toRat := by
  simp only [execute, Transaction.account_empty] at hexecute
  cases hrow : tables.accounts u with
  | none =>
      rw [hrow] at hexecute
      cases hexecute
      cases hread
      contradiction
  | some a =>
      rw [hrow] at hexecute
      cases hexecute
      cases hread
      refine ⟨rfl, a, rfl, ?_⟩
      rw [← Numeric.toRat_toDecimal a.current, ← Numeric.toRat_sent a.current.toDecimal]
      exact le_iff_toRat.mp (of_decide_eq_true (p := amount ≤ Row.sent a.current.toDecimal) hcovers)

/-- A row that is locked is there to be changed. -/
theorem debitBalance_takes {now : Instant} {t : Transaction} {reply : Reply} {a : Account}
    (hexecute : execute i now tables (Transaction.empty.lock u) (.debitBalance u amount) =
      some (reply, t))
    (hrow : tables.accounts u = some a) (hcovers : amount.toRat ≤ a.current.toRat) :
    ∃ a', Takes tables u amount a' ∧ t = (Transaction.empty.lock u).write u a' := by
  simp only [execute, Transaction.account_lock, Transaction.account_empty, hrow] at hexecute
  obtain ⟨a', hdebit, heq⟩ := Option.map_eq_some_iff.mp hexecute
  cases heq
  exact ⟨a', ⟨a, hrow, hcovers, hdebit⟩, rfl⟩

/-- What is recorded is what the client is told. -/
theorem insertWithdrawal_records {now processedAt : Instant} {t t' : Transaction} {reply : Reply}
    {id : Uuid} (hcents : OnGrid Points.places amount.toRat)
    (hexecute : execute i now tables t (.insertWithdrawal ⟨id⟩ u number amount) = some (reply, t'))
    (hread : reply.one (·.timestamp "processed_at") = .ok processedAt) :
    ∃ record, IsRecord i (DebitStage.withdrawal u number amount id processedAt) record ∧
      t' = t.record record := by
  obtain ⟨sum, hsum, heq⟩ := Option.map_eq_some_iff.mp hexecute
  cases heq
  cases hread
  refine ⟨_, ?_, rfl⟩
  exact
    { id := rfl, userId := rfl, number := rfl, sum := Numeric.toRat_of_ofRat? hcents hsum,
      processedAt := rfl,
      client := rfl }

/-- A statement in the middle of a transaction that is answered was carried out there. -/
theorem Connection.Mid.executed {P : Transaction → Prop} {st : Statement} {reply : Reply}
    (hmid : c.Mid P) (h : Answers s i c (.run st) (.ok reply) tables c') :
    ∃ t t' now, P t ∧ execute i now s.tables t st = some (reply, t') ∧ c' = .within t' := by
  rcases hmid with rfl | ⟨t, rfl, ht⟩
  · cases h
  · cases h with
    | within hfree hexecute hheard =>
        rcases hheard with heq | ⟨e, heq⟩
        · cases heq
          exact ⟨_, _, _, ht, hexecute, rfl⟩
        · cases heq

/-! ## fairness -/

/-- A statement in the middle of a transaction is fair, whatever it is. -/
theorem Inv.fair_run (h : Inv s) (hc : (s.clients i).connection = c) {P : Transaction → Prop}
    (hmid : c.Mid P) {st : Statement} {r : Except Failure Reply}
    (hanswers : Answers s i c (.run st) r tables c') :
    tables = s.tables ∧ Fair s i s.tables c' := by
  cases hanswers with
  | within hfree hexecute hheard => exact ⟨rfl, h.fair_within hc hfree hexecute⟩
  | alone hfree hexecute hheard => rcases hmid with hidle | ⟨t, hidle, -⟩ <;> cases hidle
  | refuse c st e => exact ⟨rfl, h.fair_released c.locks_refused⟩

/-- The end of a transaction is fair when nobody else has locked the row that it changed. -/
theorem Fair.publish {t : Transaction} (hfree : ∀ j, j ≠ i → u ∉ (s.clients j).connection.locks)
    (hrows : ∀ v, v ≠ u → t.accounts v = none) (hrecords : ∀ record ∈ t.records, record.client = i)
    (hnotes : ∀ n ∈ t.notes, n.client = i) (hbalanced : ∀ v, Balanced (s.tables.publish t) v) :
    Fair s i (s.tables.publish t) .idle where
  locks _ _ _ hv := absurd hv List.not_mem_nil
  accounts j hj v hv := by
    have hvu : v ≠ u := by
      rintro rfl
      exact hfree j hj hv
    exact Transaction.account_of_none _ (hrows v hvu)
  records j hj := by
    simp only [Tables.recordsBy_publish, List.append_right_eq_self, List.filter_eq_nil_iff,
      decide_eq_true_eq]
    exact fun record hrecord hclient => hj (hclient.symm.trans (hrecords record hrecord))
  notes j hj := by
    simp only [Tables.notesBy_publish, List.append_right_eq_self, List.filter_eq_nil_iff,
      decide_eq_true_eq]
    exact fun n hn hclient => hj (hclient.symm.trans (hnotes n hn))
  balanced := hbalanced

/-- A debit that is committed is fair. -/
theorem Inv.fair_commit (h : Inv s) (htransfer : Transfer (.debit u number amount)) {a' : Account}
    {w : Withdrawal} {record : Record} (hw : IsWithdrawal u number amount w)
    (htakes : Takes s.tables u amount a') (hrecord : IsRecord i w record) {t : Transaction}
    (ht : t = ((Transaction.empty.lock u).write u a').record record)
    (hc : (s.clients i).connection = .within t) : Fair s i (s.tables.publish t) .idle := by
  obtain ⟨a, hrow, hcovers, hdebit⟩ := htakes
  obtain ⟨huser, -, hsum⟩ := hw
  have hcents := onGrid_of_ensureCents htransfer.2
  subst ht
  refine Fair.publish (u := u) ?_ ?_ ?_ ?_ ?_
  · intro j hj
    exact h.exclusive i j (Ne.symm hj) u (by rw [hc]; exact List.mem_cons_self ..)
  · intro v hv
    exact Transaction.accounts_write_of_ne _ _ _ hv
  · simpa using hrecord.client
  · simp
  · intro v
    refine (h.balanced v).publish_debit hcents hrow hcovers hdebit (hrecord.userId.trans huser) ?_
    rw [hrecord.sum, hsum]

/-- A credit that is carried out is fair. -/
theorem Inv.fair_credit (h : Inv s) (htransfer : Transfer (.credit u amount)) {a' : Account}
    (hfree : s.Free i (.creditBalance u amount))
    (hcredit : ((s.tables.accounts u).getD .zero).credit? amount = some a') :
    Fair s i (s.tables.publish
      ((Transaction.empty.write u a').note { userId := u, amount, client := i })) .idle := by
  refine Fair.publish (u := u) ?_ ?_ ?_ ?_ ?_
  · exact hfree u rfl
  · intro v hv
    exact Transaction.accounts_write_of_ne _ _ _ hv
  · simp
  · simp
  · intro v
    exact (h.balanced v).publish_credit htransfer.1 (onGrid_of_ensureCents htransfer.2) hcredit i

/-! ## steps of a debit -/

/-- What a reply of a statement says was read off a reply. -/
theorem exists_of_bind_ok {α : Type} {r : Except Failure Reply} {read : Reply → Except Failure α}
    {a : α} (h : r.bind read = .ok a) : ∃ reply, r = .ok reply ∧ read reply = .ok a := by
  cases r with
  | ok reply => exact ⟨reply, rfl, h⟩
  | error e => cases h

/-- One step of a debit is fair, and leaves what holds of a debit. -/
theorem DebitSound.answer (h : Inv s) (hc : (s.clients i).connection = c)
    (htransfer : Transfer (.debit u number amount)) {stage stage' : DebitStage}
    (hsound : DebitSound s.tables i u number amount stage c) {q : Question} {r : q.Answer}
    (hmoves : stage.Moves u number amount q r stage') (hanswers : Answers s i c q r tables c') :
    Fair s i tables c' ∧ DebitSound tables i u number amount stage' c' := by
  have hcents : OnGrid Points.places amount.toRat := onGrid_of_ensureCents htransfer.2
  have hrefused : Fair s i s.tables c.refused := h.fair_released c.locks_refused
  have hidle : Fair s i s.tables .idle := h.fair_released rfl
  cases hmoves with
  | starts =>
      cases hanswers with
      | start hheard => exact ⟨h.fair_released rfl, hsound, .inr ⟨_, rfl, rfl⟩⟩
  | unstarted e =>
      have hnone : DebitSound s.tables i u number amount
          (.ended (.error (e.toStore "begin_transaction"))) c' :=
        fun _ => hsound
      cases hanswers with
      | start hheard => exact ⟨h.fair_released rfl, hnone⟩
      | refuseStart c e => exact ⟨hrefused, hnone⟩
  | covers r current hread hcovers =>
      obtain ⟨hnone, hmid⟩ := hsound
      obtain ⟨rfl, hfair⟩ := h.fair_run hc hmid hanswers
      obtain ⟨reply, rfl, hreply⟩ := exists_of_bind_ok hread
      obtain ⟨t, t', now, rfl, hexecute, rfl⟩ := hmid.executed hanswers
      exact ⟨hfair, hnone, .inr ⟨t', rfl, lockBalance_covers hexecute hreply hcovers⟩⟩
  | declines r current hread hcovers =>
      obtain ⟨rfl, hfair⟩ := h.fair_run hc hsound.2 hanswers
      exact ⟨hfair, hsound.1⟩
  | unread r e hread =>
      obtain ⟨rfl, hfair⟩ := h.fair_run hc hsound.2 hanswers
      exact ⟨hfair, e.toStore_ne_insufficientFunds _⟩
  | takes reply =>
      obtain ⟨hnone, hmid⟩ := hsound
      obtain ⟨rfl, hfair⟩ := h.fair_run hc hmid hanswers
      obtain ⟨t, t', now, ⟨rfl, a, hrow, hcovers⟩, hexecute, rfl⟩ := hmid.executed hanswers
      exact ⟨hfair, hnone, .inr ⟨t', rfl, debitBalance_takes hexecute hrow hcovers⟩⟩
  | untaken e =>
      obtain ⟨rfl, hfair⟩ := h.fair_run hc hsound.2 hanswers
      exact ⟨hfair, e.toStore_ne_insufficientFunds _⟩
  | names id =>
      cases hanswers with
      | fresh c id => exact ⟨h.fair fun v hv => hc ▸ hv, hsound⟩
  | records id r processedAt hread =>
      obtain ⟨hnone, hmid⟩ := hsound
      obtain ⟨rfl, hfair⟩ := h.fair_run hc hmid hanswers
      obtain ⟨reply, rfl, hreply⟩ := exists_of_bind_ok hread
      obtain ⟨t, t', now, ⟨a', htakes, rfl⟩, hexecute, rfl⟩ := hmid.executed hanswers
      obtain ⟨record, hrecord, rfl⟩ := insertWithdrawal_records hcents hexecute hreply
      exact ⟨hfair, hnone, ⟨rfl, rfl, rfl⟩, .inr ⟨_, rfl, a', record, htakes, hrecord, rfl⟩⟩
  | unrecorded id r e hread =>
      obtain ⟨rfl, hfair⟩ := h.fair_run hc hsound.2 hanswers
      exact ⟨hfair, e.toStore_ne_insufficientFunds _⟩
  | commits w =>
      obtain ⟨hnone, hw, rfl | ⟨t, rfl, a', record, htakes, hrecord, rfl⟩⟩ := hsound
      -- Nothing acknowledges the end of a transaction whose connection is gone.
      · cases hanswers
      · cases hanswers with
        | commit hheard =>
            refine ⟨h.fair_commit htransfer hw htakes hrecord rfl hc, hw, record, ?_, hrecord⟩
            simp [hnone, hrecord.client]
  | uncommitted w e =>
      obtain ⟨-, hw, hmid⟩ := hsound
      -- The transaction may have ended before the failure, so nothing is known of the record.
      refine ⟨?_, e.toStore_ne_insufficientFunds _⟩
      obtain rfl | ⟨t, rfl, a', record, htakes, hrecord, rfl⟩ := hmid
      · cases hanswers with
        | refuseCommit c e => exact hrefused
      · cases hanswers with
        | commit hheard => exact h.fair_commit htransfer hw htakes hrecord rfl hc
        | refuseCommit c e => exact hrefused
  | refuses =>
      cases hanswers with
      | rollback hheard => exact ⟨hidle, fun _ => hsound⟩
  | unrefused e =>
      have hend := e.toStore_ne_insufficientFunds "rollback"
      cases hanswers with
      | rollback hheard => exact ⟨hidle, hend⟩
      | refuseRollback c e => exact ⟨hrefused, hend⟩
  | givesUp e =>
      cases hanswers with
      | abandon c => exact ⟨hidle, fun he => absurd he hsound⟩

/-- A debit whose connection is gone is sound: what it would have changed is not there. -/
theorem DebitSound.drop {stage : DebitStage} (h : DebitSound tables i u number amount stage c) :
    DebitSound tables i u number amount stage .closed := by
  cases stage with
  | locking | debiting | naming | inserting id => exact ⟨h.1, .inl rfl⟩
  | committing w => exact ⟨h.1, h.2.1, .inl rfl⟩
  | starting | refusing | givingUp e => exact h
  | ended r => cases r <;> exact h

/-! ## steps of a credit -/

/-- The one step of a credit is fair, and leaves what holds of a credit. -/
theorem CreditSound.answer (h : Inv s) (htransfer : Transfer (.credit u amount)) {q : Question}
    {next : q.Answer → Session Unit} {r : q.Answer}
    (hsound : CreditSound s.tables i u amount (.ask q next) c)
    (hanswers : Answers s i c q r tables c') :
    Fair s i tables c' ∧ CreditSound tables i u amount (next r) c' := by
  obtain ⟨hrest, hnone, hconnection⟩ | ⟨r, hrest, -⟩ := hsound
  · cases hrest
    cases hanswers with
    | within hfree hexecute hheard => rcases hconnection with hidle | hidle <;> cases hidle
    | alone hfree hexecute hheard =>
        obtain ⟨a', hcredit, heq⟩ := Option.map_eq_some_iff.mp hexecute
        cases heq
        rw [Transaction.account_empty] at hcredit
        refine ⟨h.fair_credit htransfer hfree hcredit, .inr ⟨_, rfl, fun _ => ?_⟩⟩
        simp [hnone]
    | refuse c st e => exact ⟨h.fair_released c.locks_refused, .inr ⟨_, rfl, nofun⟩⟩
  · cases hrest

/-! ## runs -/

/-- A client that has not begun is sound. -/
theorem sound_start {call : StoreCall} (h : Transfer call) :
    Sound .empty i { call, rest := Database.call call, connection := .idle } := by
  cases call with
  | credit u amount => exact ⟨h, .inl ⟨rfl, rfl, .inl rfl⟩⟩
  | debit u number amount => exact ⟨h, .starting, rfl, rfl⟩
  | _ => exact h.elim

theorem inv_start {calls : ℕ → StoreCall} (hcalls : ∀ i, Transfer (calls i)) :
    Inv (start calls) where
  sound i := sound_start (hcalls i)
  exclusive _ _ _ _ hu := absurd hu List.not_mem_nil
  balanced := balanced_empty

/-- An answer to a client is fair, and leaves what holds of it. -/
theorem Inv.answer (h : Inv s) {call : StoreCall} {rest : Session call.Value} {q : Question}
    {next : q.Answer → Session call.Value} {r : q.Answer} (hclient : s.clients i = ⟨call, rest, c⟩)
    (hasks : rest = .ask q next) (hanswers : Answers s i c q r tables c') :
    Fair s i tables c' ∧ Sound tables i ⟨call, next r, c'⟩ := by
  have hsound := h.sound i
  rw [hclient] at hsound
  have hc : (s.clients i).connection = c := by rw [hclient]
  subst hasks
  cases call with
  | credit u amount =>
      obtain ⟨htransfer, hcredit⟩ := hsound
      obtain ⟨hfair, hcredit'⟩ := hcredit.answer h htransfer hanswers
      exact ⟨hfair, htransfer, hcredit'⟩
  | debit u number amount =>
      obtain ⟨htransfer, stage, hrest, hdebit⟩ := hsound
      obtain ⟨stage', hmoves, hnext⟩ := DebitStage.moves hrest.symm r
      obtain ⟨hfair, hdebit'⟩ := hdebit.answer h hc htransfer hmoves hanswers
      exact ⟨hfair, htransfer, stage', hnext, hdebit'⟩
  | _ => exact hsound.elim

/-- A client whose connection is gone is sound. -/
theorem Sound.drop {client : Client} (h : Sound tables i client) :
    Sound tables i { client with connection := .closed } := by
  obtain ⟨call, rest, c⟩ := client
  cases call with
  | credit u amount =>
      obtain ⟨htransfer, ⟨hrest, hnone, -⟩ | hdone⟩ := h
      · exact ⟨htransfer, .inl ⟨hrest, hnone, .inr rfl⟩⟩
      · exact ⟨htransfer, .inr hdone⟩
  | debit u number amount =>
      obtain ⟨htransfer, stage, hrest, hdebit⟩ := h
      exact ⟨htransfer, stage, hrest, hdebit.drop⟩
  | _ => exact h.elim

/-- Every step keeps what holds of a server and its clients. -/
theorem Inv.step {s' : State} (h : Inv s) (hstep : Step s s') : Inv s' := by
  cases hstep with
  | answer hasks hanswers =>
      obtain ⟨hfair, hsound⟩ := h.answer rfl hasks hanswers
      exact h.after hfair hsound
  | drop i => exact h.after (h.fair_released rfl) (h.sound i).drop

theorem Reachable.inv {calls : ℕ → StoreCall} (hcalls : ∀ i, Transfer (calls i))
    (h : Reachable calls s) :
    Inv s := by
  induction h with
  | start => exact inv_start hcalls
  | step _ hstep ih => exact ih.step hstep

/-- What the tables and the results of the clients say of each other. -/
structure Conserved (s : State) : Prop where
  /-- No row is below zero. -/
  nonneg : ∀ u a, s.tables.accounts u = some a → 0 ≤ a.current.toRat
  /-- A row has what was credited and not withdrawn. -/
  worth : ∀ u a, s.tables.accounts u = some a →
    a.current.toRat + a.withdrawn.toRat = Points.total (s.tables.creditsOf u)
  /-- What was withdrawn is what the records say. -/
  recorded : ∀ u a, s.tables.accounts u = some a →
    a.withdrawn.toRat = ((s.tables.recordsOf u).map (·.sum.toRat)).sum
  /-- A user without a row was never credited anything and has withdrawn nothing. -/
  unknown : ∀ u, s.tables.accounts u = none →
    Points.total (s.tables.creditsOf u) = 0 ∧ ((s.tables.recordsOf u).map (·.sum.toRat)).sum = 0
  /-- A debit that succeeded has one record, of what its client was told. -/
  debited : ∀ i u number amount w c,
    s.clients i = { call := .debit u number amount, rest := .done (.ok w), connection := c } →
      IsWithdrawal u number amount w ∧ ∃ record, s.tables.recordsBy i = [record] ∧
        IsRecord i w record
  /-- A debit that was not covered has no record. -/
  declined : ∀ i u number amount c,
    s.clients i =
        { call := .debit u number amount, rest := .done (.error .insufficientFunds),
          connection := c } →
      s.tables.recordsBy i = []
  /-- A credit that succeeded was carried out once. -/
  credited : ∀ i u amount c,
    s.clients i = { call := .credit u amount, rest := .done (.ok ()), connection := c } →
      s.tables.notesBy i = [{ userId := u, amount, client := i }]

/-- A stage with nothing left to do is the end. -/
theorem DebitSound.of_done {stage : DebitStage} {r : Except StoreError Withdrawal}
    (h : DebitSound tables i u number amount stage c)
    (hrest : .done r = stage.program u number amount) :
    DebitSound tables i u number amount (.ended r) c := by
  cases stage with
  | ended r' =>
      cases hrest
      exact h
  | _ => cases hrest

/-- Credits and debits are neither lost nor invented, however the steps of their clients interleave
and whatever fails. -/
theorem Reachable.conserved {calls : ℕ → StoreCall} (hcalls : ∀ i, Transfer (calls i))
    (h : Reachable calls s) : Conserved s := by
  obtain ⟨hsound, -, hbalanced⟩ := h.inv hcalls
  have hrow : ∀ u a, s.tables.accounts u = some a → (s.tables.accounts u).getD .zero = a := by
    intro u a ha
    rw [ha, Option.getD_some]
  refine ⟨?_, ?_, ?_, ?_, ?_, ?_, ?_⟩
  · intro u a ha
    exact hrow u a ha ▸ (hbalanced u).nonneg
  · intro u a ha
    exact hrow u a ha ▸ (hbalanced u).worth
  · intro u a ha
    exact hrow u a ha ▸ (hbalanced u).recorded
  · intro u hu
    obtain ⟨-, hworth, hrecorded⟩ := hbalanced u
    rw [hu, Option.getD_none] at hworth hrecorded
    constructor
    · simpa [Account.worth, Account.zero] using hworth.symm
    · simpa [Account.zero] using hrecorded.symm
  · intro i u number amount w c hi
    have hs := hsound i
    rw [hi] at hs
    obtain ⟨-, stage, hrest, hdebit⟩ := hs
    exact hdebit.of_done hrest
  · intro i u number amount c hi
    have hs := hsound i
    rw [hi] at hs
    obtain ⟨-, stage, hrest, hdebit⟩ := hs
    exact hdebit.of_done hrest rfl
  · intro i u amount c hi
    have hs := hsound i
    rw [hi] at hs
    obtain ⟨-, ⟨hrest, -, -⟩ | ⟨r, hrest, hcredit⟩⟩ := hs
    · cases hrest
    · cases hrest
      exact hcredit rfl

/-- A credit, and debits by the same user. -/
def creditAndDebits (credited debited : Points) : ℕ → StoreCall
  | 0 => .credit default credited
  | _ => .debit default default debited

/-- After a credit of 5.00 one debit of 3.00 succeeds and the next one is not covered. -/
theorem Reachable.conserved_credit_debits :
    let calls := creditAndDebits { coeff := 500, scale := 2 } { coeff := 300, scale := 2 }
    ∃ s w, Reachable calls s ∧ Conserved s ∧
      s.clients 1 = ⟨calls 1, .done (.ok w), .idle⟩ ∧
      s.clients 2 = ⟨calls 2, .done (.error .insufficientFunds), .idle⟩ ∧
      (s.tables.accounts default).map (·.current.cents) = some 200 := by
  intro calls
  let five : Points := { coeff := 500, scale := 2 }
  let three : Points := { coeff := 300, scale := 2 }
  let credited : Account := { current := ⟨500, by decide⟩, withdrawn := .zero }
  let debited : Account := { current := ⟨200, by decide⟩, withdrawn := ⟨300, by decide⟩ }
  have hcalls : ∀ i, Transfer (calls i) := by
    intro i
    cases i with
    | zero => exact ⟨by decide, by decide⟩
    | succ i => exact ⟨by decide, by decide⟩
  have hcredit : Account.zero.credit? five = some credited := by decide +kernel
  have hdebit : credited.debit? three = some debited := by decide +kernel
  have hsum : Numeric.ofRat? three.toRat = some ⟨300, by decide⟩ := by decide +kernel
  have hexecute : execute 0 default .empty .empty (.creditBalance default five) =
      some (⟨[], 1⟩, (Transaction.empty.write default credited).note ⟨default, five, 0⟩) :=
    congrArg (Option.map _) hcredit
  have hstart : Reachable calls (Server.start calls) := .start
  have hcredited := hstart.step
    (.answer (i := 0) rfl (.alone (fun _ _ _ _ => List.not_mem_nil) hexecute (.inl rfl)))
  have hdebited :=
    hcredited.debit_alone (i := 1) (by rintro (_ | j) _ <;> rfl) rfl rfl (by decide +kernel)
    hdebit hsum default default
  have hdeclined :=
    hdebited.decline_alone (i := 2) (by rintro (_ | _ | j) _ <;> rfl) rfl (by decide +kernel)
  exact ⟨_, _, hdeclined, hdeclined.conserved hcalls, rfl, rfl, rfl⟩

end Loyalty.Database.Server
