import Loyalty.Proofs.Database.Debit
import Loyalty.Proofs.Database.Server

/-!
# Loyalty.Proofs.Database.Transfers

Credits and debits of many clients on one server, none of them lost or invented.

Every client relies on little: the row that its transaction has locked stays as
it read it, and nobody else adds records or credits in its name (`Fair`).  A
debit that covered the amount when the row was locked covers it still when the
row is changed and when the change is committed (`DebitSound`).  So every commit
keeps the books: what a row has and has withdrawn is what was credited, and what
it has withdrawn is what the records say (`Balanced`).

Nothing here rests on the checks of the schema, which only refuse more.
-/

namespace Loyalty.Database.Server

open Decimal

/-- A call that moves a positive amount of whole cents. -/
def Transfer : StoreCall → Prop
  | .credit _ amount => 0 < amount.coeff ∧ ensureCents amount = .ok ()
  | .debit _ _ amount => 0 < amount.coeff ∧ ensureCents amount = .ok ()
  | _ => False

/-! ## books -/

/-- What the rows of a user come to in the books. -/
structure Balanced (tables : Tables) (u : UserId) : Prop where
  nonneg : 0 ≤ ((tables.accounts u).getD .zero).current.toRat
  worth : ((tables.accounts u).getD .zero).worth = Points.total (tables.creditsOf u)
  recorded : ((tables.accounts u).getD .zero).withdrawn.toRat =
    ((tables.recordsOf u).map (·.sum.toRat)).sum

theorem balanced_empty (u : UserId) : Balanced .empty u where
  nonneg := by simp [Tables.empty, Account.zero]
  worth := by simp [Tables.empty, Account.zero, Account.worth, Tables.creditsOf]
  recorded := by simp [Tables.empty, Account.zero, Tables.recordsOf]

section

variable {tables : Tables} {u v : UserId} {amount : Points} {a a' : Account}

/-- A user of whom a transaction says nothing is left as before. -/
theorem Balanced.publish_of_ne (h : Balanced tables v) {t : Transaction}
    (haccount : t.accounts v = none) (hrecords : ∀ r ∈ t.records, r.userId ≠ v)
    (hnotes : ∀ n ∈ t.notes, n.userId ≠ v) :
    Balanced (tables.publish t) v := by
  have hrow : (tables.publish t).accounts v = tables.accounts v :=
    Transaction.account_of_none _ haccount
  have hcredits : (tables.publish t).creditsOf v = tables.creditsOf v := by simpa using hnotes
  have hrecord : (tables.publish t).recordsOf v = tables.recordsOf v := by simpa using hrecords
  exact
    { nonneg := by rw [hrow]; exact h.nonneg
      worth := by rw [hrow, hcredits]; exact h.worth
      recorded := by rw [hrow, hrecord]; exact h.recorded }

/-- A credit that is committed is a credit in the books. -/
theorem Balanced.publish_credit (h : Balanced tables v) (hpos : 0 < amount.coeff)
    (hcents : OnGrid Points.places amount.toRat)
    (hcredit : ((tables.accounts u).getD .zero).credit? amount = some a') (client : ℕ) :
    Balanced
      (tables.publish ((Transaction.empty.write u a').note { userId := u, amount, client })) v := by
  set t := (Transaction.empty.write u a').note { userId := u, amount, client } with ht
  by_cases huv : v = u
  · subst huv
    obtain ⟨hcurrent, hwithdrawn⟩ := Account.credit_exact hcents hcredit
    obtain ⟨hnonneg, hworth, hrecorded⟩ := h
    have hamount := toRat_pos_iff.mpr hpos
    have hrow : ((tables.publish t).accounts v).getD .zero = a' := by simp [ht]
    have hcredits : Points.total ((tables.publish t).creditsOf v) =
        Points.total (tables.creditsOf v) + amount.toRat := by simp [ht]
    have hrecords : (tables.publish t).recordsOf v = tables.recordsOf v := by simp [ht]
    rw [Account.worth] at hworth
    constructor
    · rw [hrow, hcurrent]
      linarith
    · rw [hrow, hcredits, Account.worth, hcurrent, hwithdrawn]
      linarith
    · rw [hrow, hrecords, hwithdrawn, hrecorded]
  · refine h.publish_of_ne ?_ ?_ ?_
    · exact Transaction.accounts_write_of_ne _ _ _ huv
    · simp [ht]
    · simpa [ht] using Ne.symm huv

/-- A debit that is committed with its record is one in the books. -/
theorem Balanced.publish_debit (h : Balanced tables v) (hcents : OnGrid Points.places amount.toRat)
    (hrow : tables.accounts u = some a) (hcovers : amount.toRat ≤ a.current.toRat)
    (hdebit : a.debit? amount = some a') {record : Record} (huser : record.userId = u)
    (hsum : record.sum.toRat = amount.toRat) :
    Balanced (tables.publish (((Transaction.empty.lock u).write u a').record record)) v := by
  set t := ((Transaction.empty.lock u).write u a').record record with ht
  by_cases huv : v = u
  · subst huv
    obtain ⟨hcurrent, hwithdrawn⟩ := Account.debit_exact hcents hdebit
    obtain ⟨-, hworth, hrecorded⟩ := h
    rw [hrow, Option.getD_some] at hworth hrecorded
    have hrow' : ((tables.publish t).accounts v).getD .zero = a' := by simp [ht]
    have hcredits : (tables.publish t).creditsOf v = tables.creditsOf v := by simp [ht]
    have hrecords : (tables.publish t).recordsOf v = tables.recordsOf v ++ [record] := by
      simp [ht, huser]
    rw [Account.worth] at hworth
    constructor
    · rw [hrow', hcurrent]
      linarith
    · rw [hrow', hcredits, Account.worth, hcurrent, hwithdrawn]
      linarith
    · rw [hrow', hrecords, hwithdrawn, hrecorded]
      simp [hsum]
  · refine h.publish_of_ne ?_ ?_ ?_
    · exact Transaction.accounts_write_of_ne _ _ _ huv
    · simpa [ht, huser] using Ne.symm huv
    · simp [ht]

end

/-! ## what clients rely on -/

/-- A row that covers an amount, and what the amount leaves of it. -/
def Takes (tables : Tables) (u : UserId) (amount : Points) (a' : Account) : Prop :=
  ∃ a, tables.accounts u = some a ∧ amount.toRat ≤ a.current.toRat ∧ a.debit? amount = some a'

/-- The record of a withdrawal by a client. -/
structure IsRecord (i : ℕ) (w : Withdrawal) (record : Record) : Prop where
  id : record.id = w.id
  userId : record.userId = w.userId
  number : record.number = w.orderNumber
  sum : record.sum.toRat = w.sum.toRat
  processedAt : record.processedAt = w.processedAt
  client : record.client = i

/-- A withdrawal of an amount by a user for a number. -/
def IsWithdrawal (u : UserId) (number : OrderNumber) (amount : Points) (w : Withdrawal) : Prop :=
  w.userId = u ∧ w.orderNumber = number ∧ w.sum = amount

/-- A connection within a transaction that is as it should be, or gone. -/
def Connection.Mid (c : Connection) (P : Transaction → Prop) : Prop :=
  c = .closed ∨ ∃ t, c = .within t ∧ P t

/-- What holds of a debit at a stage. -/
def DebitSound (tables : Tables) (i : ℕ) (u : UserId) (number : OrderNumber) (amount : Points) :
    DebitStage → Connection → Prop
  | .starting, _ => tables.recordsBy i = []
  | .locking, c => tables.recordsBy i = [] ∧ c.Mid (· = .empty)
  | .debiting, c => tables.recordsBy i = [] ∧ c.Mid fun t => t = Transaction.empty.lock u ∧
      ∃ a, tables.accounts u = some a ∧ amount.toRat ≤ a.current.toRat
  | .naming, c | .inserting _, c => tables.recordsBy i = [] ∧ c.Mid fun t =>
      ∃ a', Takes tables u amount a' ∧ t = (Transaction.empty.lock u).write u a'
  | .committing w, c => tables.recordsBy i = [] ∧ IsWithdrawal u number amount w ∧ c.Mid fun t =>
      ∃ a' record, Takes tables u amount a' ∧ IsRecord i w record ∧
        t = ((Transaction.empty.lock u).write u a').record record
  | .refusing, _ => tables.recordsBy i = []
  | .givingUp e, _ => e ≠ .insufficientFunds
  | .ended (.ok w), _ =>
    IsWithdrawal u number amount w ∧ ∃ record, tables.recordsBy i = [record] ∧ IsRecord i w record
  | .ended (.error e), _ => e = .insufficientFunds → tables.recordsBy i = []

/-- What holds of a credit before and after its statement. -/
def CreditSound (tables : Tables) (i : ℕ) (u : UserId) (amount : Points) (rest : Session Unit)
    (c : Connection) :
    Prop :=
  (rest = Database.call (.credit u amount) ∧ tables.notesBy i = [] ∧ (c = .idle ∨ c = .closed)) ∨
    ∃ r, rest = .done r ∧ (r = .ok () → tables.notesBy i = [{ userId := u, amount, client := i }])

/-- What holds of a client. -/
def Sound (tables : Tables) (i : ℕ) : Client → Prop
  | ⟨.credit u amount, rest, c⟩ => Transfer (.credit u amount) ∧
    CreditSound tables i u amount rest c
  | ⟨.debit u number amount, rest, c⟩ =>
    Transfer (.debit u number amount) ∧
      ∃ stage : DebitStage, rest = stage.program u number amount ∧
        DebitSound tables i u number amount stage c
  | _ => False

/-- What holds of a server and its clients. -/
structure Inv (s : State) : Prop where
  sound : ∀ i, Sound s.tables i (s.clients i)
  exclusive : ∀ i j, i ≠ j →
    ∀ u ∈ (s.clients i).connection.locks, u ∉ (s.clients j).connection.locks
  balanced : ∀ u, Balanced s.tables u

/-- What the others rely on when a client takes a step. -/
structure Fair (s : State) (i : ℕ) (tables : Tables) (c : Connection) : Prop where
  locks : ∀ j, j ≠ i → ∀ u ∈ c.locks, u ∉ (s.clients j).connection.locks
  accounts : ∀ j, j ≠ i → ∀ u ∈ (s.clients j).connection.locks,
    tables.accounts u = s.tables.accounts u
  records : ∀ j, j ≠ i → tables.recordsBy j = s.tables.recordsBy j
  notes : ∀ j, j ≠ i → tables.notesBy j = s.tables.notesBy j
  balanced : ∀ u, Balanced tables u

section

variable {tables tables' : Tables} {i : ℕ} {u : UserId} {number : OrderNumber} {amount : Points}

theorem Takes.frame {a' : Account} (h : Takes tables u amount a')
    (hrow : tables'.accounts u = tables.accounts u) :
    Takes tables' u amount a' := by
  obtain ⟨a, ha, hrest⟩ := h
  exact ⟨a, hrow.trans ha, hrest⟩

theorem Connection.Mid.imp {c : Connection} {P Q : Transaction → Prop} (h : c.Mid P)
    (himp : ∀ t, c = .within t → P t → Q t) : c.Mid Q := by
  rcases h with rfl | ⟨t, rfl, ht⟩
  · exact .inl rfl
  · exact .inr ⟨t, rfl, himp t rfl ht⟩

/-- What holds of a debit goes on holding while its records and its locked rows stay. -/
theorem DebitSound.frame {stage : DebitStage} {c : Connection}
    (h : DebitSound tables i u number amount stage c)
    (hrecords : tables'.recordsBy i = tables.recordsBy i)
    (hrows : ∀ v ∈ c.locks, tables'.accounts v = tables.accounts v) :
    DebitSound tables' i u number amount stage c := by
  -- Only rows that the client has locked are known to stay.
  have hrow : ∀ {t : Transaction}, c = .within t → u ∈ t.locks →
      tables'.accounts u = tables.accounts u := by
    rintro t rfl hu
    exact hrows u hu
  cases stage with
  | starting => exact hrecords.trans h
  | locking => exact ⟨hrecords.trans h.1, h.2⟩
  | debiting =>
      refine ⟨hrecords.trans h.1, h.2.imp ?_⟩
      rintro t hc ⟨rfl, a, ha, hcovers⟩
      exact ⟨rfl, a, (hrow hc (List.mem_cons_self ..)).trans ha, hcovers⟩
  | naming | inserting id =>
      refine ⟨hrecords.trans h.1, h.2.imp ?_⟩
      rintro t hc ⟨a', htakes, rfl⟩
      exact ⟨a', htakes.frame (hrow hc (List.mem_cons_self ..)), rfl⟩
  | committing w =>
      refine ⟨hrecords.trans h.1, h.2.1, h.2.2.imp ?_⟩
      rintro t hc ⟨a', record, htakes, hrecord, rfl⟩
      exact ⟨a', record, htakes.frame (hrow hc (List.mem_cons_self ..)), hrecord, rfl⟩
  | refusing => exact hrecords.trans h
  | givingUp e => exact h
  | ended r =>
      cases r with
      | ok w =>
          obtain ⟨hw, record, hrecord, his⟩ := h
          exact ⟨hw, record, hrecords.trans hrecord, his⟩
      | error e => exact fun he => hrecords.trans (h he)

theorem Sound.frame {client : Client} (h : Sound tables i client)
    (hrecords : tables'.recordsBy i = tables.recordsBy i)
    (hnotes : tables'.notesBy i = tables.notesBy i)
    (hrows : ∀ v ∈ client.connection.locks, tables'.accounts v = tables.accounts v) :
    Sound tables' i client := by
  obtain ⟨call, rest, c⟩ := client
  cases call with
  | credit u amount =>
      obtain ⟨htransfer, hcredit⟩ := h
      refine ⟨htransfer, ?_⟩
      rcases hcredit with ⟨hrest, hnone, hc⟩ | ⟨r, hrest, hr⟩
      · exact .inl ⟨hrest, hnotes.trans hnone, hc⟩
      · exact .inr ⟨r, hrest, fun hok => hnotes.trans (hr hok)⟩
  | debit u number amount =>
      obtain ⟨htransfer, stage, hrest, hdebit⟩ := h
      exact ⟨htransfer, stage, hrest, hdebit.frame hrecords hrows⟩
  | _ => exact h.elim

end

section

variable {s : State} {i : ℕ}

/-- A fair step of a client after which the client is sound. -/
theorem Inv.after (h : Inv s) {tables : Tables} {client : Client}
    (hfair : Fair s i tables client.connection) (hsound : Sound tables i client) :
    Inv (s.after i tables client) where
  sound j := by
    by_cases hj : j = i
    · subst hj
      simpa [State.after] using hsound
    · simp only [State.after, Function.update_of_ne hj]
      exact (h.sound j).frame (hfair.records j hj) (hfair.notes j hj) (hfair.accounts j hj)
  exclusive j k hjk v hv := by
    simp only [State.after] at hv ⊢
    by_cases hj : j = i
    · subst hj
      rw [Function.update_self] at hv
      rw [Function.update_of_ne (Ne.symm hjk)]
      exact hfair.locks k (Ne.symm hjk) v hv
    · rw [Function.update_of_ne hj] at hv
      by_cases hk : k = i
      · subst hk
        rw [Function.update_self]
        exact fun hv' => hfair.locks j hj v hv' hv
      · rw [Function.update_of_ne hk]
        exact h.exclusive j k hjk v hv
  balanced := hfair.balanced

/-- A step that changes no table and locks nothing new is fair. -/
theorem Inv.fair (h : Inv s) {c : Connection}
    (hlocks : ∀ u ∈ c.locks, u ∈ (s.clients i).connection.locks) :
    Fair s i s.tables c where
  locks j hj u hu := h.exclusive i j (Ne.symm hj) u (hlocks u hu)
  accounts _ _ _ _ := rfl
  records _ _ := rfl
  notes _ _ := rfl
  balanced := h.balanced

/-- A step that changes no table and lets go of all locks is fair. -/
theorem Inv.fair_released (h : Inv s) {c : Connection} (hc : c.locks = []) :
    Fair s i s.tables c := by
  refine h.fair fun u hu => ?_
  rw [hc] at hu
  exact absurd hu List.not_mem_nil

@[simp] theorem Connection.locks_refused (c : Connection) : c.refused.locks = [] := by
  cases c <;> rfl

/-- A statement locks no row but its own. -/
theorem locks_of_execute {now : Instant} {tables : Tables} {t t' : Transaction} {st : Statement}
    {reply : Reply} (h : execute i now tables t st = some (reply, t')) :
    ∀ u ∈ t'.locks, u ∈ t.locks ∨ u ∈ st.row? := by
  intro u hu
  cases st with
  | creditBalance v amount =>
      obtain ⟨a, -, heq⟩ := Option.map_eq_some_iff.mp h
      cases heq
      rcases List.mem_cons.mp hu with rfl | hu
      · exact .inr rfl
      · exact .inl hu
  | lockBalance v =>
      simp only [execute] at h
      split at h
      · cases h
        exact .inl hu
      · cases h
        rcases List.mem_cons.mp hu with rfl | hu
        · exact .inr rfl
        · exact .inl hu
  | debitBalance v amount =>
      simp only [execute] at h
      split at h
      · cases h
        exact .inl hu
      · obtain ⟨a, -, heq⟩ := Option.map_eq_some_iff.mp h
        cases heq
        rcases List.mem_cons.mp hu with rfl | hu
        · exact .inr rfl
        · exact .inl hu
  | insertWithdrawal id v number amount =>
      obtain ⟨a, -, heq⟩ := Option.map_eq_some_iff.mp h
      cases heq
      exact .inl hu
  | _ => cases h

/-- A statement within a transaction is fair: it changes no table, and its row was free. -/
theorem Inv.fair_within (h : Inv s) {now : Instant} {t t' : Transaction} {st : Statement}
    {reply : Reply} (hc : (s.clients i).connection = .within t) (hfree : s.Free i st)
    (hexecute : execute i now s.tables t st = some (reply, t')) :
    Fair s i s.tables (.within t') where
  locks j hj u hu := by
    rcases locks_of_execute hexecute u hu with ht | hrow
    · exact h.exclusive i j (Ne.symm hj) u (by rw [hc]; exact ht)
    · exact hfree u hrow j hj
  accounts _ _ _ _ := rfl
  records _ _ := rfl
  notes _ _ := rfl
  balanced := h.balanced

end

end Loyalty.Database.Server
