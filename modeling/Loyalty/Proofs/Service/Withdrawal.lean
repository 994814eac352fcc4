import Loyalty.Proofs.Http.Isolation
import Loyalty.Proofs.Memory.Ledger

/-!
# Loyalty.Proofs.Service.Withdrawal

How a withdrawal from the stores in memory ends.

`Refusal` lists the reasons for which a withdrawal may be refused, in the order
in which they are looked for, and says of each when it applies: in terms of the
text, of the exact amounts, and of the balance.  A balance that is in range and
in cents leaves no other way to end: if no reason applies the withdrawal is
granted (`run_withdraw_of_payable`), and otherwise the first one that does is
given and the stores are as they were (`run_withdraw_of_isFirst`).
-/

namespace Loyalty.Ledger

open Decimal Store Store.Memory

/-! ## reasons -/

/-- Why a withdrawal may be refused. -/
inductive Refusal
  /-- There is no number. -/
  | blank
  | notPositive
  /-- There are fractions of a cent. -/
  | subCent
  /-- The text is no number. -/
  | noNumber
  /-- There is less than the amount. -/
  | uncovered
  /-- More would have been withdrawn than a balance can hold. -/
  | noRoom
  deriving DecidableEq

namespace Refusal

/-- All reasons, in the order in which they are looked for. -/
def all : List Refusal := [blank, notPositive, subCent, noNumber, uncovered, noRoom]

/-- Whether there is a reason to refuse an amount on the order that a text names to who has a
balance. -/
def Applies (b : Balance) (raw : String) (amount : Points) : Refusal → Prop
  | blank => Text.isBlankText raw = true
  | notPositive => amount.toRat ≤ 0
  | subCent => ¬ OnGrid Points.places amount.toRat
  | noNumber => Luhn.isValid (Text.trim raw) = false
  | uncovered => b.current.toRat < amount.toRat
  | noRoom => Points.max.toRat < b.withdrawn.toRat + amount.toRat

/-- What a withdrawal on a text ends in that is refused. -/
def error (raw : String) : Refusal → ServiceError
  | blank => .domain (.validation "order number is required")
  | notPositive => .domain (.validation "amount must be positive")
  | subCent => .domain (.validation "amount has more than two decimal places")
  | noNumber => .domain (.invalidOrderNumber (Text.trim raw))
  | uncovered => .domain .insufficientFunds
  | noRoom => .store (.database "validation failed: balance out of range")

/-- A reason applies and none before it does. -/
def IsFirst (b : Balance) (raw : String) (amount : Points) (refusal : Refusal) : Prop :=
  refusal.Applies b raw amount ∧ ∀ other, all.idxOf other < all.idxOf refusal →
    ¬ other.Applies b raw amount

/-- Where a reason applies, one is the first that does. -/
theorem exists_isFirst {b : Balance} {raw : String} {amount : Points}
    (h : ∃ refusal, Applies b raw amount refusal) : ∃ refusal, IsFirst b raw amount refusal := by
  obtain ⟨first, happlies, hmin⟩ :=
    (measure all.idxOf).wf.has_min {refusal | Applies b raw amount refusal} h
  exact ⟨first, happlies, fun other hlt hother => hmin other hother hlt⟩

end Refusal

/-- What a withdrawal needs to be granted. -/
structure Payable (b : Balance) (raw : String) (amount : Points) : Prop where
  given : Text.isBlankText raw = false
  positive : 0 < amount.toRat
  cents : OnGrid Points.places amount.toRat
  valid : Luhn.isValid (Text.trim raw) = true
  covered : amount.toRat ≤ b.current.toRat
  room : b.withdrawn.toRat + amount.toRat ≤ Points.max.toRat

/-- A withdrawal is granted where there is no reason to refuse it. -/
theorem payable_iff {b : Balance} {raw : String} {amount : Points} :
    Payable b raw amount ↔ ∀ refusal, ¬ Refusal.Applies b raw amount refusal := by
  constructor
  · intro h refusal
    cases refusal with
    | blank => exact Bool.eq_false_iff.mp h.given
    | notPositive => exact h.positive.not_ge
    | subCent => exact not_not_intro h.cents
    | noNumber => exact ne_true_of_eq_false.mt (not_not_intro h.valid)
    | uncovered => exact h.covered.not_gt
    | noRoom => exact h.room.not_gt
  · intro h
    exact
      { given := Bool.eq_false_iff.mpr (h .blank)
        positive := not_le.mp (h .notPositive)
        cents := not_not.mp (h .subCent)
        valid := Bool.not_eq_false _ ▸ h .noNumber
        covered := not_lt.mp (h .uncovered)
        room := not_lt.mp (h .noRoom) }

/-! ## checks -/

section

variable {raw : String}

theorem ensureNumber_of_blank (h : Text.isBlankText raw = true) :
    Orders.ensureNumber raw = .error (.validation "order number is required") := if_pos h

theorem ensureNumber_of_given (h : ¬ Text.isBlankText raw = true) :
    Orders.ensureNumber raw = .ok () := if_neg h

theorem parse_of_not_isValid (h : Luhn.isValid (Text.trim raw) = false) :
    OrderNumber.parse raw = .error (.invalidOrderNumber (Text.trim raw)) := by
  rw [OrderNumber.parse, OrderNumber.parse?_eq_none_iff.mpr h]

theorem exists_parse (h : ¬ Luhn.isValid (Text.trim raw) = false) :
    ∃ n : OrderNumber, OrderNumber.parse raw = .ok n ∧ n.text = Text.trim raw := by
  have hvalid := Bool.not_eq_false _ ▸ h
  exact ⟨⟨Text.trim raw, hvalid⟩,
    OrderNumber.parse_eq_ok_iff.mpr (OrderNumber.parse?_eq_some_iff.mpr rfl), rfl⟩

end

/-- What passes all checks is a debit. -/
theorem withdraw_of_checked {u : UserId} {raw : String} {amount : Points} {n : OrderNumber}
    (hgiven : ¬ Text.isBlankText raw = true) (hpositive : ¬ amount.toRat ≤ 0)
    (hcents : OnGrid Points.places amount.toRat) (hn : OrderNumber.parse raw = .ok n) :
    withdraw u raw amount = UseCase.call (.debit u n amount) fun withdrawal =>
      .done (.ok withdrawal) := by
  rw [withdraw, ensureNumber_of_given hgiven, ensurePositive_of_pos hpositive,
    ensureCents_of_onGrid hcents, hn]
  rfl

/-! ## effects -/

/-- What a withdrawal that is granted does to the stores. -/
structure Pays (s : State) (u : UserId) (raw : String) (amount : Points) (w : Withdrawal)
    (s' : State) : Prop where
  current : (s'.balanceOf u).current.toRat = (s.balanceOf u).current.toRat - amount.toRat
  withdrawn : (s'.balanceOf u).withdrawn.toRat = (s.balanceOf u).withdrawn.toRat + amount.toRat
  userId : w.userId = u
  number : w.orderNumber.text = Text.trim raw
  sum : w.sum = amount
  recorded : s'.withdrawals = s.withdrawals ++ [w]
  others : ∀ v, v ≠ u → s'.balanceOf v = s.balanceOf v
  users : s'.users = s.users
  orders : s'.orders = s.orders
  index : s'.index = s.index

/-- A debit leaves users and orders as they are. -/
theorem debit_frame (s : State) (stamp : Stamp) (u : UserId) (n : OrderNumber) (amount : Points) :
    (s.debit stamp u n amount).2.users = s.users ∧ (s.debit stamp u n amount).2.orders = s.orders ∧
      (s.debit stamp u n amount).2.index = s.index := by
  unfold State.debit
  repeat' split
  all_goals exact ⟨rfl, rfl, rfl⟩

section

variable {s : State} {u : UserId} {raw : String} {amount : Points}

/-- A debit that the balance grants is what a withdrawal is to do. -/
theorem exists_pays {n : OrderNumber} {b : Balance} (hrange : (s.balanceOf u).InRange)
    (hexact : (s.balanceOf u).InCents) (hcents : OnGrid Points.places amount.toRat)
    (hn : n.text = Text.trim raw) (hgranted : (s.balanceOf u).debit amount = .ok b)
    (stamp : Stamp) :
    ∃ w s', s.debit stamp u n amount = (.ok w, s') ∧ Pays s u raw amount w s' := by
  have hpositive := (Balance.debit_eq_ok_iff.mp hgranted).1
  obtain ⟨s', hdebit, hbalances, hrecorded⟩ := State.debit_of_ok hpositive stamp n hgranted
  obtain ⟨hcurrent, hwithdrawn⟩ := hexact.debit_exact hrange hcents hgranted
  obtain ⟨husers, horders, hindex⟩ := debit_frame s stamp u n amount
  rw [hdebit] at husers horders hindex
  exact ⟨_, s', hdebit,
    { current := by rw [hbalances, if_pos rfl, hcurrent]
      withdrawn := by rw [hbalances, if_pos rfl, hwithdrawn]
      userId := rfl
      number := hn
      sum := rfl
      recorded := hrecorded
      others := fun v hne => by rw [hbalances, if_neg hne.symm]
      users := husers
      orders := horders
      index := hindex }⟩

/-! ## ends -/

/-- A debit that the balance refuses ends the withdrawal, and changes nothing. -/
theorem run_debit_of_error (moment : Http.Moment) {n : OrderNumber} {e : DomainError}
    (hpositive : 0 < amount.toRat) (h : (s.balanceOf u).debit amount = .error e) :
    (UseCase.call (.debit u n amount) fun withdrawal => .done (.ok withdrawal)).run
      moment.answer s =
      (.error (.ofStore (.ofDomain e)), s) := by
  have hanswer : moment.answer (.store (.debit u n amount)) s = (.error (.ofDomain e), s) :=
    State.debit_of_error (toRat_pos_iff.mp hpositive) _ n h
  rw [UseCase.call, Program.run_ask, hanswer]
  rfl

/-- A withdrawal that is refused ends in the first reason that applies, and changes nothing. -/
theorem run_withdraw_of_isFirst (moment : Http.Moment) (hrange : (s.balanceOf u).InRange)
    (hexact : (s.balanceOf u).InCents) {refusal : Refusal}
    (h : refusal.IsFirst (s.balanceOf u) raw amount) :
    (withdraw u raw amount).run moment.answer s = (.error (refusal.error raw), s) := by
  obtain ⟨happlies, hbefore⟩ := h
  cases refusal with
  | blank =>
      rw [withdraw, ensureNumber_of_blank happlies]
      rfl
  | notPositive =>
      rw [withdraw, ensureNumber_of_given (hbefore .blank (by decide)),
        ensurePositive_of_nonpos happlies]
      rfl
  | subCent =>
      rw [withdraw, ensureNumber_of_given (hbefore .blank (by decide)),
        ensurePositive_of_pos (hbefore .notPositive (by decide)),
        ensureCents_of_not_onGrid happlies]
      rfl
  | noNumber =>
      rw [withdraw, ensureNumber_of_given (hbefore .blank (by decide)),
        ensurePositive_of_pos (hbefore .notPositive (by decide)),
        ensureCents_of_onGrid (not_not.mp (hbefore .subCent (by decide))),
        parse_of_not_isValid happlies]
      rfl
  | uncovered =>
      obtain ⟨n, hn, -⟩ := exists_parse (hbefore .noNumber (by decide))
      have hpositive := hbefore .notPositive (by decide)
      have hrefused : (s.balanceOf u).debit amount = .error .insufficientFunds :=
        Balance.debit_of_lt (toRat_pos_iff.mp (not_le.mp hpositive)) happlies
      rw [withdraw_of_checked (hbefore .blank (by decide)) hpositive
        (not_not.mp (hbefore .subCent (by decide))) hn]
      exact run_debit_of_error moment (not_le.mp hpositive) hrefused
  | noRoom =>
      obtain ⟨n, hn, -⟩ := exists_parse (hbefore .noNumber (by decide))
      have hpositive := hbefore .notPositive (by decide)
      have hcents := not_not.mp (hbefore .subCent (by decide))
      have hrefused : (s.balanceOf u).debit amount = .error (.validation "balance out of range") :=
        hexact.debit_of_over hrange (toRat_pos_iff.mp (not_le.mp hpositive)) hcents
          (not_lt.mp (hbefore .uncovered (by decide))) happlies
      rw [withdraw_of_checked (hbefore .blank (by decide)) hpositive hcents hn]
      exact run_debit_of_error moment (not_le.mp hpositive) hrefused

/-- A withdrawal that nothing speaks against is granted, to just that effect. -/
theorem run_withdraw_of_payable (moment : Http.Moment) (hrange : (s.balanceOf u).InRange)
    (hexact : (s.balanceOf u).InCents) (h : Payable (s.balanceOf u) raw amount) :
    ∃ w s', (withdraw u raw amount).run moment.answer s = (.ok w, s') ∧
      Pays s u raw amount w s' := by
  have hnone := payable_iff.mp h
  obtain ⟨n, hn, htext⟩ := exists_parse (hnone .noNumber)
  obtain ⟨b, hgranted⟩ :=
    hexact.exists_debit hrange (toRat_pos_iff.mp h.positive) h.cents h.covered h.room
  obtain ⟨w, s', hdebit, hpays⟩ :=
    exists_pays hrange hexact h.cents htext hgranted (moment.stamp s (.debit u n amount))
  refine ⟨w, s', ?_, hpays⟩
  rw [withdraw_of_checked (hnone .blank) (hnone .notPositive) h.cents hn, UseCase.call,
    Program.run_ask]
  have hanswer : moment.answer (.store (.debit u n amount)) s = (.ok w, s') := hdebit
  rw [hanswer]
  rfl

/-- A withdrawal is granted, or refused for the first reason that applies. -/
theorem run_withdraw_cases (moment : Http.Moment) (hrange : (s.balanceOf u).InRange)
    (hexact : (s.balanceOf u).InCents) :
    (∃ w s', (withdraw u raw amount).run moment.answer s = (.ok w, s') ∧
      Payable (s.balanceOf u) raw amount ∧
      Pays s u raw amount w s') ∨
    ∃ refusal : Refusal, refusal.IsFirst (s.balanceOf u) raw amount ∧
      (withdraw u raw amount).run moment.answer s = (.error (refusal.error raw), s) := by
  by_cases hpayable : Payable (s.balanceOf u) raw amount
  · obtain ⟨w, s', hended, hpays⟩ := run_withdraw_of_payable moment hrange hexact hpayable
    exact .inl ⟨w, s', hended, hpayable, hpays⟩
  · rw [payable_iff, not_forall_not] at hpayable
    obtain ⟨refusal, hfirst⟩ := Refusal.exists_isFirst hpayable
    exact .inr ⟨refusal, hfirst, run_withdraw_of_isFirst moment hrange hexact hfirst⟩

end

end Loyalty.Ledger
