import Loyalty.Proofs.Memory.Ledger

/-!
# Loyalty.Proofs.Memory.Refusals

What calls that are refused leave behind.

A call that is refused changes nothing, unless it is a credit: that opens the
balance of a user who had none before it looks at the amount.  A balance of zero
is told from none by one kind of call alone, a debit of an amount that is not
positive, and only as long as nothing else opens the balance (`Noticed`).

`Agrees hidden s s'` relates two states that keep the same, up to a balance of
zero that the second one has for the user who is hidden, if there is one.  Calls
that do not notice it are answered alike and keep the relation (`Agrees.step`),
so what is answered later is the same exactly when nothing notices
(`Agrees.answers_eq_iff`).
-/

namespace Loyalty

open Decimal

namespace StoreCall

/-- Whether a user has a balance after a call, whatever it is answered. -/
def opens (u : UserId) : StoreCall → Bool
  | openBalance v | credit v _ => v = u
  | _ => false

/-- Whether a call tells a balance of zero of a user from none. -/
def notices (u : UserId) : StoreCall → Bool
  | debit v _ amount => v = u && amount ≤ Decimal.zero
  | _ => false

end StoreCall

namespace Store.Memory

/-! ## answers to later calls -/

/-- What calls are answered from a state on, the first one first. -/
def State.answers (s : State) : List Request → List Event
  | [] => []
  | r :: rest => ⟨r.call, (step r.stamp s r.call).1⟩ :: (step r.stamp s r.call).2.answers rest

/-- One of some calls tells a balance of zero of a user from none, and none before it opens that
balance. -/
def Noticed (u : UserId) (requests : List Request) : Prop :=
  ∃ before r after, requests = before ++ r :: after ∧ r.call.notices u = true ∧
    ∀ earlier ∈ before, earlier.call.opens u = false

theorem not_noticed_nil (u : UserId) : ¬ Noticed u [] := by
  rintro ⟨before, r, after, h, -⟩
  simp at h

theorem noticed_cons_iff {u : UserId} {r : Request} {rest : List Request} :
    Noticed u (r :: rest) ↔ r.call.notices u = true ∨ r.call.opens u = false ∧ Noticed u rest := by
  constructor
  · rintro ⟨before, noticing, after, hsplit, hnotices, hbefore⟩
    cases before with
    | nil =>
        obtain ⟨rfl, -⟩ := List.cons.inj hsplit
        exact .inl hnotices
    | cons first before =>
        obtain ⟨rfl, hrest⟩ := List.cons.inj hsplit
        exact .inr ⟨hbefore _ (List.mem_cons_self ..), before, noticing, after, hrest, hnotices,
          fun earlier hearlier => hbefore earlier (List.mem_cons_of_mem _ hearlier)⟩
  · rintro (hnotices | ⟨hopens, before, noticing, after, rfl, hnotices, hbefore⟩)
    · exact ⟨[], r, rest, rfl, hnotices, by simp⟩
    · exact ⟨r :: before, noticing, after, rfl, hnotices,
        List.forall_mem_cons.mpr ⟨hopens, hbefore⟩⟩

/-! ## states that agree -/

/-- Two states keep the same, up to a balance of zero that the second one has for a hidden user. -/
structure Agrees (hidden : Option UserId) (s s' : State) : Prop where
  rest : s' = { s with balances := s'.balances }
  same : ∀ v, v ∉ hidden → s'.balances.get? v = s.balances.get? v
  missing : ∀ v ∈ hidden, s.balances.get? v = none
  zero : ∀ v ∈ hidden, s'.balances.get? v = some (.zero v)

namespace Agrees

variable {hidden hidden' : Option UserId} {s s' : State} {u v : UserId}

theorem refl (s : State) : Agrees none s s where
  rest := rfl
  same _ _ := rfl
  missing := by simp
  zero := by simp

/-- Nobody sees a difference in the balances themselves. -/
theorem balanceOf (h : Agrees hidden s s') (v : UserId) : s'.balanceOf v = s.balanceOf v := by
  by_cases hv : v ∈ hidden
  · simp [State.balanceOf, h.missing v hv, h.zero v hv]
  · rw [State.balanceOf, State.balanceOf, h.same v hv]

/-- Setting a balance in both states hides nobody else, and that user no longer. -/
theorem write (h : Agrees hidden s s') (hhidden : ∀ u, u ∈ hidden' ↔ u ∈ hidden ∧ v ≠ u)
    (b : Balance) (ws : List Withdrawal) :
    Agrees hidden' { s with balances := s.balances.insert v b, withdrawals := ws }
      { s' with balances := s'.balances.insert v b, withdrawals := ws } where
  rest := by rw [h.rest]
  same u hu := by
    by_cases huv : v = u
    · rw [huv, Table.get?_insert_self, Table.get?_insert_self]
    · rw [Table.get?_insert_of_ne _ b huv, Table.get?_insert_of_ne _ b huv]
      exact h.same u fun hmem => hu ((hhidden u).mpr ⟨hmem, huv⟩)
  missing u hu := by
    obtain ⟨hmem, huv⟩ := (hhidden u).mp hu
    rw [Table.get?_insert_of_ne _ b huv]
    exact h.missing u hmem
  zero u hu := by
    obtain ⟨hmem, huv⟩ := (hhidden u).mp hu
    rw [Table.get?_insert_of_ne _ b huv]
    exact h.zero u hmem

theorem openBalance (h : Agrees hidden s s') (hhidden : ∀ u, u ∈ hidden' ↔ u ∈ hidden ∧ v ≠ u) :
    Agrees hidden' (s.openBalance v) (s'.openBalance v) := by
  obtain ⟨balances, rfl⟩ : ∃ balances, s' = { s with balances } := ⟨_, h.rest⟩
  rw [State.openBalance, State.openBalance, h.balanceOf v]
  exact h.write hhidden (s.balanceOf v) s.withdrawals

/-- A credit is answered alike, and nobody is hidden to whom it is made. -/
theorem credit (h : Agrees hidden s s') (hhidden : ∀ u, u ∈ hidden' ↔ u ∈ hidden ∧ v ≠ u)
    (amount : Points) :
    (s'.credit v amount).1 = (s.credit v amount).1 ∧
      Agrees hidden' (s.credit v amount).2 (s'.credit v amount).2 := by
  have hopened := h.openBalance hhidden
  have hstays : ∀ u, u ∈ hidden' ↔ u ∈ hidden' ∧ v ≠ u :=
    fun u => ⟨fun hu => ⟨hu, ((hhidden u).mp hu).2⟩, And.left⟩
  obtain ⟨balances, rfl⟩ : ∃ balances, s' = { s with balances } := ⟨_, h.rest⟩
  simp only [State.credit, hopened.balanceOf v]
  cases ((s.openBalance v).balanceOf v).credit amount with
  | error e => exact ⟨rfl, hopened⟩
  | ok b => exact ⟨rfl, hopened.write hstays b s.withdrawals⟩

/-- A debit of a positive amount is refused to who has nothing, balance or not. -/
theorem debit_of_hidden (h : Agrees hidden s s') (hv : v ∈ hidden) {amount : Points}
    (hpos : 0 < amount.coeff) (stamp : Stamp) (n : OrderNumber) :
    s.debit stamp v n amount = (.error .insufficientFunds, s) ∧
      s'.debit stamp v n amount = (.error .insufficientFunds, s') := by
  have hlt : (Balance.zero v).current.toRat < amount.toRat := by
    rw [Balance.zero, toRat_zero]
    exact toRat_pos_iff.mpr hpos
  constructor
  · rw [State.debit, h.missing v hv]
  · rw [State.debit, h.zero v hv]
    simp only [Balance.debit_of_lt hpos hlt, StoreError.ofDomain]

/-- A debit of a user who is not hidden is answered alike. -/
theorem debit (h : Agrees hidden s s') (hv : v ∉ hidden) (stamp : Stamp) (n : OrderNumber)
    (amount : Points) :
    (s'.debit stamp v n amount).1 = (s.debit stamp v n amount).1 ∧
      Agrees hidden (s.debit stamp v n amount).2 (s'.debit stamp v n amount).2 := by
  obtain ⟨balances, rfl⟩ : ∃ balances, s' = { s with balances } := ⟨_, h.rest⟩
  have hstays : ∀ u, u ∈ hidden ↔ u ∈ hidden ∧ v ≠ u :=
    fun u => ⟨fun hu => ⟨hu, fun huv => hv (huv ▸ hu)⟩, And.left⟩
  simp only [State.debit, h.same v hv]
  cases s.balances.get? v with
  | none => exact ⟨rfl, h⟩
  | some balance =>
      dsimp only
      cases balance.debit amount with
      | error e => exact ⟨rfl, h⟩
      | ok b => exact ⟨rfl, h.write hstays b _⟩

/-- What is kept besides balances does not matter. -/
theorem frame (h : Agrees hidden s s') {m : State} (hm : m.balances = s.balances) :
    Agrees hidden m { m with balances := s'.balances } where
  rest := rfl
  same v hv := by rw [hm]; exact h.same v hv
  missing v hv := by rw [hm]; exact h.missing v hv
  zero := h.zero

/-- A call that opens no balance hides the same user. -/
theorem filter_true (h : Agrees hidden s s') : Agrees (hidden.filter fun _ => true) s s' := by
  cases hidden <;> exact h

/-- A call that does not notice who is hidden is answered alike, and hides nobody else. -/
theorem step (h : Agrees hidden s s') (stamp : Stamp) {call : StoreCall}
    (hcall : ∀ u ∈ hidden, call.notices u = false) :
    (Memory.step stamp s' call).1 = (Memory.step stamp s call).1 ∧
      Agrees (hidden.filter fun u => !call.opens u) (Memory.step stamp s call).2
        (Memory.step stamp s' call).2 := by
  have hhidden : ∀ v u, u ∈ (hidden.filter fun u => !decide (v = u)) ↔ u ∈ hidden ∧ v ≠ u := by
    intro v u
    simp
  cases call with
  | openBalance v => exact ⟨rfl, h.openBalance (hhidden v)⟩
  | credit v amount => exact h.credit (hhidden v) amount
  | debit v n amount =>
      by_cases hv : v ∈ hidden
      · have hpos : 0 < amount.coeff := by simpa [StoreCall.notices, le_zero_iff] using hcall v hv
        obtain ⟨hs, hs'⟩ := h.debit_of_hidden hv hpos stamp n
        simp only [Memory.step, hs, hs']
        exact ⟨trivial, h.filter_true⟩
      · obtain ⟨hanswer, hnext⟩ := h.debit hv stamp n amount
        exact ⟨hanswer, hnext.filter_true⟩
  | balance v => exact ⟨congrArg Except.ok (h.balanceOf v), h.filter_true⟩
  | createUser _ _ | createOrder _ _ | updateStatus _ _ _ =>
      obtain ⟨balances, rfl⟩ : ∃ balances, s' = { s with balances } := ⟨_, h.rest⟩
      simp only [Memory.step, State.createUser, State.createOrder, State.updateStatus]
      split
      · exact ⟨rfl, h.filter_true⟩
      · refine ⟨rfl, filter_true (h.frame ?_)⟩
        rfl
  | findByLogin _ | findByNumber _ | listByUser _ | listPending | listWithdrawals _ =>
      obtain ⟨balances, rfl⟩ : ∃ balances, s' = { s with balances } := ⟨_, h.rest⟩
      exact ⟨rfl, h.filter_true⟩

/-- A call that notices who is hidden is answered otherwise. -/
theorem answer_ne (h : Agrees hidden s s') (hu : u ∈ hidden) (stamp : Stamp) {call : StoreCall}
    (hcall : call.notices u = true) :
    (Memory.step stamp s' call).1 ≠ (Memory.step stamp s call).1 := by
  cases call with
  | debit v n amount =>
      simp only [StoreCall.notices, Bool.and_eq_true, decide_eq_true_eq] at hcall
      obtain ⟨rfl, hle⟩ := hcall
      rw [le_iff_toRat, toRat_zero] at hle
      simp only [Memory.step, State.debit, h.missing v hu, h.zero v hu, Balance.debit_of_nonpos hle]
      simp [StoreError.ofDomain]
  | _ => simp [StoreCall.notices] at hcall

/-- What is answered later is the same exactly when nothing notices who is hidden. -/
theorem answers_eq_iff (h : Agrees hidden s s') (later : List Request) :
    s'.answers later = s.answers later ↔ ∀ u ∈ hidden, ¬ Noticed u later := by
  induction later generalizing hidden s s' with
  | nil => simp [State.answers, not_noticed_nil]
  | cons r rest ih =>
      by_cases hnotices : ∃ u ∈ hidden, r.call.notices u = true
      · obtain ⟨u, hu, hnoticing⟩ := hnotices
        have hne := h.answer_ne hu r.stamp hnoticing
        have hnoticed : Noticed u (r :: rest) := noticed_cons_iff.mpr (.inl hnoticing)
        constructor
        · intro heq
          have hhead := (List.cons.inj heq).1
          simp only [Event.mk.injEq, heq_eq_eq, true_and] at hhead
          exact absurd hhead hne
        · exact fun hall => absurd hnoticed (hall u hu)
      · have hcall : ∀ u ∈ hidden, r.call.notices u = false := by simpa using hnotices
        obtain ⟨hanswer, hnext⟩ := h.step r.stamp hcall
        rw [State.answers, State.answers, hanswer, List.cons.injEq, ih hnext]
        simp only [true_and, Option.mem_filter_iff, noticed_cons_iff]
        constructor
        · rintro hrest u hu (hnoticing | ⟨hopens, hlater⟩)
          · rw [hcall u hu] at hnoticing
            contradiction
          · exact hrest u ⟨hu, by rw [hopens]; rfl⟩ hlater
        · intro hall u hu hlater
          exact hall u hu.1 (.inr ⟨by simpa using hu.2, hlater⟩)

end Agrees

/-! ## what a refusal leaves behind -/

/-- The user for whom a call that is refused leaves a balance of zero behind. -/
def State.leftBehind? (s : State) : StoreCall → Option UserId
  | .credit u _ => if s.balances.contains u then none else some u
  | _ => none

theorem State.mem_leftBehind?_iff {s : State} {call : StoreCall} {u : UserId} :
    u ∈ s.leftBehind? call ↔ (∃ amount, call = .credit u amount) ∧ s.balances.get? u = none := by
  cases call with
  | credit v amount =>
      by_cases hv : v = u
      · subst hv
        cases hrow : s.balances.get? v <;> simp [leftBehind?, Table.contains, hrow]
      · simp [leftBehind?, hv]
  | _ => simp [leftBehind?]

/-- Opening a balance leaves one of zero to a user who had none. -/
theorem agrees_openBalance (s : State) (u : UserId) (amount : Points) :
    Agrees (s.leftBehind? (.credit u amount)) s (s.openBalance u) where
  rest := rfl
  same v hv := by
    by_cases huv : u = v
    · subst huv
      have hrow : s.balances.get? u ≠ none :=
        fun hrow => hv (State.mem_leftBehind?_iff.mpr ⟨⟨amount, rfl⟩, hrow⟩)
      obtain ⟨b, hb⟩ := Option.ne_none_iff_exists'.mp hrow
      simp [State.openBalance, State.balanceOf, hb]
    · exact Table.get?_insert_of_ne _ _ huv
  missing v hv := (State.mem_leftBehind?_iff.mp hv).2
  zero v hv := by
    obtain ⟨⟨amount', hcall⟩, hrow⟩ := State.mem_leftBehind?_iff.mp hv
    obtain ⟨rfl, -⟩ := StoreCall.credit.inj hcall
    simp [State.openBalance, State.balanceOf, hrow]

/-- A call that is refused and is no credit changes nothing. -/
theorem state_of_error {s : State} {stamp : Stamp} {call : StoreCall} {e : StoreError}
    (hcall : ∀ u amount, call ≠ .credit u amount) :
    (step stamp s call).1 = .error e → (step stamp s call).2 = s := by
  cases call with
  | credit u amount => exact absurd rfl (hcall u amount)
  | createUser _ _ | createOrder _ _ | updateStatus _ _ _ =>
      simp only [step, State.createUser, State.createOrder, State.updateStatus]
      split
      · exact fun _ => rfl
      · intro h
        contradiction
  | debit u n amount =>
      simp only [step, State.debit]
      split
      · exact fun _ => rfl
      · split
        · exact fun _ => rfl
        · intro h
          contradiction
  | openBalance _ | findByLogin _ | findByNumber _ | listByUser _ | listPending | balance _
  | listWithdrawals _ =>
      intro h
      contradiction

/-- A call that is refused changes nothing, up to what a credit leaves behind. -/
theorem agrees_of_error {s : State} {stamp : Stamp} {call : StoreCall} {e : StoreError}
    (h : (step stamp s call).1 = .error e) :
    Agrees (s.leftBehind? call) s (step stamp s call).2 := by
  by_cases hcall : ∃ u amount, call = .credit u amount
  · obtain ⟨u, amount, rfl⟩ := hcall
    cases hgranted : (s.balanceOf u).credit amount with
    | error e =>
        rw [step, State.credit_of_error hgranted]
        exact agrees_openBalance s u amount
    | ok b =>
        obtain ⟨s', hs', -⟩ := State.credit_of_ok hgranted
        rw [step, hs'] at h
        contradiction
  · have hnone : s.leftBehind? call = none := by
      refine Option.eq_none_iff_forall_not_mem.mpr fun u hu => ?_
      obtain ⟨⟨amount, hcredit⟩, -⟩ := State.mem_leftBehind?_iff.mp hu
      exact hcall ⟨u, amount, hcredit⟩
    rw [hnone, state_of_error (fun u amount hcredit => hcall ⟨u, amount, hcredit⟩) h]
    exact .refl s

/-- **What a refusal leaves behind**: after a call that is refused, all later calls are answered as
if it had never been made, exactly unless it was a credit to a user without a balance and a debit of
that user of an amount that is not positive comes before anything else opens the balance. -/
theorem State.answers_after_error_iff (s : State) (r : Request) (later : List Request)
    {e : StoreError} (h : (step r.stamp s r.call).1 = .error e) :
    (step r.stamp s r.call).2.answers later = s.answers later ↔
      ¬ ∃ u amount, r.call = .credit u amount ∧ s.balances.get? u = none ∧ Noticed u later := by
  rw [(agrees_of_error h).answers_eq_iff later]
  constructor
  · rintro hall ⟨u, amount, hcall, hrow, hnoticed⟩
    exact hall u (mem_leftBehind?_iff.mpr ⟨⟨amount, hcall⟩, hrow⟩) hnoticed
  · intro hnone u hu hnoticed
    obtain ⟨⟨amount, hcall⟩, hrow⟩ := mem_leftBehind?_iff.mp hu
    exact hnone ⟨u, amount, hcall, hrow, hnoticed⟩

/-- To who was credited 10.00, a refused credit of nothing makes no difference. -/
theorem State.answers_after_error_iff_credited :
    let s := (Trace.run [⟨default, .credit default { coeff := 1000, scale := 2 }⟩]).state
    let refused : Request := ⟨default, .credit default .zero⟩
    let later : List Request := [⟨default, .debit default default .zero⟩]
    (step refused.stamp s refused.call).1 =
      .error (.database "validation failed: amount must be positive") ∧
      (step refused.stamp s refused.call).2.answers later = s.answers later := by
  intro s refused later
  have hrefused : (step refused.stamp s refused.call).1 =
      .error (.database "validation failed: amount must be positive") := by decide +kernel
  refine ⟨hrefused, (s.answers_after_error_iff refused later hrefused).mpr ?_⟩
  rintro ⟨u, amount, hcall, hrow, -⟩
  obtain ⟨rfl, -⟩ := StoreCall.credit.inj hcall
  exact absurd hrow (by decide +kernel)

/-- To who was credited nothing, a refused credit of nothing makes a difference: what was a lack of
funds is a failure of the store then. -/
theorem refused_credit_noticed :
    let credit : Request := ⟨default, .credit default .zero⟩
    let debit : Request := ⟨default, .debit default default .zero⟩
    (step credit.stamp .empty credit.call).1 =
      .error (.database "validation failed: amount must be positive") ∧
      State.empty.answers [debit] = [⟨debit.call, .error .insufficientFunds⟩] ∧
      (step credit.stamp .empty credit.call).2.answers [debit] =
        [⟨debit.call, .error (.database "validation failed: amount must be positive")⟩] ∧
      (step credit.stamp .empty credit.call).2.answers [debit] ≠ State.empty.answers [debit] := by
  intro credit debit
  have hbefore : State.empty.answers [debit] = [⟨debit.call, .error .insufficientFunds⟩] := rfl
  have hafter : (step credit.stamp .empty credit.call).2.answers [debit] =
      [⟨debit.call, .error (.database "validation failed: amount must be positive")⟩] := rfl
  refine ⟨by decide +kernel, hbefore, hafter, ?_⟩
  rw [hbefore, hafter]
  simp

end Store.Memory

end Loyalty
