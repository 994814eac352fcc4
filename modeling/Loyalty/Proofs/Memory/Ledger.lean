import Loyalty.Proofs.Memory.Trace

/-!
# Loyalty.Proofs.Memory.Ledger

What calls do to balances, and what every run of calls does.

`Moves` says once what a call can do to balances and withdrawals: nothing, a
credit that was granted, or a debit that was granted together with its record.
Two invariants follow from it.  `Bounded` holds of every trace: all balances
are in range.  `Exact` holds of traces in which all amounts are in cents: what
a user has and has spent is exactly what was credited, and what the user has
spent is exactly what the records say.
-/

namespace Loyalty.Store.Memory

open Decimal

/-! ## what a call moves -/

/-- What a call that was answered did to the balances and the withdrawals. -/
inductive Moves (s : State) : Event → State → Prop
  /-- Nothing moved. -/
  | nothing {e : Event} {s' : State} (hcredit : ∀ u, e.creditTo? u = none)
      (hbalances : ∀ u, s'.balanceOf u = s.balanceOf u)
      (hwithdrawals : s'.withdrawals = s.withdrawals) :
      Moves s e s'
  /-- A credit was granted. -/
  | credit {u : UserId} {amount : Points} {b : Balance} {s' : State}
      (hgranted : (s.balanceOf u).credit amount = .ok b)
      (hbalances : ∀ v, s'.balanceOf v = if u = v then b else s.balanceOf v)
      (hwithdrawals : s'.withdrawals = s.withdrawals) :
      Moves s ⟨.credit u amount, .ok ()⟩ s'
  /-- A debit was granted and recorded. -/
  | debit {u : UserId} {number : OrderNumber} {amount : Points} {b : Balance} {w : Withdrawal}
      {s' : State} (hgranted : (s.balanceOf u).debit amount = .ok b)
      (hbalances : ∀ v, s'.balanceOf v = if u = v then b else s.balanceOf v)
      (hwithdrawals : s'.withdrawals = s.withdrawals ++ [w])
      (hrecord : w.userId = u ∧ w.orderNumber = number ∧ w.sum = amount) :
      Moves s ⟨.debit u number amount, .ok w⟩ s'

namespace State

@[simp] theorem balanceOf_empty (userId : UserId) : empty.balanceOf userId = .zero userId := rfl

/-- Setting one balance leaves the others as they were. -/
theorem balanceOf_insert (s : State) (u v : UserId) (b : Balance) (ws : List Withdrawal) :
    { s with balances := s.balances.insert u b, withdrawals := ws }.balanceOf v =
      if u = v then b else s.balanceOf v := by
  by_cases h : u = v
  · simp [balanceOf, h]
  · simp [balanceOf, Table.get?_insert, h]

/-- Opening a balance changes none. -/
theorem balanceOf_openBalance (s : State) (u v : UserId) :
    (s.openBalance u).balanceOf v = s.balanceOf v := by
  rw [openBalance, balanceOf_insert]
  split
  · next h => rw [h]
  · rfl

theorem credit_moves (s : State) (u : UserId) (amount : Points) :
    Moves s ⟨.credit u amount, (s.credit u amount).1⟩ (s.credit u amount).2 := by
  unfold credit
  dsimp only
  rw [balanceOf_openBalance]
  cases h : (s.balanceOf u).credit amount with
  | error e => exact .nothing (fun _ => rfl) (s.balanceOf_openBalance u) rfl
  | ok b =>
      refine .credit h (fun v => ?_) rfl
      rw [balanceOf_insert, balanceOf_openBalance]

/-- A debit is granted only to a user who has a balance. -/
theorem debit_moves (s : State) (stamp : Stamp) (u : UserId) (number : OrderNumber)
    (amount : Points) :
    Moves s ⟨.debit u number amount, (s.debit stamp u number amount).1⟩
      (s.debit stamp u number amount).2 := by
  unfold debit
  cases hb : s.balances.get? u with
  | none => exact .nothing (fun _ => rfl) (fun _ => rfl) rfl
  | some balance =>
      have hbalance : s.balanceOf u = balance := by rw [balanceOf, hb, Option.getD_some]
      dsimp only
      cases h : balance.debit amount with
      | error e => exact .nothing (fun _ => rfl) (fun _ => rfl) rfl
      | ok b =>
          exact .debit (hbalance ▸ h) (fun v => s.balanceOf_insert u v b _) rfl ⟨rfl, rfl, rfl⟩

/-- What any call moves. -/
theorem moves_step (s : State) (stamp : Stamp) (call : StoreCall) :
    Moves s ⟨call, (step stamp s call).1⟩ (step stamp s call).2 := by
  cases call with
  | credit u amount => exact s.credit_moves u amount
  | debit u number amount => exact s.debit_moves stamp u number amount
  | openBalance u => exact .nothing (fun _ => rfl) (s.balanceOf_openBalance u) rfl
  | createUser login passwordHash =>
      refine .nothing (fun _ => rfl) (fun _ => ?_) ?_ <;>
        simp only [step, createUser] <;> split <;> rfl
  | createOrder u number =>
      refine .nothing (fun _ => rfl) (fun _ => ?_) ?_ <;>
        simp only [step, createOrder] <;> split <;> rfl
  | updateStatus number status accrual =>
      refine .nothing (fun _ => rfl) (fun _ => ?_) ?_ <;>
        simp only [step, updateStatus] <;> split <;> rfl
  | findByLogin _ | findByNumber _ | listByUser _ | listPending | balance _ | listWithdrawals _ =>
      exact .nothing (fun _ => rfl) (fun _ => rfl) rfl

end State

/-! ## calls at the word of the balance -/

namespace State

section

variable {s : State} {u : UserId} {amount : Points}

/-- A credit that the balance refuses is refused. -/
theorem credit_of_error {e : DomainError} (h : (s.balanceOf u).credit amount = .error e) :
    s.credit u amount = (.error (.ofDomain e), s.openBalance u) := by
  simp only [credit, balanceOf_openBalance, h]

/-- A credit that the balance grants is granted. -/
theorem credit_of_ok {b : Balance} (h : (s.balanceOf u).credit amount = .ok b) :
    ∃ s', s.credit u amount = (.ok (), s') ∧
      (∀ v, s'.balanceOf v = if u = v then b else s.balanceOf v) ∧
      s'.withdrawals = s.withdrawals := by
  simp only [credit, balanceOf_openBalance, h]
  exact ⟨_, rfl, fun v => by rw [balanceOf_insert, balanceOf_openBalance], rfl⟩

/-- Nothing can be spent by who has no balance, as if it were zero. -/
theorem debit_of_error {e : DomainError} (hpos : 0 < amount.coeff) (stamp : Stamp)
    (number : OrderNumber) (h : (s.balanceOf u).debit amount = .error e) :
    s.debit stamp u number amount = (.error (.ofDomain e), s) := by
  unfold debit
  cases hb : s.balances.get? u with
  | none =>
      have hzero : (Balance.zero u).current < amount := by
        rw [lt_iff_toRat, Balance.zero, toRat_zero]
        exact toRat_pos_iff.mpr hpos
      have hensure : ensurePositive amount = .ok () := ensurePositive_eq_ok_iff.mpr hpos
      rw [balanceOf, hb, Option.getD_none, Balance.debit, hensure] at h
      simp only [bind, Except.bind, if_pos hzero, Except.error.injEq] at h
      rw [← h, StoreError.ofDomain]
  | some b =>
      rw [balanceOf, hb, Option.getD_some] at h
      simp only [h]

/-- A debit that the balance grants is granted and recorded. -/
theorem debit_of_ok {b : Balance} (hpos : 0 < amount.coeff) (stamp : Stamp) (number : OrderNumber)
    (h : (s.balanceOf u).debit amount = .ok b) :
    ∃ s', s.debit stamp u number amount =
        (.ok { id := ⟨stamp.id⟩, userId := u, orderNumber := number, sum := amount,
               processedAt := stamp.now }, s') ∧
      (∀ v, s'.balanceOf v = if u = v then b else s.balanceOf v) ∧
      s'.withdrawals = s.withdrawals ++
        [{ id := ⟨stamp.id⟩, userId := u, orderNumber := number, sum := amount,
           processedAt := stamp.now }] := by
  unfold debit
  cases hb : s.balances.get? u with
  | none =>
      have hle := (Balance.debit_eq_ok_iff.mp h).2.1
      rw [balanceOf, hb, Option.getD_none, le_iff_toRat, Balance.zero, toRat_zero] at hle
      exact absurd (toRat_pos_iff.mpr hpos) hle.not_gt
  | some balance =>
      rw [balanceOf, hb, Option.getD_some] at h
      simp only [h]
      exact ⟨_, rfl, fun v => balanceOf_insert .., rfl⟩

end

end State

/-! ## bounds -/

/-- All balances are in range. -/
def State.Bounded (s : State) : Prop := ∀ u, (s.balanceOf u).InRange

section

variable {s s' : State} {e : Event}

/-- A call that is no debit leaves the withdrawals. -/
theorem Moves.withdrawals_eq (h : Moves s e s')
    (hdebit : ∀ u number amount, e.call ≠ .debit u number amount) :
    s'.withdrawals = s.withdrawals := by
  cases h with
  | nothing _ _ hwithdrawals => exact hwithdrawals
  | credit _ _ hwithdrawals => exact hwithdrawals
  | debit => exact absurd rfl (hdebit _ _ _)

/-- No call takes a balance out of range. -/
theorem Moves.bounded (h : Moves s e s') (hs : s.Bounded) : s'.Bounded := by
  intro v
  cases h with
  | nothing _ hbalances _ => rw [hbalances]; exact hs v
  | @credit u amount b _ hgranted hbalances _ =>
      rw [hbalances]
      split
      · exact (hs u).credit hgranted
      · exact hs v
  | @debit u number amount b w _ hgranted hbalances _ _ =>
      rw [hbalances]
      split
      · exact (hs u).debit hgranted
      · exact hs v

/-- No call takes back what was withdrawn. -/
theorem Moves.withdrawn_le (h : Moves s e s') (hs : s.Bounded) (u : UserId) :
    (s.balanceOf u).withdrawn ≤ (s'.balanceOf u).withdrawn := by
  cases h with
  | nothing _ hbalances _ => rw [hbalances, le_iff_toRat]
  | @credit v amount b _ hgranted hbalances _ =>
      rw [hbalances]
      split
      · next hv =>
        obtain ⟨-, current, -, -, rfl⟩ := Balance.credit_eq_ok_iff.mp hgranted
        rw [hv, le_iff_toRat]
      · rw [le_iff_toRat]
  | @debit v number amount b w _ hgranted hbalances _ _ =>
      rw [hbalances]
      split
      · next hv => exact hv ▸ (hs v).withdrawn_le_debit hgranted
      · rw [le_iff_toRat]

end

/-- A call in which the subtraction of a debit that is granted has no result. -/
def State.Overflows (s : State) : StoreCall → Prop
  | .debit u _ amount =>
    ∃ b b', s.balances.get? u = some b ∧ b.debit amount = .ok b' ∧ b.current.sub? amount = none
  | _ => False

/-- Where balances are in range no call overflows. -/
theorem State.Bounded.not_overflows {s : State} (hs : s.Bounded) (call : StoreCall) :
    ¬ s.Overflows call := by
  cases call with
  | debit u number amount =>
      rintro ⟨b, b', hb, hgranted, hnone⟩
      have hrange : b.InRange := by
        have := hs u
        rwa [balanceOf, hb, Option.getD_some] at this
      obtain ⟨hpos, hle, -⟩ := Balance.debit_eq_ok_iff.mp hgranted
      obtain ⟨current, hsub⟩ := hrange.exists_sub? hpos hle
      rw [hnone] at hsub
      contradiction
  | _ => exact id

/-! ## sums -/

/-- What the records of a user come to. -/
def State.recorded (s : State) (u : UserId) : ℚ :=
  Points.total ((s.withdrawals.filter (·.userId = u)).map (·.sum))

/-- The list of a user's withdrawals comes to the same, whatever its order. -/
theorem State.total_withdrawalsOf (s : State) (u : UserId) :
    Points.total ((s.withdrawalsOf u).map (·.sum)) = s.recorded u := by
  have hsort := List.mergeSort_perm (s.withdrawals.reverse.filter (·.userId = u))
    fun a b => b.processedAt ≤ a.processedAt
  have hfilter :
      (s.withdrawals.reverse.filter (·.userId = u)).Perm (s.withdrawals.filter (·.userId = u)) :=
    s.withdrawals.reverse_perm.filter _
  exact Points.total_perm ((hsort.trans hfilter).map _)

/-- The balance of a user is exact: it holds whole cents, what was credited, and what was
recorded. -/
structure Trace.Exact (t : Trace) (u : UserId) : Prop where
  cents : (t.state.balanceOf u).InCents
  worth : (t.state.balanceOf u).worth = Points.total (t.creditsOf u)
  recorded : (t.state.balanceOf u).withdrawn.toRat = t.state.recorded u

namespace Trace

theorem bounded_start : start.state.Bounded := fun u => Balance.inRange_zero u

theorem bounded_ask (t : Trace) (r : Request) (h : t.state.Bounded) : (t.ask r).state.Bounded :=
  (t.state.moves_step r.stamp r.call).bounded h

/-- In every run all balances are in range. -/
theorem bounded_run (requests : List Request) : (run requests).state.Bounded :=
  run_induction bounded_start bounded_ask requests

/-- However a run goes on, no more is withdrawn before than after. -/
theorem withdrawn_le_run (requests more : List Request) (u : UserId) :
    ((run requests).state.balanceOf u).withdrawn ≤
      ((run (requests ++ more)).state.balanceOf u).withdrawn := by
  induction more using List.reverseRecOn with
  | nil => rw [List.append_nil, le_iff_toRat]
  | append_singleton more r ih =>
      rw [← List.append_assoc, run_concat]
      have hstep := ((run (requests ++ more)).state.moves_step r.stamp r.call).withdrawn_le
        (bounded_run _) u
      rw [le_iff_toRat] at ih hstep ⊢
      exact ih.trans hstep

theorem exact_start (u : UserId) : start.Exact u where
  cents := Balance.inCents_zero u
  worth := by simp [start, creditsOf]
  recorded := by simp [start, State.recorded, State.empty, Balance.zero, State.balanceOf]

theorem creditsOf_cons {t t' : Trace} {e : Event} (h : t'.history = e :: t.history) (u : UserId) :
    Points.total (t'.creditsOf u) = Points.total (e.creditTo? u).toList +
      Points.total (t.creditsOf u) := by
  rw [creditsOf, h, List.filterMap_cons, ← Points.total_append]
  cases e.creditTo? u <;> rfl

/-- In cents every call keeps the sums exact. -/
theorem exact_step {t t' : Trace} {e : Event} (hx : ∀ u, t.Exact u) (hs : t.state.Bounded)
    (hmoves : Moves t.state e t'.state) (hhistory : t'.history = e :: t.history)
    (hcents : ∀ amount ∈ e.call.amount?, ensureCents amount = .ok ()) (v : UserId) :
    t'.Exact v := by
  obtain ⟨hc, hworth, hrecorded⟩ := hx v
  have hcredits := creditsOf_cons hhistory v
  obtain ⟨s', hs'⟩ : ∃ s', t'.state = s' := ⟨_, rfl⟩
  rw [hs'] at hmoves
  cases hmoves with
  | nothing hcredit hbalances hwithdrawals =>
      rw [hcredit] at hcredits
      exact
        { cents := by rw [hs', hbalances]; exact hc
          worth := by rw [hs', hbalances, hworth, hcredits]; simp
          recorded := by rw [hs', hbalances, State.recorded, hwithdrawals]; exact hrecorded }
  | @credit u amount b _ hgranted hbalances hwithdrawals =>
      by_cases huv : u = v
      · subst huv
        have hb : t'.state.balanceOf u = b := by rw [hs', hbalances, if_pos rfl]
        have hgrid := onGrid_of_ensureCents (hcents amount rfl)
        obtain ⟨hcurrent, hwithdrawn⟩ := hc.credit_exact (hs u) hgrid hgranted
        refine ⟨hb ▸ hc.credit hgrid hgranted, ?_, ?_⟩
        · have hone : Points.total (Event.creditTo? u ⟨.credit u amount, .ok ()⟩).toList =
              amount.toRat := by
            simp [Event.creditTo?]
          rw [hb, hcredits, hone, ← hworth, Balance.worth, Balance.worth, hcurrent, hwithdrawn]
          ring
        · rw [hb, hwithdrawn, hrecorded, hs', State.recorded, State.recorded, hwithdrawals]
      · have hb : t'.state.balanceOf v = t.state.balanceOf v := by rw [hs', hbalances, if_neg huv]
        have hnone : Event.creditTo? v ⟨.credit u amount, .ok ()⟩ = none := if_neg huv
        rw [hnone] at hcredits
        exact
          { cents := hb ▸ hc
            worth := by rw [hb, hworth, hcredits]; simp
            recorded := by rw [hb, hrecorded, hs', State.recorded, State.recorded, hwithdrawals] }
  | @debit u number amount b w _ hgranted hbalances hwithdrawals hrecord =>
      obtain ⟨huser, -, hsum⟩ := hrecord
      have hnone : Event.creditTo? v ⟨.debit u number amount, .ok w⟩ = none := rfl
      rw [hnone] at hcredits
      have hadd : t'.state.recorded v = t.state.recorded v + if u = v then amount.toRat else 0 := by
        rw [hs', State.recorded, State.recorded, hwithdrawals, List.filter_append, List.map_append,
          Points.total_append]
        by_cases huv : u = v <;> simp [huser, hsum, huv]
      by_cases huv : u = v
      · subst huv
        have hb : t'.state.balanceOf u = b := by rw [hs', hbalances, if_pos rfl]
        have hgrid := onGrid_of_ensureCents (hcents amount rfl)
        obtain ⟨hcurrent, hwithdrawn⟩ := hc.debit_exact (hs u) hgrid hgranted
        refine ⟨hb ▸ hc.debit hgrid hgranted, ?_, ?_⟩
        · rw [hb, hcredits, Option.toList_none, Points.total_nil, zero_add, ← hworth, Balance.worth,
            Balance.worth, hcurrent, hwithdrawn]
          ring
        · rw [hb, hwithdrawn, hrecorded, hadd, if_pos rfl]
      · have hb : t'.state.balanceOf v = t.state.balanceOf v := by rw [hs', hbalances, if_neg huv]
        exact
          { cents := hb ▸ hc
            worth := by rw [hb, hworth, hcredits]; simp
            recorded := by rw [hb, hrecorded, hadd, if_neg huv, add_zero] }

/-- In every run in cents the sums are exact. -/
theorem exact_run (requests : List Request) (hc : (run requests).InCents) (u : UserId) :
    (run requests).Exact u := by
  induction requests using List.reverseRecOn generalizing u with
  | nil => exact exact_start u
  | append_singleton requests r ih =>
      rw [run_concat] at hc ⊢
      exact exact_step (ih hc.of_ask) (bounded_run requests)
        ((run requests).state.moves_step r.stamp r.call) rfl (hc _ (List.mem_cons_self ..)) u

/-- **Conservation**: after every run of calls and for every user, both amounts of the balance are
in range, what was withdrawn is never taken back however the run goes on, and no further call
subtracts beyond the range of decimals.  When all amounts are in cents, what the user has and has
spent is exactly the sum of the credits that were granted, and what the user has spent is exactly
the sum of the list of withdrawals. -/
theorem run_conserves (requests : List Request) (u : UserId) :
    ((run requests).state.balanceOf u).InRange ∧
      (∀ more, ((run requests).state.balanceOf u).withdrawn ≤
        ((run (requests ++ more)).state.balanceOf u).withdrawn) ∧
      (∀ call, ¬ (run requests).state.Overflows call) ∧
      ((run requests).InCents →
        ((run requests).state.balanceOf u).worth = Points.total ((run requests).creditsOf u) ∧
        ((run requests).state.balanceOf u).withdrawn.toRat =
          Points.total (((run requests).state.withdrawalsOf u).map (·.sum))) := by
  refine ⟨bounded_run requests u, fun more => withdrawn_le_run requests more u,
    (bounded_run requests).not_overflows, fun hc => ?_⟩
  obtain ⟨-, hworth, hrecorded⟩ := exact_run requests hc u
  exact ⟨hworth, by rw [hrecorded, State.total_withdrawalsOf]⟩

/-- A credit of 10.00 and a debit of 2.5, written with another scale, are granted and leave sums
that are exact. -/
theorem run_conserves_credit_debit :
    let requests : List Request :=
      [⟨default, .credit default { coeff := 1000, scale := 2 }⟩,
        ⟨default, .debit default default { coeff := 25, scale := 1 }⟩]
    (run requests).InCents ∧
      ((run requests).history.map fun e => e.answer.isOk) = [true, true] ∧
      (((run requests).state.balanceOf default).worth =
          Points.total ((run requests).creditsOf default) ∧
        (run requests).creditsOf default = [{ coeff := 1000, scale := 2 }]) ∧
      ((run requests).state.balanceOf default).withdrawn.toRat =
          Points.total (((run requests).state.withdrawalsOf default).map (·.sum)) ∧
        ((run requests).state.withdrawalsOf default).map (·.sum) =
          [{ coeff := 25, scale := 1 }] := by
  intro requests
  have hc : (run requests).InCents := by
    intro e he amount hamount
    rcases List.mem_cons.mp he with rfl | he
    · obtain rfl := Option.some.inj hamount
      decide
    · obtain rfl := List.mem_singleton.mp he
      obtain rfl := Option.some.inj hamount
      decide
  obtain ⟨-, -, -, hexact⟩ := run_conserves requests default
  obtain ⟨hworth, hwithdrawn⟩ := hexact hc
  exact ⟨hc, by decide +kernel, ⟨hworth, by decide +kernel⟩, hwithdrawn, by decide +kernel⟩

end Trace

end Loyalty.Store.Memory
