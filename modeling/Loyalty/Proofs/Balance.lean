import Loyalty.Balance
import Loyalty.Proofs.Decimal.Sum

/-!
# Loyalty.Proofs.Balance

Balances stay in range, and amounts in cents are never rounded.

`InRange` holds of the balance of zero and is kept by every credit and every
debit that is granted, whatever the amount.  The difference of a debit that is
granted always exists, because the balance covers it (`rounds_remaining`).

Amounts with more places than points have may lose the last of them when a sum
becomes long.  A balance and an amount that are whole numbers of cents stay so
even then (`InCents.credit`, `InCents.debit`), and lose nothing where the balance
is in range, so `credit_exact` and `debit_exact` are equations of rationals.
-/

namespace Loyalty

open Decimal

/-! ## amounts -/

section

variable {amount : Points}

theorem ensurePositive_of_nonpos (h : amount.toRat ≤ 0) :
    ensurePositive amount = .error (.validation "amount must be positive") :=
  if_pos (le_iff_toRat.mpr (by rwa [toRat_zero]))

theorem ensurePositive_of_pos (h : ¬ amount.toRat ≤ 0) : ensurePositive amount = .ok () :=
  ensurePositive_eq_ok_iff.mpr (toRat_pos_iff.mp (not_le.mp h))

theorem ensureCents_of_not_onGrid (h : ¬ OnGrid Points.places amount.toRat) :
    ensureCents amount = .error (.validation "amount has more than two decimal places") :=
  if_pos (Nat.lt_of_not_le (normalize_scale_le_iff.not.mpr h))

theorem ensureCents_of_onGrid (h : OnGrid Points.places amount.toRat) :
    ensureCents amount = .ok () :=
  if_neg (normalize_scale_le_iff.mpr h).not_gt

/-- Amounts that pass the test are whole numbers of cents. -/
theorem onGrid_of_ensureCents {u : Unit} (h : ensureCents amount = .ok u) :
    OnGrid Points.places amount.toRat := by
  unfold ensureCents at h
  split at h
  · contradiction
  · next hle => exact normalize_scale_le_iff.mp (Nat.le_of_not_lt hle)

end

namespace Points

theorem onGrid_max : OnGrid places max.toRat := onGrid_toRat max

/-- Twice the largest balance is still of moderate size. -/
theorem max_le_moderate : 2 * max.toRat ≤ moderate := by
  rw [toRat_eq]
  norm_num [max, moderate]

/-- The exact sum of amounts. -/
def total (amounts : List Points) : ℚ := (amounts.map Decimal.toRat).sum

@[simp] theorem total_nil : total [] = 0 := rfl

@[simp] theorem total_cons (amount : Points) (amounts : List Points) :
    total (amount :: amounts) = amount.toRat + total amounts := by
  simp [total]

@[simp] theorem total_append (xs ys : List Points) : total (xs ++ ys) = total xs + total ys := by
  simp [total]

/-- The order of amounts does not matter for their sum. -/
theorem total_perm {xs ys : List Points} (h : xs.Perm ys) : total xs = total ys :=
  (h.map Decimal.toRat).sum_eq

end Points

/-! ## changes -/

namespace Balance

/-- The exact value of all that was ever credited. -/
def worth (b : Balance) : ℚ := b.current.toRat + b.withdrawn.toRat

@[simp] theorem worth_zero (userId : UserId) : (zero userId).worth = 0 := by
  simp [worth, zero]

/-- A credit is granted when the amount is positive and the sum can be held. -/
theorem credit_eq_ok_iff {b b' : Balance} {amount : Points} :
    b.credit amount = .ok b' ↔
      0 < amount.coeff ∧ ∃ current, b.current.add? amount = some current ∧
        current ≤ Points.max ∧ b' = { b with current } := by
  unfold credit
  cases hp : ensurePositive amount with
  | error e =>
      have hneg : ¬ 0 < amount.coeff := by
        rw [← ensurePositive_eq_ok_iff (u := ()), hp]
        simp
      simp [bind, Except.bind, hneg]
  | ok u =>
      have hpos := ensurePositive_eq_ok_iff.mp hp
      cases hs : checkedSum b.current amount with
      | error e =>
          simp only [bind, Except.bind, reduceCtorEq, false_iff, not_and, not_exists]
          rintro - current hadd hle -
          simp [checkedSum_eq_ok_iff.mpr ⟨hadd, hle⟩] at hs
      | ok current =>
          obtain ⟨hadd, hle⟩ := checkedSum_eq_ok_iff.mp hs
          simp [bind, Except.bind, pure, Except.pure, hpos, hadd, hle, eq_comm]

/-- A debit is granted when the amount is positive, there is enough, and the sum can be held. -/
theorem debit_eq_ok_iff {b b' : Balance} {amount : Points} :
    b.debit amount = .ok b' ↔
      0 < amount.coeff ∧ amount ≤ b.current ∧
        ∃ withdrawn, b.withdrawn.add? amount = some withdrawn ∧
        withdrawn ≤ Points.max ∧
          b' = { b with current := remaining b.current amount, withdrawn } := by
  have hle_iff : amount ≤ b.current ↔ ¬ b.current < amount := by
    rw [le_iff_toRat, not_lt_iff_toRat]
  rw [hle_iff]
  unfold debit
  cases hp : ensurePositive amount with
  | error e =>
      have hneg : ¬ 0 < amount.coeff := by
        rw [← ensurePositive_eq_ok_iff (u := ()), hp]
        simp
      simp [bind, Except.bind, hneg]
  | ok u =>
      have hpos := ensurePositive_eq_ok_iff.mp hp
      by_cases hlt : b.current < amount
      · simp [bind, Except.bind, hlt]
      · cases hs : checkedSum b.withdrawn amount with
        | error e =>
            simp only [bind, Except.bind, if_neg hlt, reduceCtorEq, false_iff, not_and, not_exists]
            rintro - - withdrawn hadd hle -
            simp [checkedSum_eq_ok_iff.mpr ⟨hadd, hle⟩] at hs
        | ok withdrawn =>
            obtain ⟨hadd, hle⟩ := checkedSum_eq_ok_iff.mp hs
            simp [bind, Except.bind, pure, Except.pure, hpos, hlt, hadd, hle, eq_comm]

/-- What remains after a debit that is granted is the rounded difference: the fallback of
`remaining` is never taken. -/
theorem rounds_remaining {b : Balance} {amount : Points} (hpos : 0 < amount.coeff)
    (hle : amount ≤ b.current) :
    Rounds (b.current.toRat - amount.toRat) (remaining b.current amount) := by
  obtain ⟨current, hsub⟩ := exists_sub?_of_le (toRat_pos_iff.mpr hpos).le (le_iff_toRat.mp hle)
  rw [remaining, hsub, Option.getD_some]
  exact rounds_of_sub? hsub

/-! ## range -/

/-- Both amounts of a balance are within their bounds. -/
structure InRange (b : Balance) : Prop where
  current_nonneg : Decimal.zero ≤ b.current
  current_le : b.current ≤ Points.max
  withdrawn_nonneg : Decimal.zero ≤ b.withdrawn
  withdrawn_le : b.withdrawn ≤ Points.max

theorem inRange_zero (userId : UserId) : (zero userId).InRange := by
  constructor <;> simp only [zero] <;> decide

section

variable {b b' : Balance} {amount : Points}

theorem InRange.zero_le_toRat (h : b.InRange) : 0 ≤ b.current.toRat := by
  simpa using le_iff_toRat.mp h.current_nonneg

/-- A credit that is granted keeps the range. -/
theorem InRange.credit (h : b.InRange) (hc : b.credit amount = .ok b') : b'.InRange := by
  obtain ⟨hpos, current, hadd, hle, rfl⟩ := credit_eq_ok_iff.mp hc
  have hamount := toRat_pos_iff.mpr hpos
  have hnonneg : 0 ≤ current.toRat := (rounds_of_add? hadd).nonneg (by linarith [h.zero_le_toRat])
  exact { h with current_nonneg := by rw [le_iff_toRat]; simpa using hnonneg, current_le := hle }

/-- A difference within range exists. -/
theorem InRange.exists_sub? (h : b.InRange) (hpos : 0 < amount.coeff) (hle : amount ≤ b.current) :
    ∃ current, b.current.sub? amount = some current := by
  have hamount := toRat_pos_iff.mpr hpos
  have hmax := le_iff_toRat.mp h.current_le
  have hle' := le_iff_toRat.mp hle
  have hmod := Points.max_le_moderate.trans moderate_le_largest
  refine Decimal.exists_sub? ?_
  rw [abs_of_nonneg (by linarith)]
  linarith

/-- A debit that is granted keeps the range. -/
theorem InRange.debit (h : b.InRange) (hd : b.debit amount = .ok b') : b'.InRange := by
  obtain ⟨hpos, hle, withdrawn, hadd, hmax, rfl⟩ := debit_eq_ok_iff.mp hd
  have hamount := toRat_pos_iff.mpr hpos
  have hle' := le_iff_toRat.mp hle
  have hcur := le_iff_toRat.mp h.current_le
  have hmod := Points.max_le_moderate
  have hrounds := rounds_remaining hpos hle
  have hw : 0 ≤ b.withdrawn.toRat := by simpa using le_iff_toRat.mp h.withdrawn_nonneg
  have hlow : 0 ≤ (remaining b.current amount).toRat := hrounds.nonneg (by linarith)
  have hhigh : (remaining b.current amount).toRat ≤ Points.max.toRat := by
    refine hrounds.toRat_le_of_onGrid ?_ (Points.onGrid_max.mono (by decide)) (by linarith)
    rw [abs_of_nonneg (by linarith)]
    linarith
  have hnonneg : 0 ≤ withdrawn.toRat := (rounds_of_add? hadd).nonneg (by linarith)
  exact
    { current_nonneg := by rw [le_iff_toRat]; simpa using hlow
      current_le := le_iff_toRat.mpr hhigh
      withdrawn_nonneg := by rw [le_iff_toRat]; simpa using hnonneg
      withdrawn_le := hmax }

/-- What was withdrawn never becomes less, even when the sum is rounded. -/
theorem InRange.withdrawn_le_debit (h : b.InRange) (hd : b.debit amount = .ok b') :
    b.withdrawn ≤ b'.withdrawn := by
  obtain ⟨hpos, -, withdrawn, hadd, -, rfl⟩ := debit_eq_ok_iff.mp hd
  have hw : 0 ≤ b.withdrawn.toRat := by simpa using le_iff_toRat.mp h.withdrawn_nonneg
  exact le_iff_toRat.mpr ((rounds_of_add? hadd).le_of_add hw (toRat_pos_iff.mpr hpos).le)

/-! ## cents -/

/-- Both amounts of a balance are whole numbers of cents. -/
structure InCents (b : Balance) : Prop where
  current : OnGrid Points.places b.current.toRat
  withdrawn : OnGrid Points.places b.withdrawn.toRat

theorem inCents_zero (userId : UserId) : (zero userId).InCents where
  current := by simpa [zero] using onGrid_zero Points.places
  withdrawn := by simpa [zero] using onGrid_zero Points.places

/-- A sum of cents within range is exact: the bound on the result bounds the exact sum, which has
too few places to lose any. -/
theorem toRat_of_add? {total sum : Points} (hadd : total.add? amount = some sum)
    (hnonneg : 0 ≤ total.toRat) (hpos : 0 < amount.coeff) (hmax : sum ≤ Points.max)
    (ht : OnGrid Points.places total.toRat) (ha : OnGrid Points.places amount.toRat) :
    sum.toRat = total.toRat + amount.toRat := by
  have hrounds := rounds_of_add? hadd
  have hamount := toRat_pos_iff.mpr hpos
  have hsum := le_iff_toRat.mp hmax
  have hmod := Points.max_le_moderate
  have hhalf : (1 : ℚ) / 2 ≤ Points.max.toRat := by rw [toRat_eq]; norm_num [Points.max]
  refine hrounds.eq_of_onGrid ?_ ((ht.add ha).mono (by decide))
  rw [abs_of_nonneg (by linarith)]
  linarith [hrounds.le_add_half]

/-- In cents a credit adds exactly its amount to what can be spent. -/
theorem InCents.credit_exact (hb : b.InCents) (h : b.InRange)
    (ha : OnGrid Points.places amount.toRat) (hc : b.credit amount = .ok b') :
    b'.current.toRat = b.current.toRat + amount.toRat ∧ b'.withdrawn = b.withdrawn := by
  obtain ⟨hpos, current, hadd, hle, rfl⟩ := credit_eq_ok_iff.mp hc
  exact ⟨toRat_of_add? hadd h.zero_le_toRat hpos hle hb.current ha, rfl⟩

/-- In cents a debit moves exactly its amount. -/
theorem InCents.debit_exact (hb : b.InCents) (h : b.InRange)
    (ha : OnGrid Points.places amount.toRat) (hd : b.debit amount = .ok b') :
    b'.current.toRat = b.current.toRat - amount.toRat ∧
      b'.withdrawn.toRat = b.withdrawn.toRat + amount.toRat := by
  obtain ⟨hpos, hle, withdrawn, hadd, hmax, rfl⟩ := debit_eq_ok_iff.mp hd
  have hamount := toRat_pos_iff.mpr hpos
  have hle' := le_iff_toRat.mp hle
  have hcur := le_iff_toRat.mp h.current_le
  have hmod := Points.max_le_moderate
  have hw : 0 ≤ b.withdrawn.toRat := by simpa using le_iff_toRat.mp h.withdrawn_nonneg
  refine ⟨(rounds_remaining hpos hle).eq_of_onGrid ?_ ((hb.current.sub ha).mono (by decide)),
    toRat_of_add? hadd hw hpos hmax hb.withdrawn ha⟩
  rw [abs_of_nonneg (by linarith)]
  linarith

/-- Credits of cents leave cents, on a balance out of range too: rounding only takes places away. -/
theorem InCents.credit (hb : b.InCents) (ha : OnGrid Points.places amount.toRat)
    (hc : b.credit amount = .ok b') :
    b'.InCents := by
  obtain ⟨-, current, hadd, -, rfl⟩ := credit_eq_ok_iff.mp hc
  exact ⟨(rounds_of_add? hadd).onGrid (hb.current.add ha), hb.withdrawn⟩

/-- Debits of cents leave cents. -/
theorem InCents.debit (hb : b.InCents) (ha : OnGrid Points.places amount.toRat)
    (hd : b.debit amount = .ok b') :
    b'.InCents := by
  obtain ⟨hpos, hle, withdrawn, hadd, -, rfl⟩ := debit_eq_ok_iff.mp hd
  exact ⟨(rounds_remaining hpos hle).onGrid (hb.current.sub ha),
    (rounds_of_add? hadd).onGrid (hb.withdrawn.add ha)⟩

end

end Balance

/-! ## the limit -/

theorem Points.toRat_max : Points.max.toRat = 999999999999999 / 100 := by
  rw [toRat_eq]
  norm_num [Points.max]

/-- A sum that is no more than the largest balance is exact. -/
theorem checkedSum_of_le {total amount : Points} (htotal : OnGrid Points.places total.toRat)
    (hamount : OnGrid Points.places amount.toRat) (hnonneg : 0 ≤ total.toRat)
    (hpos : 0 < amount.toRat) (h : total.toRat + amount.toRat ≤ Points.max.toRat) :
    ∃ sum, checkedSum total amount = .ok sum ∧ sum.toRat = total.toRat + amount.toRat := by
  have hmod := Points.max_le_moderate
  have habs : |total.toRat + amount.toRat| ≤ moderate := by
    rw [abs_of_nonneg (by linarith)]
    linarith
  obtain ⟨sum, hadd⟩ := exists_add? (habs.trans moderate_le_largest)
  have hexact := (rounds_of_add? hadd).eq_of_onGrid habs ((htotal.add hamount).mono (by decide))
  exact ⟨sum, checkedSum_eq_ok_iff.mpr ⟨hadd, le_iff_toRat.mpr (hexact ▸ h)⟩, hexact⟩

/-- A sum that is more than the largest balance is refused. -/
theorem checkedSum_of_lt {total amount : Points} (htotal : OnGrid Points.places total.toRat)
    (hamount : OnGrid Points.places amount.toRat) (hnonneg : 0 ≤ total.toRat)
    (hpos : 0 < amount.toRat) (h : Points.max.toRat < total.toRat + amount.toRat) :
    checkedSum total amount = .error (.validation "balance out of range") := by
  unfold checkedSum
  split
  · next sum hadd =>
      refine if_neg fun hle => ?_
      have hexact := Balance.toRat_of_add? hadd hnonneg (toRat_pos_iff.mp hpos) hle htotal hamount
      have hle' := le_iff_toRat.mp hle
      linarith
  · rfl

namespace Balance

section

variable {b : Balance} {amount : Points}

theorem InRange.withdrawn_nonneg_toRat (h : b.InRange) : 0 ≤ b.withdrawn.toRat := by
  simpa using le_iff_toRat.mp h.withdrawn_nonneg

/-- A debit of what is not positive is refused, whatever there is. -/
theorem debit_of_nonpos (h : amount.toRat ≤ 0) :
    b.debit amount = .error (.validation "amount must be positive") := by
  rw [debit, ensurePositive_of_nonpos h]
  rfl

/-- A debit of more than there is is refused. -/
theorem debit_of_lt (hpos : 0 < amount.coeff) (hlt : b.current.toRat < amount.toRat) :
    b.debit amount = .error .insufficientFunds := by
  have hensure : ensurePositive amount = .ok () := ensurePositive_eq_ok_iff.mpr hpos
  have hcovers : b.current < amount := lt_iff_toRat.mpr hlt
  simp [debit, hensure, hcovers, bind, Except.bind]

/-- In cents a debit of what there is is granted when the limit leaves room for it. -/
theorem InCents.exists_debit (hb : b.InCents) (h : b.InRange) (hpos : 0 < amount.coeff)
    (ha : OnGrid Points.places amount.toRat) (hcovers : amount.toRat ≤ b.current.toRat)
    (hroom : b.withdrawn.toRat + amount.toRat ≤ Points.max.toRat) :
    ∃ b', b.debit amount = .ok b' := by
  obtain ⟨sum, hchecked, -⟩ :=
    checkedSum_of_le hb.withdrawn ha h.withdrawn_nonneg_toRat (toRat_pos_iff.mpr hpos) hroom
  obtain ⟨hadd, hle⟩ := checkedSum_eq_ok_iff.mp hchecked
  exact ⟨_, debit_eq_ok_iff.mpr ⟨hpos, le_iff_toRat.mpr hcovers, sum, hadd, hle, rfl⟩⟩

/-- In cents a debit of what there is is refused when the limit leaves no room for it. -/
theorem InCents.debit_of_over (hb : b.InCents) (h : b.InRange) (hpos : 0 < amount.coeff)
    (ha : OnGrid Points.places amount.toRat) (hcovers : amount.toRat ≤ b.current.toRat)
    (hover : Points.max.toRat < b.withdrawn.toRat + amount.toRat) :
    b.debit amount = .error (.validation "balance out of range") := by
  have hensure : ensurePositive amount = .ok () := ensurePositive_eq_ok_iff.mpr hpos
  have hlt : ¬ b.current < amount := not_lt_iff_toRat.mpr hcovers
  have hsum :=
    checkedSum_of_lt hb.withdrawn ha h.withdrawn_nonneg_toRat (toRat_pos_iff.mpr hpos) hover
  simp [Balance.debit, hensure, hlt, hsum, bind, Except.bind]

end

end Balance

end Loyalty
