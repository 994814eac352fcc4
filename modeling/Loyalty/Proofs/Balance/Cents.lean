import Loyalty.Proofs.Balance

/-!
# Loyalty.Proofs.Balance.Cents

Which amounts are whole numbers of cents, and that changes of balances keep them.

The test of amounts looks at the places that are left without trailing zeros, and
these are the places that the number needs (`Decimal.normalize_scale_le_iff`).  So
the test asks for nothing but the exact value (`ensureCents_eq_ok_iff`) and does
not see how that is represented (`ensureCents_congr`).

A balance passes when both of its amounts do (`Balance.inCents_iff`).  Credits and
debits keep that whatever the scales and however large the amounts: a sum that is
rounded has no more places than before, and what is not rounded is a sum of whole
cents.
-/

namespace Loyalty

open Decimal

/-- The numbers of two places are the whole numbers of hundredths. -/
theorem onGrid_places_iff {x : ℚ} : OnGrid Points.places x ↔ ∃ n : ℤ, x * 100 = n := by
  have hpow : (10 : ℚ) ^ Points.places = 100 := by norm_num [Points.places]
  simp only [OnGrid, hpow, eq_div_iff (by norm_num : (100 : ℚ) ≠ 0)]

section

variable {amount a b : Points}

/-- An amount passes exactly if it is a whole number of cents. -/
theorem ensureCents_eq_ok_iff {u : Unit} :
    ensureCents amount = .ok u ↔ ∃ n : ℤ, amount.toRat * 100 = n := by
  rw [← onGrid_places_iff]
  exact ⟨onGrid_of_ensureCents, ensureCents_of_onGrid⟩

/-- Amounts of one value are answered alike. -/
theorem ensureCents_congr (h : a.toRat = b.toRat) : ensureCents a = ensureCents b := by
  by_cases hgrid : OnGrid Points.places a.toRat
  · rw [ensureCents_of_onGrid hgrid, ensureCents_of_onGrid (h ▸ hgrid)]
  · rw [ensureCents_of_not_onGrid hgrid, ensureCents_of_not_onGrid (h ▸ hgrid)]

end

/-- A balance is in cents when both of its amounts pass. -/
theorem Balance.inCents_iff {b : Balance} :
    b.InCents ↔ ensureCents b.current = .ok () ∧ ensureCents b.withdrawn = .ok () := by
  simp only [ensureCents_eq_ok_iff, ← onGrid_places_iff]
  exact ⟨fun h => ⟨h.current, h.withdrawn⟩, fun h => ⟨h.1, h.2⟩⟩

/-- **The test of amounts decides divisibility by a cent**: of decimals of any sign, coefficient and
scale,

* it passes exactly those whose exact value is a whole number of hundredths;
* so it answers alike for all representations of one value;
* and a credit or debit that is granted, of an amount that passes to a balance whose amounts pass,
  leaves a balance whose amounts pass, within its range or not. -/
theorem ensureCents_decides :
    (∀ amount : Points, ensureCents amount = .ok () ↔ ∃ n : ℤ, amount.toRat * 100 = n) ∧
    (∀ a b : Points, a.toRat = b.toRat → ensureCents a = ensureCents b) ∧
    ∀ (b b' : Balance) (amount : Points), ensureCents amount = .ok () →
      ensureCents b.current = .ok () → ensureCents b.withdrawn = .ok () →
      b.credit amount = .ok b' ∨ b.debit amount = .ok b' →
      ensureCents b'.current = .ok () ∧ ensureCents b'.withdrawn = .ok () := by
  refine ⟨fun amount => ensureCents_eq_ok_iff, fun a b => ensureCents_congr, ?_⟩
  intro b b' amount hamount hcurrent hwithdrawn hgranted
  have hgrid := onGrid_of_ensureCents hamount
  have hcents := Balance.inCents_iff.mpr ⟨hcurrent, hwithdrawn⟩
  rw [← Balance.inCents_iff]
  cases hgranted with
  | inl hcredit => exact hcents.credit hgrid hcredit
  | inr hdebit => exact hcents.debit hgrid hdebit

/-- A debit of 20.500, which is 20.5, from 120.5 leaves whole cents. -/
theorem ensureCents_decides_debit :
    let b : Balance :=
      { userId := default, current := { coeff := 1205, scale := 1 },
        withdrawn := { coeff := 0, scale := 2 } }
    let amount : Points := { coeff := 20500, scale := 3 }
    ensureCents amount = ensureCents { coeff := 205, scale := 1 } ∧
      ∃ b', b.debit amount = .ok b' ∧ ensureCents b'.current = .ok () ∧
        ensureCents b'.withdrawn = .ok () := by
  intro b amount
  obtain ⟨-, hsame, hkeeps⟩ := ensureCents_decides
  have hdebit : b.debit amount =
      .ok { b with
        current := { coeff := 100000, scale := 3 }
        withdrawn := { coeff := 20500, scale := 3 } } := by
    decide +kernel
  refine ⟨hsame _ _ ?_, _, hdebit,
    hkeeps b _ amount (by decide) (by decide) (by decide) (.inr hdebit)⟩
  norm_num [amount, toRat_eq]

end Loyalty
