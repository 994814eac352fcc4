import Loyalty.Decimal.Basic
import Mathlib

/-!
# Loyalty.Proofs.Decimal.Value

Decimals as rational numbers.

Order and sign of decimals are those of the numbers they stand for, so whatever
is proved of amounts can be proved of rationals.  The numbers with `scale`
places form a grid; `OnGrid` says that a rational is one of them.
-/

namespace Loyalty

namespace Decimal

/-! ## exact values -/

/-- The exact value as a quotient of rationals. -/
theorem toRat_eq (d : Decimal) : d.toRat = d.coeff / 10 ^ d.scale := by
  simp [toRat]

/-- A value times the power of ten of its scale is the coefficient. -/
theorem toRat_mul_pow (d : Decimal) : d.toRat * 10 ^ d.scale = d.coeff := by
  rw [toRat_eq, div_mul_cancel₀]
  positivity

theorem pow_scale_pos (d : Decimal) : (0 : ℚ) < 10 ^ d.scale := by positivity

@[simp] theorem toRat_zero : zero.toRat = 0 := by simp [toRat_eq, zero]

@[simp] theorem toRat_neg (d : Decimal) : d.neg.toRat = -d.toRat := by
  rw [toRat_eq, toRat_eq]
  simp [neg, neg_div]

/-- Only a coefficient of zero stands for zero. -/
theorem toRat_eq_zero_iff (d : Decimal) : d.toRat = 0 ↔ d.coeff = 0 := by
  rw [toRat_eq, div_eq_zero_iff]
  simp

/-- A coefficient at a larger scale is the value in units of that scale. -/
theorem coeffAt_cast {d : Decimal} {scale : Nat} (h : d.scale ≤ scale) :
    (d.coeffAt scale : ℚ) = d.toRat * 10 ^ scale := by
  have hp : (10 : ℚ) ^ scale = 10 ^ d.scale * 10 ^ (scale - d.scale) := by
    rw [← pow_add, Nat.add_sub_cancel' h]
  rw [hp, ← mul_assoc, toRat_mul_pow]
  simp [coeffAt]

/-! ## order -/

/-- Decimals are ordered as the numbers they stand for. -/
theorem le_iff_toRat {a b : Decimal} : a ≤ b ↔ a.toRat ≤ b.toRat := by
  rw [le_iff, toRat_eq, toRat_eq, div_le_div_iff₀ (pow_scale_pos a) (pow_scale_pos b)]
  norm_cast

theorem lt_iff_toRat {a b : Decimal} : a < b ↔ a.toRat < b.toRat := by
  rw [lt_iff, toRat_eq, toRat_eq, div_lt_div_iff₀ (pow_scale_pos a) (pow_scale_pos b)]
  norm_cast

theorem not_lt_iff_toRat {a b : Decimal} : ¬ a < b ↔ b.toRat ≤ a.toRat := by
  rw [lt_iff_toRat, not_lt]

/-- The sign of a number is the sign of its coefficient. -/
theorem toRat_pos_iff {d : Decimal} : 0 < d.toRat ↔ 0 < d.coeff := by
  rw [← zero_lt_iff, lt_iff_toRat, toRat_zero]

/-! ## grids -/

/-- A number with at most `scale` decimal places. -/
def OnGrid (scale : Nat) (x : ℚ) : Prop := ∃ m : ℤ, x = m / 10 ^ scale

theorem onGrid_toRat (d : Decimal) : OnGrid d.scale d.toRat := ⟨d.coeff, d.toRat_eq⟩

/-- More places leave room for the same number. -/
theorem OnGrid.mono {s t : Nat} {x : ℚ} (h : OnGrid s x) (hst : s ≤ t) : OnGrid t x := by
  obtain ⟨m, rfl⟩ := h
  refine ⟨m * 10 ^ (t - s), ?_⟩
  have hp : (10 : ℚ) ^ t = 10 ^ s * 10 ^ (t - s) := by rw [← pow_add, Nat.add_sub_cancel' hst]
  push_cast
  rw [hp, mul_div_mul_right _ _ (by positivity)]

theorem onGrid_zero (s : Nat) : OnGrid s 0 := ⟨0, by simp⟩

theorem OnGrid.add {s : Nat} {x y : ℚ} (hx : OnGrid s x) (hy : OnGrid s y) : OnGrid s (x + y) := by
  obtain ⟨m, rfl⟩ := hx
  obtain ⟨n, rfl⟩ := hy
  exact ⟨m + n, by push_cast; ring⟩

theorem OnGrid.sub {s : Nat} {x y : ℚ} (hx : OnGrid s x) (hy : OnGrid s y) : OnGrid s (x - y) := by
  obtain ⟨m, rfl⟩ := hx
  obtain ⟨n, rfl⟩ := hy
  exact ⟨m - n, by push_cast; ring⟩

/-! ## the places that a number needs -/

@[simp] theorem toRat_normalize (d : Decimal) : d.normalize.toRat = d.toRat := by
  have hv : d.normalize.coeff * 10 ^ d.scale = d.coeff * 10 ^ d.normalize.scale :=
    stripZeros_value d.coeff d.scale
  rw [toRat_eq, toRat_eq, div_eq_div_iff (by positivity) (by positivity)]
  exact_mod_cast hv

/-- Stripping ends at a digit that is not zero, or at the point. -/
theorem stripZeros_last (coeff : ℤ) (scale : ℕ) :
    (stripZeros coeff scale).2 = 0 ∨ ¬ 10 ∣ (stripZeros coeff scale).1 := by
  induction scale generalizing coeff with
  | zero => exact .inl rfl
  | succ scale ih =>
      unfold stripZeros
      split
      · exact ih _
      · next h => exact .inr (by omega)

/-- The places that are left are those that the number needs. -/
theorem normalize_scale_le_iff {d : Decimal} {s : ℕ} :
    d.normalize.scale ≤ s ↔ OnGrid s d.toRat := by
  rw [← toRat_normalize]
  constructor
  · intro h
    exact d.normalize.onGrid_toRat.mono h
  · rintro ⟨m, hm⟩
    by_contra hlt
    have hval : d.normalize.coeff * 10 ^ s = m * 10 ^ d.normalize.scale := by
      rw [toRat_eq, div_eq_div_iff (by positivity) (by positivity)] at hm
      exact_mod_cast hm
    have hpow : (10 : ℤ) ^ d.normalize.scale = 10 ^ s *
        (10 ^ (d.normalize.scale - s - 1) * 10) := by
      rw [← pow_succ, ← pow_add]
      congr 1
      omega
    have hcoeff : d.normalize.coeff = m * 10 ^ (d.normalize.scale - s - 1) * 10 := by
      have hpos : (10 : ℤ) ^ s ≠ 0 := by positivity
      apply mul_right_cancel₀ hpos
      rw [hval, hpow]
      ring
    rcases stripZeros_last d.coeff d.scale with hz | hlast
    · have : d.normalize.scale = 0 := hz
      omega
    · exact hlast (Dvd.intro_left _ hcoeff.symm)

end Decimal

end Loyalty
