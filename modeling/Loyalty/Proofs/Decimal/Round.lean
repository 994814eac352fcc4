import Loyalty.Proofs.Decimal.Sum

/-!
# Loyalty.Proofs.Decimal.Round

What rounding to a number of places gives.

Counted in units of the last place that is left, the result is the whole number
nearest to the exact one, and the even one of two that are (`Decimal.nearest_round`).
There is one such number (`Nearest.unique`), and it is not positive exactly when the
exact one is half a unit at most (`Nearest.nonpos_iff`).
-/

namespace Loyalty

/-! ## the nearest whole number -/

/-- A whole number that is nearest to a number, and the even one of two that are. -/
structure Nearest (x : ℚ) (n : ℤ) : Prop where
  near : |x - n| ≤ 1 / 2
  even : |x - n| = 1 / 2 → Even n

/-- Two whole numbers are not both less than half a unit away. -/
theorem one_le_abs_sub_add_abs_sub {x : ℚ} {m n : ℤ} (hne : m ≠ n) : 1 ≤ |x - m| + |x - n| := by
  have hone : (1 : ℚ) ≤ |(m : ℚ) - n| := by exact_mod_cast Int.one_le_abs (sub_ne_zero.mpr hne)
  calc
    1 ≤ |(m : ℚ) - n| := hone
    _ ≤ |(m : ℚ) - x| + |x - n| := abs_sub_le ..
    _ = |x - m| + |x - n| := by rw [abs_sub_comm]

namespace Nearest

variable {x : ℚ} {m n : ℤ}

/-- A whole number is nearest to itself. -/
theorem refl (n : ℤ) : Nearest n n where
  near := by norm_num
  even h := by norm_num at h

/-- Only one whole number is nearest. -/
theorem unique (hm : Nearest x m) (hn : Nearest x n) : m = n := by
  by_contra hne
  -- both are half a unit away, so both are even; and they are one apart
  have hfar := one_le_abs_sub_add_abs_sub (x := x) hne
  have hxm : |x - m| = 1 / 2 := le_antisymm hm.near (by linarith [hn.near])
  have hxn : |x - n| = 1 / 2 := le_antisymm hn.near (by linarith [hm.near])
  have happart : |(m - n : ℤ)| ≤ 1 := by
    have htriangle := abs_sub_le (m : ℚ) x n
    rw [abs_sub_comm _ x, hxm, hxn] at htriangle
    norm_num at htriangle
    exact_mod_cast htriangle
  have heven := (hm.even hxm).sub (hn.even hxn)
  obtain ⟨k, hk⟩ := heven
  rw [hk, abs_le] at happart
  omega

/-- What rounds to nothing or less is half a unit at most. -/
theorem nonpos_iff (h : Nearest x n) : n ≤ 0 ↔ x ≤ 1 / 2 := by
  constructor
  · intro hn
    have hcast : (n : ℚ) ≤ 0 := by exact_mod_cast hn
    linarith [(abs_le.mp h.near).2]
  · intro hx
    by_contra hpos
    have hcast : (1 : ℚ) ≤ n := by exact_mod_cast not_le.mp hpos
    have hlow := (abs_le.mp h.near).1
    -- so the number is a half and rounds to one, which is odd
    have hxhalf : x = 1 / 2 := le_antisymm hx (by linarith)
    have hone : n = 1 := by
      have hle : (n : ℚ) ≤ 1 := by linarith
      exact le_antisymm (by exact_mod_cast hle) (not_le.mp hpos)
    have heven := h.even (by rw [hxhalf, hone]; norm_num)
    rw [hone] at heven
    exact absurd heven (by decide)

end Nearest

namespace Decimal

/-! ## dropped places -/

/-- Of two quotients that are equally near the even one is taken. -/
theorem even_divHalfEven {n d : ℕ} (hd : 0 < d) (h : 2 * (divHalfEven n d * d) = 2 * n + d ∨
    2 * n = 2 * (divHalfEven n d * d) + d) : Even (divHalfEven n d) := by
  have hn := Nat.div_add_mod n d
  have hr := Nat.mod_lt n hd
  have hc : d * (n / d) = n / d * d := Nat.mul_comm ..
  have hs : (n / d + 1) * d = n / d * d + d := Nat.succ_mul ..
  rw [Nat.even_iff]
  unfold divHalfEven at h ⊢
  split_ifs at h ⊢ with hlow hhigh heven
  · omega
  · rw [hs] at h
    omega
  · exact heven
  · omega

/-- Dropped places that are just half of the last one left leave an even coefficient. -/
theorem even_dropPlaces {c : ℤ} {k : ℕ} (h : 2 * |dropPlaces c k * 10 ^ k - c| = 10 ^ k) :
    Even (dropPlaces c k) := by
  by_cases hc : c = 0
  · simp [hc, dropPlaces]
  · have hone : |c.sign| = 1 := by rw [Int.abs_eq_natAbs, Int.natAbs_sign, if_neg hc]; rfl
    rw [dropPlaces_mul_sub, abs_mul, hone, one_mul, Int.natCast_natAbs] at h
    refine (even_divHalfEven (by positivity) ?_).natCast.mul_left _
    rcases abs_cases ((divHalfEven c.natAbs (10 ^ k) : ℤ) * 10 ^ k - |c|) with ⟨habs, -⟩ | ⟨habs, -⟩
    · left
      zify
      linarith
    · right
      zify
      linarith

theorem scale_round_le (d : Decimal) (places : ℕ) : (d.round places).scale ≤ places := by
  unfold round
  split
  · assumption
  · exact le_rfl

/-- **Rounding gives the nearest number** of that many places, and the even one of two that are. -/
theorem nearest_round (d : Decimal) (places : ℕ) :
    ∃ n : ℤ, Nearest (d.toRat * 10 ^ places) n ∧ (d.round places).toRat = n / 10 ^ places := by
  by_cases h : d.scale ≤ places
  · refine ⟨d.coeffAt places, coeffAt_cast h ▸ .refl _, ?_⟩
    rw [round, dif_pos h, coeffAt_cast h, mul_div_cancel_right₀]
    positivity
  · refine ⟨dropPlaces d.coeff (d.scale - places), ?_, by rw [round, dif_neg h, toRat_eq]⟩
    obtain ⟨k, hk⟩ : ∃ k, d.scale = places + k := ⟨d.scale - places, by omega⟩
    have hdropped : d.scale - places = k := by omega
    have hpos : (0 : ℚ) < 10 ^ k := by positivity
    -- counted in units of the last place dropped, the error is that of the coefficient
    have herror : 2 * |d.toRat * 10 ^ places - dropPlaces d.coeff k| * 10 ^ k =
        (2 * |dropPlaces d.coeff k * 10 ^ k - d.coeff| : ℤ) := by
      have hvalue : d.toRat * 10 ^ places * 10 ^ k = d.coeff := by
        rw [mul_assoc, ← pow_add, ← hk, toRat_mul_pow]
      push_cast
      rw [← hvalue, ← sub_mul, abs_mul, abs_of_pos hpos, abs_sub_comm, mul_assoc]
    rw [hdropped]
    constructor
    · have hnear : ((2 * |dropPlaces d.coeff k * 10 ^ k - d.coeff| : ℤ) : ℚ) ≤ 1 * 10 ^ k := by
        rw [one_mul]
        exact_mod_cast dropPlaces_near d.coeff k
      rw [← herror] at hnear
      linarith [le_of_mul_le_mul_right hnear hpos]
    · intro hhalf
      rw [hhalf] at herror
      norm_num at herror
      exact even_dropPlaces (by exact_mod_cast herror.symm)

end Decimal

end Loyalty
