import Loyalty.Proofs.Decimal.Value

/-!
# Loyalty.Proofs.Decimal.Sum

What a sum of decimals is when it does not fit.

A sum that has too many digits gives up its last places.  `Rounds x d` says what
that leaves of the exact number `x`: a decimal that is half a unit away at most,
and, unless nothing was lost, one whose coefficient would not have fitted with
one place more.  From these two facts alone follows what balances rest on:

* `Rounds.le_toRat` and `Rounds.toRat_le` — a bound on the exact number that has
  no more places than the result is a bound on the result;
* `Rounds.onGrid` — a number never needs more places for being rounded;
* `Rounds.eq_of_onGrid` — a number of moderate size loses only places that come
  after the fourteenth;
* `Rounds.le_of_add` — adding what is not negative never makes a number smaller,
  although the sum may have fewer places than the number.

A sum exists whenever there is a decimal as large (`exists_add?`), so what is taken
from a number that covers it always leaves one (`exists_sub?_of_le`).
-/

namespace Loyalty

namespace Decimal

/-! ## dropped places -/

/-- What dropping places adds to a coefficient is what it adds to the magnitude, with the sign. -/
theorem dropPlaces_mul_sub (c : ℤ) (k : ℕ) :
    dropPlaces c k * 10 ^ k - c = c.sign * (divHalfEven c.natAbs (10 ^ k) * 10 ^ k - c.natAbs) := by
  rw [dropPlaces, mul_sub, Int.sign_mul_natAbs, mul_assoc]

/-- Dropping places is rounding to within half of the last place that is left. -/
theorem dropPlaces_near (c : ℤ) (k : ℕ) : 2 * |dropPlaces c k * 10 ^ k - c| ≤ 10 ^ k := by
  obtain ⟨hle, hge⟩ := divHalfEven_near c.natAbs (d := 10 ^ k) (by positivity)
  obtain ⟨r, hr⟩ : ∃ r : ℤ, r = divHalfEven c.natAbs (10 ^ k) * 10 ^ k := ⟨_, rfl⟩
  have hsign : dropPlaces c k * 10 ^ k - c = c.sign * (r - c.natAbs) := by
    rw [dropPlaces_mul_sub, hr]
  have hone : |c.sign| ≤ 1 := by
    rcases lt_trichotomy c 0 with h | h | h
    · simp [Int.sign_eq_neg_one_of_neg h]
    · simp [h]
    · simp [Int.sign_eq_one_of_pos h]
  have hnear : 2 * |r - c.natAbs| ≤ 10 ^ k := by
    have hle' : 2 * r ≤ 2 * c.natAbs + 10 ^ k := by rw [hr]; exact_mod_cast hle
    have hge' : 2 * (c.natAbs : ℤ) ≤ 2 * r + 10 ^ k := by rw [hr]; exact_mod_cast hge
    rcases abs_cases (r - (c.natAbs : ℤ)) with ⟨h, -⟩ | ⟨h, -⟩ <;> rw [h] <;> linarith
  calc
    2 * |dropPlaces c k * 10 ^ k - c| = |c.sign| * (2 * |r - c.natAbs|) := by
      rw [hsign, abs_mul]; ring
    _ ≤ 1 * (2 * |r - c.natAbs|) := by gcongr
    _ ≤ 10 ^ k := by rw [one_mul]; exact hnear

theorem dropPlaces_zero (c : ℤ) : dropPlaces c 0 = c := by
  have hnear := dropPlaces_near c 0
  rw [pow_zero, mul_one] at hnear
  have hzero : |dropPlaces c 0 - c| = 0 := by
    have := abs_nonneg (dropPlaces c 0 - c)
    omega
  rw [abs_eq_zero] at hzero
  omega

theorem natAbs_dropPlaces_le (c : ℤ) (k : ℕ) :
    (dropPlaces c k).natAbs ≤ divHalfEven c.natAbs (10 ^ k) := by
  have hsign : c.sign.natAbs ≤ 1 := by rw [Int.natAbs_sign]; split <;> omega
  rw [dropPlaces, Int.natAbs_mul, Int.natAbs_natCast]
  exact (Nat.mul_le_mul_right _ hsign).trans (one_mul _).le

/-- The excess is the number of digits after whose loss a coefficient fits. -/
theorem div_excess_lt (n : ℕ) : n / 10 ^ excess n < coeffBound := by
  induction n using excess.induct with
  | case1 n h => simp [excess, h]
  | case2 n h ih =>
      rw [excess, if_neg h, pow_add, pow_one, ← Nat.div_div_eq_div_mul]
      exact ih

/-- With one digit less lost it would not fit. -/
theorem le_div_excess {n : ℕ} (h : 0 < excess n) : coeffBound ≤ n / 10 ^ (excess n - 1) := by
  induction n using excess.induct with
  | case1 n hn => simp [excess, hn] at h
  | case2 n hn ih =>
      rw [excess, if_neg hn] at h ⊢
      rw [Nat.add_sub_cancel_left]
      rcases Nat.eq_zero_or_pos (excess (n / 10)) with hz | hpos
      · simpa [hz] using hn
      · have hstep := ih hpos
        rw [Nat.div_div_eq_div_mul, ← pow_succ', Nat.sub_add_cancel hpos] at hstep
        exact hstep

/-- What fitting does: some last places are dropped, and with one of them back the coefficient
would be too large, or would be after rounding. -/
theorem fit?_eq_some {c : ℤ} {s : ℕ} {d : Decimal} (h : fit? c s = some d) :
    ∃ k ≤ s, d.scale = s - k ∧ d.coeff = dropPlaces c k ∧
      (k = 0 ∨ ∃ j, k = j + 1 ∧ 2 * (coeffBound * 10 ^ j) ≤ 2 * c.natAbs + 10 ^ j) := by
  unfold fit? at h
  dsimp only at h
  split at h
  · contradiction
  · next hk =>
    split at h
    · obtain ⟨hc, hs, -⟩ := ofParts?_eq_some_iff.mp h
      refine ⟨excess c.natAbs, by omega, hs, hc, ?_⟩
      rcases Nat.eq_zero_or_pos (excess c.natAbs) with hz | hpos
      · exact .inl hz
      · have hfull := Nat.mul_le_of_le_div _ _ _ (le_div_excess hpos)
        exact .inr ⟨excess c.natAbs - 1, by omega, le_add_right (Nat.mul_le_mul_left 2 hfull)⟩
    · next hbig =>
      split at h
      · contradiction
      · obtain ⟨hc, hs, -⟩ := ofParts?_eq_some_iff.mp h
        refine ⟨excess c.natAbs + 1, by omega, hs, hc, .inr ⟨_, rfl, ?_⟩⟩
        have hq : coeffBound ≤ divHalfEven c.natAbs (10 ^ excess c.natAbs) :=
          (Nat.le_of_not_lt hbig).trans (natAbs_dropPlaces_le c _)
        have hnear := (divHalfEven_near c.natAbs (d := 10 ^ excess c.natAbs) (by positivity)).1
        have hmul := Nat.mul_le_mul_right (10 ^ excess c.natAbs) hq
        omega

/-! ## rounded numbers -/

/-- What is left of an exact number as a decimal. -/
structure Rounds (x : ℚ) (d : Decimal) : Prop where
  /-- At most half of the last place was lost or gained. -/
  near : |(d.coeff : ℚ) - x * 10 ^ d.scale| ≤ 1 / 2
  /-- Nothing was lost, or with one place more the coefficient would have been too large. -/
  exact_or_full : d.toRat = x ∨ (coeffBound : ℚ) - 1 / 2 ≤ |x| * 10 ^ (d.scale + 1)

theorem Rounds.of_eq {x : ℚ} {d : Decimal} (h : d.toRat = x) : Rounds x d where
  near := by rw [← h, toRat_mul_pow]; norm_num
  exact_or_full := .inl h

/-- Fitting rounds. -/
theorem rounds_of_fit? {c : ℤ} {s : ℕ} {d : Decimal} (h : fit? c s = some d) :
    Rounds (c / 10 ^ s) d := by
  obtain ⟨k, hk, hscale, hcoeff, hfull⟩ := fit?_eq_some h
  have hpow : (10 : ℚ) ^ s = 10 ^ d.scale * 10 ^ k := by
    rw [hscale, ← pow_add, Nat.sub_add_cancel hk]
  have hx : (c : ℚ) / 10 ^ s * 10 ^ d.scale = c / 10 ^ k := by
    rw [hpow]; field_simp
  have hdrop : (2 : ℚ) * |(d.coeff : ℚ) * 10 ^ k - c| ≤ 10 ^ k := by
    rw [hcoeff]; exact_mod_cast dropPlaces_near c k
  refine ⟨?_, ?_⟩
  · have hsplit : (d.coeff : ℚ) - c / 10 ^ k = (d.coeff * 10 ^ k - c) / 10 ^ k := by field_simp
    rw [hx, hsplit, abs_div, abs_of_pos (by positivity : (0 : ℚ) < 10 ^ k),
      div_le_iff₀ (by positivity)]
    linarith
  · rcases hfull with rfl | ⟨j, rfl, hfull⟩
    · left
      rw [toRat_eq, hcoeff, dropPlaces_zero, hscale, Nat.sub_zero]
    · right
      have hfull' : (2 : ℚ) * (coeffBound * 10 ^ j) ≤ 2 * |(c : ℚ)| + 10 ^ j := by
        have hcast : |(c : ℚ)| = (c.natAbs : ℚ) := by simp
        rw [hcast]
        exact_mod_cast hfull
      have habs : |(c : ℚ) / 10 ^ s| * 10 ^ (d.scale + 1) = |(c : ℚ)| / 10 ^ j := by
        rw [abs_div, abs_of_pos (by positivity : (0 : ℚ) < 10 ^ s), hpow, pow_succ, pow_succ]
        field_simp
      rw [habs, le_div_iff₀ (by positivity)]
      linarith

/-- A sum rounds the sum of the numbers. -/
theorem rounds_of_add? {a b d : Decimal} (h : a.add? b = some d) :
    Rounds (a.toRat + b.toRat) d := by
  unfold add? at h
  split at h
  · next ha =>
    obtain rfl := Option.some.inj h
    exact .of_eq (by rw [(toRat_eq_zero_iff a).mpr ha, zero_add])
  · split at h
    · next hb =>
      obtain rfl := Option.some.inj h
      exact .of_eq (by rw [(toRat_eq_zero_iff b).mpr hb, add_zero])
    · have hsum : a.toRat + b.toRat =
          ((a.coeffAt (max a.scale b.scale) + b.coeffAt (max a.scale b.scale) : ℤ) : ℚ) /
            10 ^ max a.scale b.scale := by
        push_cast
        rw [coeffAt_cast (le_max_left _ _), coeffAt_cast (le_max_right _ _), ← add_mul,
          mul_div_cancel_right₀ _ (by positivity)]
      rw [hsum]
      exact rounds_of_fit? h

theorem rounds_of_sub? {a b d : Decimal} (h : a.sub? b = some d) :
    Rounds (a.toRat - b.toRat) d := by
  have hsum := rounds_of_add? h
  rwa [toRat_neg, ← sub_eq_add_neg] at hsum

/-! ## bounds -/

/-- A bound of moderate size: all that balances ever come to stays below it. -/
def moderate : ℚ := 10 ^ 14

namespace Rounds

variable {x y : ℚ} {d : Decimal}

/-- A lower bound of the exact number on the grid of the result is one of the result. -/
theorem le_toRat (h : Rounds x d) (hy : OnGrid d.scale y) (hyx : y ≤ x) : y ≤ d.toRat := by
  obtain ⟨m, rfl⟩ := hy
  have hlow := (abs_le.mp h.near).1
  have hm : (m : ℚ) ≤ x * 10 ^ d.scale := by rwa [div_le_iff₀ (pow_scale_pos d)] at hyx
  have hlt : (m : ℚ) < d.coeff + 1 := by linarith
  have hle : m ≤ d.coeff := Int.lt_add_one_iff.mp (by exact_mod_cast hlt)
  rw [toRat_eq]
  gcongr

/-- An upper bound of the exact number on the grid of the result is one of the result. -/
theorem toRat_le (h : Rounds x d) (hy : OnGrid d.scale y) (hxy : x ≤ y) : d.toRat ≤ y := by
  obtain ⟨m, rfl⟩ := hy
  have hup := (abs_le.mp h.near).2
  have hm : x * 10 ^ d.scale ≤ (m : ℚ) := by rwa [le_div_iff₀ (pow_scale_pos d)] at hxy
  have hlt : (d.coeff : ℚ) < m + 1 := by linarith
  have hle : d.coeff ≤ m := Int.lt_add_one_iff.mp (by exact_mod_cast hlt)
  rw [toRat_eq]
  gcongr

theorem nonneg (h : Rounds x d) (hx : 0 ≤ x) : 0 ≤ d.toRat := h.le_toRat (onGrid_zero _) hx

/-- A number with no more places than the result is not changed. -/
theorem eq_of_onGrid_scale (h : Rounds x d) (hx : OnGrid d.scale x) : d.toRat = x :=
  le_antisymm (h.toRat_le hx le_rfl) (h.le_toRat hx le_rfl)

/-- A number has no more places after rounding than before: the result has few places itself, or
else so many that nothing was lost. -/
theorem onGrid {s : ℕ} (h : Rounds x d) (hx : OnGrid s x) : OnGrid s d.toRat := by
  rcases Nat.le_total s d.scale with hle | hle
  · rwa [h.eq_of_onGrid_scale (hx.mono hle)]
  · exact d.onGrid_toRat.mono hle

/-- A number of moderate size that lost something keeps fourteen places. -/
theorem le_scale (h : Rounds x d) (hx : |x| ≤ moderate) (hne : d.toRat ≠ x) : 14 ≤ d.scale := by
  have hfull := h.exact_or_full.resolve_left hne
  by_contra hlt
  have hpow : (10 : ℚ) ^ (d.scale + 1) ≤ 10 ^ 14 := by
    gcongr
    · norm_num
    · omega
  have hprod : |x| * 10 ^ (d.scale + 1) ≤ 10 ^ 14 * 10 ^ 14 := by
    unfold moderate at hx
    gcongr
  norm_num [coeffBound] at hfull hprod
  linarith

/-- A number of moderate size with few places is not changed. -/
theorem eq_of_onGrid (h : Rounds x d) (hx : |x| ≤ moderate) (hg : OnGrid 14 x) : d.toRat = x := by
  by_contra hne
  exact hne (h.eq_of_onGrid_scale (hg.mono (h.le_scale hx hne)))

/-- A bound with few places on a number of moderate size holds after rounding. -/
theorem toRat_le_of_onGrid (h : Rounds x d) (hx : |x| ≤ moderate) (hg : OnGrid 14 y) (hxy : x ≤ y) :
    d.toRat ≤ y := by
  by_cases he : d.toRat = x
  · rw [he]; exact hxy
  · exact h.toRat_le (hg.mono (h.le_scale hx he)) hxy

/-- The exact number is not far above the result. -/
theorem le_add_half (h : Rounds x d) : x ≤ d.toRat + 1 / 2 := by
  have hlow := (abs_le.mp h.near).1
  have hone : (1 : ℚ) ≤ 10 ^ d.scale := one_le_pow₀ (by norm_num)
  rw [toRat_eq, ← sub_le_iff_le_add, le_div_iff₀ (pow_scale_pos d)]
  nlinarith

/-- Adding what is not negative does not make a number smaller. When the sum keeps all places of
the number, rounding respects the number as a bound. When it does not, the sum is so large that
its coefficient had to be cut, while that of the number still fitted with a place more. -/
theorem le_of_add {a : Decimal} (h : Rounds (a.toRat + y) d) (ha : 0 ≤ a.toRat) (hy : 0 ≤ y) :
    a.toRat ≤ d.toRat := by
  rcases h.exact_or_full with he | hfull
  · rw [he]; linarith
  · rcases Nat.lt_or_ge d.scale a.scale with hlt | hge
    · have hcoeff : (a.coeff : ℚ) ≤ 79228162514264337593543950335 := by
        have hc := a.coeff_lt
        have hle : a.coeff ≤ 79228162514264337593543950335 := by
          simp only [coeffBound] at hc
          omega
        exact_mod_cast hle
      have hnum : a.toRat * 10 ^ (d.scale + 1) ≤ 79228162514264337593543950335 := by
        have hp : (10 : ℚ) ^ (d.scale + 1) ≤ 10 ^ a.scale := by
          gcongr
          · norm_num
          · omega
        calc
          a.toRat * 10 ^ (d.scale + 1) ≤ a.toRat * 10 ^ a.scale := by gcongr
          _ = a.coeff := toRat_mul_pow a
          _ ≤ _ := hcoeff
      rw [abs_of_nonneg (by linarith)] at hfull
      have hlow := (abs_le.mp h.near).1
      have hbig : (7922816251426433759354395033 : ℚ) < d.coeff := by
        rw [pow_succ] at hfull
        norm_num [coeffBound] at hfull
        linarith
      have hint : (7922816251426433759354395034 : ℚ) ≤ d.coeff := by
        have : (7922816251426433759354395033 : ℤ) < d.coeff := by exact_mod_cast hbig
        exact_mod_cast this
      rw [pow_succ, ← mul_assoc] at hnum
      rw [toRat_eq d, le_div_iff₀ (pow_scale_pos d)]
      linarith
    · exact h.le_toRat (a.onGrid_toRat.mono hge) (by linarith)

end Rounds

/-! ## sums that exist -/

/-- The largest decimal. -/
def largest : ℚ := (coeffBound - 1 : ℕ)

theorem moderate_le_largest : moderate ≤ largest := by
  norm_num [moderate, largest, coeffBound]

theorem abs_toRat_le_largest (d : Decimal) : |d.toRat| ≤ largest := by
  have hcoeff : |(d.coeff : ℚ)| ≤ largest := by
    have hle : d.coeff.natAbs ≤ coeffBound - 1 := Nat.le_sub_one_of_lt d.coeff_lt
    rw [largest, ← Int.cast_abs, Int.abs_eq_natAbs]
    exact_mod_cast hle
  rw [toRat_eq, abs_div, abs_of_pos (pow_scale_pos d)]
  exact (div_le_self (abs_nonneg _) (one_le_pow₀ (by norm_num))).trans hcoeff

/-- Fitting succeeds when there is a decimal as large: no more places are dropped than there are,
and what is left after one more is in range. -/
theorem exists_fit? {c : ℤ} {s : ℕ} (hs : s ≤ maxScale)
    (hc : c.natAbs ≤ (coeffBound - 1) * 10 ^ s) :
    ∃ d, fit? c s = some d := by
  have hk : excess c.natAbs ≤ s := by
    by_contra hlt
    have hfull := Nat.mul_le_of_le_div _ _ _ (le_div_excess (n := c.natAbs) (by omega))
    have hpow : 10 ^ s ≤ 10 ^ (excess c.natAbs - 1) := Nat.pow_le_pow_right (by decide) (by omega)
    have hpos : 0 < 10 ^ (excess c.natAbs - 1) := by positivity
    simp only [coeffBound] at hfull hc
    omega
  have hlt : c.natAbs < coeffBound * 10 ^ excess c.natAbs :=
    (Nat.div_lt_iff_lt_mul (by positivity)).mp (div_excess_lt c.natAbs)
  have hpos : 0 < 10 ^ excess c.natAbs := by positivity
  unfold fit?
  dsimp only
  rw [if_neg (by omega)]
  split
  · next h => exact ⟨_, dif_pos ⟨h, by omega⟩⟩
  · next hbig =>
    have hq := (Nat.le_of_not_lt hbig).trans (natAbs_dropPlaces_le c _)
    have hmul := Nat.mul_le_mul_right (10 ^ excess c.natAbs) hq
    have hnear := (divHalfEven_near c.natAbs hpos).1
    have hks : ¬ s < excess c.natAbs + 1 := by
      intro hlast
      obtain rfl : s = excess c.natAbs := by omega
      simp only [coeffBound] at hmul hc
      omega
    rw [if_neg hks]
    have hfits : (dropPlaces c (excess c.natAbs + 1)).natAbs < coeffBound := by
      refine (natAbs_dropPlaces_le c _).trans_lt ?_
      by_contra hover
      have hmul' := Nat.mul_le_mul_right (10 ^ (excess c.natAbs + 1)) (Nat.le_of_not_lt hover)
      have hnear' := (divHalfEven_near c.natAbs (d := 10 ^ (excess c.natAbs + 1)) (by positivity)).1
      rw [pow_succ] at hmul' hnear'
      simp only [coeffBound] at hlt hmul'
      omega
    exact ⟨_, dif_pos ⟨hfits, by omega⟩⟩

/-- A sum exists when there is a decimal as large. -/
theorem exists_add? {a b : Decimal} (h : |a.toRat + b.toRat| ≤ largest) :
    ∃ d, a.add? b = some d := by
  unfold add?
  split
  · exact ⟨b, rfl⟩
  · split
    · exact ⟨a, rfl⟩
    · refine exists_fit? (max_le a.scale_le b.scale_le) ?_
      have hsum : ((a.coeffAt (max a.scale b.scale) + b.coeffAt (max a.scale b.scale) : ℤ) : ℚ) =
          (a.toRat + b.toRat) * 10 ^ max a.scale b.scale := by
        push_cast
        rw [coeffAt_cast (le_max_left _ _), coeffAt_cast (le_max_right _ _), add_mul]
      have hle : |((a.coeffAt (max a.scale b.scale) + b.coeffAt (max a.scale b.scale) : ℤ) : ℚ)| ≤
          (coeffBound - 1 : ℕ) * 10 ^ max a.scale b.scale := by
        rw [hsum, abs_mul, abs_of_pos (by positivity : (0 : ℚ) < 10 ^ max a.scale b.scale)]
        exact mul_le_mul_of_nonneg_right h (by positivity)
      rw [← Int.cast_abs, Int.abs_eq_natAbs] at hle
      exact_mod_cast hle

theorem exists_sub? {a b : Decimal} (h : |a.toRat - b.toRat| ≤ largest) :
    ∃ d, a.sub? b = some d := by
  refine exists_add? ?_
  rwa [toRat_neg, ← sub_eq_add_neg]

/-- A number less what it covers exists. -/
theorem exists_sub?_of_le {a b : Decimal} (hb : 0 ≤ b.toRat) (hle : b.toRat ≤ a.toRat) :
    ∃ d, a.sub? b = some d := by
  refine exists_sub? ?_
  have hlargest := (le_abs_self _).trans a.abs_toRat_le_largest
  rw [abs_of_nonneg (by linarith)]
  linarith

end Decimal

end Loyalty
