/-!
# Loyalty.Decimal.Basic

Amounts of points: decimal numbers with a coefficient below 2⁹⁶ and 0 to 28
decimal places.

The number of places is part of the value — `1.000` stays `1.000` when it is
written — but order and equality of amounts (`le`, `lt`, `same`) look only at
the number, by multiplying across.  Zero has no sign, unless it is what is left of
a negative number whose places were cut (`ofMagnitude?`).

Adding zero, of whatever scale, changes nothing.  Any other sum is exact as long
as it has, at the larger of the two scales, a coefficient below 2⁹⁶.  A sum that
does not fit gives up its last places, rounding to nearest and half to even, and
is refused only when no place is left to give up.
-/

namespace Loyalty

-- A power is the one of the core library.
attribute [local instance (high)] instPowNat

/-- One more than the largest coefficient. -/
def Decimal.coeffBound : Nat := 2 ^ (96 : Nat)

/-- The largest number of decimal places. -/
def Decimal.maxScale : Nat := 28

/-- The number `coeff / 10 ^ scale`, and whether a zero is written with a minus sign. -/
structure Decimal where
  coeff : Int
  scale : Nat
  negativeZero : Bool := false
  coeff_lt : coeff.natAbs < Decimal.coeffBound := by decide
  scale_le : scale ≤ Decimal.maxScale := by decide
  coeff_eq_zero : negativeZero = true → coeff = 0 := by nofun
  deriving DecidableEq

namespace Decimal

/-! ## values -/

/-- A coefficient and a scale as a decimal, when both are in range. -/
def ofParts? (coeff : Int) (scale : Nat) : Option Decimal :=
  if h : coeff.natAbs < coeffBound ∧ scale ≤ maxScale then
    some { coeff, scale, coeff_lt := h.1, scale_le := h.2 }
  else none

/-- The parts that are in range make the one decimal that has them, a zero without a sign. -/
theorem ofParts?_eq_some_iff {coeff : Int} {scale : Nat} {d : Decimal} :
    ofParts? coeff scale = some d ↔ d.coeff = coeff ∧ d.scale = scale ∧ d.negativeZero = false := by
  obtain ⟨c, s, z, hc, hs, hz⟩ := d
  unfold ofParts?
  constructor
  · split
    · rintro ⟨⟩
      exact ⟨rfl, rfl, rfl⟩
    · simp
  · rintro ⟨rfl, rfl, rfl⟩
    rw [dif_pos ⟨hc, hs⟩]

/-- A magnitude with a sign, which a zero keeps, as a decimal. -/
def ofMagnitude? (negative : Bool) (magnitude scale : Nat) : Option Decimal :=
  if h : magnitude < coeffBound ∧ scale ≤ maxScale then
    some {
      coeff := if negative then -(magnitude : Int) else magnitude
      scale
      negativeZero := negative && magnitude == 0
      coeff_lt := by
        split
        · simpa using h.1
        · simpa using h.1
      scale_le := h.2
      coeff_eq_zero := by
        simp only [Bool.and_eq_true, beq_iff_eq]
        rintro ⟨-, rfl⟩
        split <;> rfl }
  else none

/-- Whether the number is written with a minus sign. -/
def isNegative (d : Decimal) : Bool := d.negativeZero || decide (d.coeff < 0)

/-- Zero without decimal places. -/
def zero : Decimal where
  coeff := 0
  scale := 0

instance : Inhabited Decimal := ⟨zero⟩

/-- The exact value. -/
def toRat (d : Decimal) : Rat := (d.coeff : Rat) / ((10 ^ d.scale : Nat) : Rat)

/-- The coefficient that the number has at a scale that is not smaller. -/
def coeffAt (d : Decimal) (scale : Nat) : Int := d.coeff * 10 ^ (scale - d.scale)

/-! ## order -/

/-- At most as large, whatever the scales. -/
def le (a b : Decimal) : Prop := a.coeff * 10 ^ b.scale ≤ b.coeff * 10 ^ a.scale

/-- Smaller, whatever the scales. -/
def lt (a b : Decimal) : Prop := a.coeff * 10 ^ b.scale < b.coeff * 10 ^ a.scale

instance : LE Decimal := ⟨le⟩
instance : LT Decimal := ⟨lt⟩

instance (a b : Decimal) : Decidable (a ≤ b) :=
  inferInstanceAs (Decidable (a.coeff * 10 ^ b.scale ≤ b.coeff * 10 ^ a.scale))

instance (a b : Decimal) : Decidable (a < b) :=
  inferInstanceAs (Decidable (a.coeff * 10 ^ b.scale < b.coeff * 10 ^ a.scale))

/-- Decimals are compared at a common scale. -/
theorem le_iff (a b : Decimal) : a ≤ b ↔ a.coeff * 10 ^ b.scale ≤ b.coeff * 10 ^ a.scale := Iff.rfl

/-- Decimals are compared at a common scale. -/
theorem lt_iff (a b : Decimal) : a < b ↔ a.coeff * 10 ^ b.scale < b.coeff * 10 ^ a.scale := Iff.rfl

/-- The same number, perhaps at another scale. -/
def same (a b : Decimal) : Prop := a.coeff * 10 ^ b.scale = b.coeff * 10 ^ a.scale

/-- A number is positive when its coefficient is. -/
theorem zero_lt_iff (d : Decimal) : zero < d ↔ 0 < d.coeff := by
  simp [lt_iff, zero]

/-- A number is not positive when its coefficient is not. -/
theorem le_zero_iff (d : Decimal) : d ≤ zero ↔ d.coeff ≤ 0 := by
  simp [le_iff, zero]

/-! ## rounding a coefficient -/

/-- A quotient of natural numbers rounded to nearest, half to even. -/
def divHalfEven (n d : Nat) : Nat :=
  if 2 * (n % d) < d then n / d
  else if d < 2 * (n % d) then n / d + 1
  else if n / d % 2 = 0 then n / d else n / d + 1

/-- Rounding is within half a unit, whatever the tie. -/
theorem divHalfEven_near (n : Nat) {d : Nat} (hd : 0 < d) :
    2 * (divHalfEven n d * d) ≤ 2 * n + d ∧ 2 * n ≤ 2 * (divHalfEven n d * d) + d := by
  have hn := Nat.div_add_mod n d
  have hr := Nat.mod_lt n hd
  have hc : d * (n / d) = n / d * d := Nat.mul_comm ..
  have hs : (n / d + 1) * d = n / d * d + d := Nat.succ_mul ..
  unfold divHalfEven
  split
  · omega
  · split
    · rw [hs]; omega
    · split
      · omega
      · rw [hs]; omega

/-- A coefficient with `k` places fewer, the sign kept. -/
def dropPlaces (coeff : Int) (k : Nat) : Int :=
  coeff.sign * (divHalfEven coeff.natAbs (10 ^ k) : Nat)

/-! ## sums -/

/-- The number of decimal digits by which a coefficient is too long. -/
def excess (n : Nat) : Nat :=
  if n < coeffBound then 0 else 1 + excess (n / 10)
decreasing_by
  have : ¬ n < 2 ^ (96 : Nat) := by assumption
  omega

/-- A value fitted to 96 bits: the fewest last places are dropped that bring the coefficient
into range, one more when rounding takes it out of range again; `none` when the places do not
suffice. -/
def fit? (coeff : Int) (scale : Nat) : Option Decimal :=
  let k := excess coeff.natAbs
  if scale < k then none
  else
    let kept := dropPlaces coeff k
    if kept.natAbs < coeffBound then ofParts? kept (scale - k)
    else if scale < k + 1 then none
    else ofParts? (dropPlaces coeff (k + 1)) (scale - (k + 1))

/-- The sum at the larger scale, with fewer places when it would not fit; a zero has no say in
the scale. -/
def add? (a b : Decimal) : Option Decimal :=
  if a.coeff = 0 then some b
  else if b.coeff = 0 then some a
  else
    let scale := max a.scale b.scale
    fit? (a.coeffAt scale + b.coeffAt scale) scale

/-- The number with the other sign; a zero stays what it is. -/
def neg (d : Decimal) : Decimal where
  coeff := -d.coeff
  scale := d.scale
  negativeZero := d.negativeZero
  coeff_lt := by simpa using d.coeff_lt
  scale_le := d.scale_le
  coeff_eq_zero := fun h => by rw [d.coeff_eq_zero h]; rfl

/-- The difference, under the same rule as the sum. -/
def sub? (a b : Decimal) : Option Decimal := a.add? b.neg

/-! ## fewer places -/

/-- Trailing zeros dropped from the last `scale` places of a coefficient. -/
def stripZeros (coeff : Int) : Nat → Int × Nat
  | 0 => (coeff, 0)
  | scale + 1 => if coeff % 10 = 0 then stripZeros (coeff / 10) scale else (coeff, scale + 1)

/-- Stripping keeps the number: what the coefficient loses the scale loses too. -/
theorem stripZeros_value (coeff : Int) (scale : Nat) :
    (stripZeros coeff scale).1 * 10 ^ scale = coeff * 10 ^ (stripZeros coeff scale).2 := by
  induction scale generalizing coeff with
  | zero => simp [stripZeros]
  | succ scale ih =>
    unfold stripZeros
    split
    · next h =>
      obtain ⟨q, rfl⟩ : ∃ q, coeff = q * 10 := ⟨coeff / 10, by omega⟩
      rw [Int.mul_ediv_cancel _ (by decide), Int.pow_succ, ← Int.mul_assoc, ih q, Int.mul_assoc,
        Int.mul_assoc, Int.mul_comm 10]
    · rfl

/-- Without zeros at the end there are no more places. -/
theorem stripZeros_scale_le (coeff : Int) (scale : Nat) : (stripZeros coeff scale).2 ≤ scale := by
  induction scale generalizing coeff with
  | zero => simp [stripZeros]
  | succ scale ih =>
    unfold stripZeros
    split
    · exact Nat.le_succ_of_le (ih _)
    · exact Nat.le_refl _

/-- Without zeros at the end a coefficient is no larger. -/
theorem stripZeros_natAbs_le (coeff : Int) (scale : Nat) :
    (stripZeros coeff scale).1.natAbs ≤ coeff.natAbs := by
  induction scale generalizing coeff with
  | zero => simp [stripZeros]
  | succ scale ih =>
    unfold stripZeros
    split
    · exact Nat.le_trans (ih _) (by omega)
    · exact Nat.le_refl _

/-- The number without trailing zeros after the point. -/
def normalize (d : Decimal) : Decimal where
  coeff := (stripZeros d.coeff d.scale).1
  scale := (stripZeros d.coeff d.scale).2
  coeff_lt := Nat.lt_of_le_of_lt (stripZeros_natAbs_le ..) d.coeff_lt
  scale_le := Nat.le_trans (stripZeros_scale_le ..) d.scale_le

/-- A rounded quotient is no larger than what was divided. -/
theorem divHalfEven_le (n : Nat) {d : Nat} (hd : 2 ≤ d) : divHalfEven n d ≤ n := by
  have h := Nat.div_add_mod n d
  have hdq : 2 * (n / d) ≤ d * (n / d) := Nat.mul_le_mul_right _ hd
  have hq : n / d = 0 ∨ 1 ≤ n / d := by omega
  unfold divHalfEven
  split
  · omega
  · split
    · rcases hq with hq | hq
      · rw [hq] at h ⊢; simp at h; omega
      · omega
    · split
      · omega
      · rcases hq with hq | hq
        · omega
        · omega

/-- The number with at most `places` decimal places, rounded half to even. -/
def round (d : Decimal) (places : Nat) : Decimal :=
  if h : d.scale ≤ places then d
  else
    { coeff := dropPlaces d.coeff (d.scale - places)
      scale := places
      coeff_lt := by
        refine Nat.lt_of_le_of_lt ?_ d.coeff_lt
        have hp : 2 ≤ 10 ^ (d.scale - places) := by
          have : 10 ^ 1 ≤ 10 ^ (d.scale - places) := Nat.pow_le_pow_right (by decide) (by omega)
          omega
        have hle := divHalfEven_le d.coeff.natAbs hp
        unfold dropPlaces
        rw [Int.natAbs_mul, Int.natAbs_natCast]
        rcases Int.lt_trichotomy d.coeff 0 with h0 | h0 | h0
        · rw [Int.sign_eq_neg_one_of_neg h0]; simpa using hle
        · rw [h0]; simp
        · rw [Int.sign_eq_one_of_pos h0]; simpa using hle
      scale_le := Nat.le_trans (Nat.le_of_not_le h) d.scale_le }

end Decimal

end Loyalty
