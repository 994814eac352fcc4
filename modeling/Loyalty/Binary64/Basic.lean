/-!
# Loyalty.Binary64.Basic

Finite binary floating-point numbers of 64 bits, as exact values.

A `Binary64` is a sign, a significand below 2⁵³ and an exponent of two; the
significand fills its 53 bits unless the exponent is the least one.  Every
operation takes the exact rational result and rounds it once, to nearest and
half to even (`ofRatio?`), so what a chain of operations gives can be read off
the definitions.  A result too large for the format is `none`.
-/

namespace Loyalty

-- A power is the one of the core library.
attribute [local instance (high)] instPowNat

/-- The number `± significand · 2 ^ exponent`. -/
structure Binary64 where
  negative : Bool
  significand : Nat
  exponent : Int
  deriving DecidableEq, Inhabited

namespace Binary64

/-- Bits of a full significand. -/
def precision : Nat := 53

/-- The exponent of the smallest numbers. -/
def minExponent : Int := -1074

/-- The largest exponent of a full significand. -/
def maxExponent : Int := 971

/-! ## rounding -/

/-- A quotient rounded to nearest, half to even. -/
def divNearest (n d : Nat) : Nat :=
  if 2 * (n % d) < d then n / d
  else if d < 2 * (n % d) then n / d + 1
  else if n / d % 2 = 0 then n / d else n / d + 1

/-- The bit length of a number, zero for zero. -/
def bitLength (n : Nat) : Nat := if n = 0 then 0 else n.log2 + 1

/-- The quotient `num / den` in units of `2 ^ exponent`, rounded. -/
def quotientAt (num den : Nat) (exponent : Int) : Nat :=
  if 0 ≤ exponent then divNearest num (den * 2 ^ exponent.toNat)
  else divNearest (num * 2 ^ (-exponent).toNat) den

/-- The whole part of `num / den` in units of `2 ^ exponent`. -/
def floorAt (num den : Nat) (exponent : Int) : Nat :=
  if 0 ≤ exponent then num / (den * 2 ^ exponent.toNat)
  else num * 2 ^ (-exponent).toNat / den

/-- The exponent at which the quotient `num / den` fills the precision, or the least one. The bit
lengths give it up to one, and the whole part at the smaller candidate decides. -/
def exponentOf (num den : Nat) : Int :=
  let guess : Int := bitLength num - bitLength den - precision
  let fitted := if floorAt num den guess < 2 ^ precision then guess else guess + 1
  max fitted minExponent

/-- The number nearest to `num / den`, the even one of two; `none` when it is too large. -/
def ofRatio? (negative : Bool) (num den : Nat) : Option Binary64 :=
  if num = 0 then some ⟨negative, 0, minExponent⟩
  else
    let exponent := exponentOf num den
    let significand := quotientAt num den exponent
    let carried := significand = 2 ^ precision
    let result : Binary64 :=
      ⟨negative, if carried then significand / 2 else significand,
        if carried then exponent + 1 else exponent⟩
    if maxExponent < result.exponent then none else some result

/-- The nearest number to a natural number. -/
def ofNat? (n : Nat) : Option Binary64 := ofRatio? false n 1

/-! ## exact values -/

/-- The numerator of the magnitude as a fraction. -/
def num (x : Binary64) : Nat := x.significand * 2 ^ x.exponent.toNat

/-- The denominator of the magnitude as a fraction, a power of two. -/
def den (x : Binary64) : Nat := 2 ^ (-x.exponent).toNat

/-! ## arithmetic on magnitudes -/

/-- The product of the magnitudes, with the sign of the first. -/
def mul? (x y : Binary64) : Option Binary64 := ofRatio? x.negative (x.num * y.num) (x.den * y.den)

/-- The quotient of the magnitudes, with the sign of the first; the divisor is not zero. -/
def div? (x y : Binary64) : Option Binary64 := ofRatio? x.negative (x.num * y.den) (x.den * y.num)

/-- The sum of the magnitudes, with the sign of the first. -/
def add? (x y : Binary64) : Option Binary64 :=
  ofRatio? x.negative (x.num * y.den + y.num * x.den) (x.den * y.den)

/-- The nearest whole number, a half away from zero. -/
def roundHalfUp? (x : Binary64) : Option Binary64 :=
  ofRatio? x.negative ((2 * x.num + x.den) / (2 * x.den)) 1

/-- The number with the other sign. -/
def neg (x : Binary64) : Binary64 := { x with negative := !x.negative }

example : ofRatio? false 1 10 = some ⟨false, 7205759403792794, -56⟩ := by decide +kernel
example : ofNat? 9007199254740993 = some ⟨false, 4503599627370496, 1⟩ := by decide +kernel
example : ofNat? (2 ^ 1024) = none := by decide +kernel

end Binary64

end Loyalty
