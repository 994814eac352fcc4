import Loyalty.Json.Basic
import Loyalty.Decimal.Text
import Loyalty.Binary64.Shortest

/-!
# Loyalty.Json.Amount

Amounts read from JSON values.

An amount is a string, in the grammar of decimals with an exponent allowed, or
a number.  A whole number of 64 bits is taken exactly.  Every other number
becomes a binary number first — its leading digits, as many as 64 bits hold,
times a power of ten, each rounded — and then the decimal that is the shortest
text of it; so `0.1` is one tenth, and digits beyond the precision are lost.
-/

namespace Loyalty.Json

open Text

-- A power is the one of the core library.
attribute [local instance (high)] instPowNat

/-! ## numbers as binary numbers -/

/-- Digits taken into a significand as long as 64 bits hold it, and how many were left over. -/
def takeDigits (significand : Nat) : List Char → Nat × Nat
  | [] => (significand, 0)
  | c :: cs =>
    let next := 10 * significand + Decimal.digitValue c
    if next < 0x10000000000000000 then takeDigits next cs else (significand, (c :: cs).length)

/-- The power of ten nearest to `10 ^ n`, for `n` up to 308. -/
def power10? (n : Nat) : Option Binary64 := Binary64.ofNat? (10 ^ n)

/-- The largest power of ten that is divided by at once. -/
def maxPower : Nat := 308

/-- A binary number divided by the largest power of ten a number of times, or until it is zero. -/
def divideByMaxPower? (x : Binary64) : Nat → Option Binary64
  | 0 => some x
  | times + 1 =>
    if x.significand = 0 then some x
    else
      match (power10? maxPower).bind x.div? with
      | some y => divideByMaxPower? y times
      | none => none

/-- A binary number divided by `10 ^ n`, by at most the largest power at a time. -/
def divideByPower? (x : Binary64) (n : Nat) : Option Binary64 := do
  let times := (n - 1) / maxPower
  let y ← divideByMaxPower? x times
  y.div? (← power10? (n - times * maxPower))

/-- A binary number times a power of ten; `none` when it is too large. -/
def scaleByPower? (x : Binary64) (exponent : Int) : Option Binary64 :=
  if exponent < 0 then divideByPower? x exponent.natAbs
  else if exponent ≤ maxPower then do x.mul? (← power10? exponent.toNat)
  else if x.significand = 0 then some x
  else none

/-- The largest exponent that is looked at. -/
def maxWrittenExponent : Int := 2147483647

/-- The binary number that the digits of a document stand for. -/
def Number.toBinary64? (n : Number) : Option Binary64 := do
  let (whole, skipped) := takeDigits 0 n.whole
  let (significand, unread) := takeDigits whole n.fraction
  let places : Int := skipped - (n.fraction.length - unread : Nat)
  let x ← Binary64.ofRatio? n.negative significand 1
  match n.exponent with
  | none => scaleByPower? x places
  | some e =>
    if maxWrittenExponent < e.natAbs then
      if significand = 0 ∨ e < 0 then some ⟨n.negative, 0, Binary64.minExponent⟩ else none
    else scaleByPower? x (places + e)

/-! ## numbers as amounts -/

/-- The whole number that a number without point and exponent is, when 64 bits hold it. Zero with a
sign is left to the binary numbers. -/
def Number.toInt64? (n : Number) : Option Int :=
  if n.fraction.isEmpty ∧ n.exponent.isNone then
    let (magnitude, skipped) := takeDigits 0 n.whole
    if skipped ≠ 0 then none
    else if !n.negative then some magnitude
    else if 0 < magnitude ∧ magnitude ≤ 0x8000000000000000 then some (-(magnitude : Int))
    else none
  else none

/-- The amount of a number. -/
def Number.toDecimal? (n : Number) : Option Decimal :=
  match n.toInt64? with
  | some i => Decimal.ofParts? i 0
  | none => do Decimal.ofChars? (← n.toBinary64?).positional

/-- The amount of a value. -/
def toDecimal? : Json → Option Decimal
  | .string (some s) => Decimal.ofDocument? s
  | .number n => n.toDecimal?
  | _ => none

/-- The value of an amount: a string with all its places. -/
def ofDecimal (d : Decimal) : Json := text d.toText

end Loyalty.Json
