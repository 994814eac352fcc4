import Loyalty.Binary64.Basic
import Loyalty.Text.Digits

/-!
# Loyalty.Binary64.Shortest

The shortest decimal that reads back as a given binary number, and its text.

The reals that round to `m · 2^e` form an interval around it, its ends included
when `m` is even.  For one digit, two, … seventeen, the two neighbours of the
number on that decimal grid are tried; the first grid that has one of them in
the interval gives the answer, of two the nearer, and of two equally near the
one with the even last digit.

The digits are written without an exponent by `positional`; forms with one are
for the documents that use them to choose.
-/

namespace Loyalty.Binary64

open Text

-- A power is the one of the core library.
attribute [local instance (high)] instPowNat

/-- The number `digits · 10 ^ exponent`. -/
structure Shortest where
  digits : Nat
  exponent : Int
  deriving DecidableEq, Inhabited

/-! ## the interval -/

/-- The ends of the interval of a number in quarters of its unit: half a unit to either side, and
only a quarter below where the exponent changes. -/
def quarters (x : Binary64) : Nat × Nat :=
  let below := if x.significand = 2 ^ (precision - 1) ∧ minExponent < x.exponent then 1 else 2
  (4 * x.significand - below, 4 * x.significand + 2)

/-- Whether `n · 10 ^ k` reads back as the number. -/
def readsBack (x : Binary64) (n : Nat) (k : Int) : Bool :=
  let (low, high) := x.quarters
  let scaled := 4 * n * 10 ^ k.toNat * 2 ^ (-x.exponent).toNat
  let unit := 2 ^ x.exponent.toNat * 10 ^ (-k).toNat
  if x.significand % 2 = 0 then low * unit ≤ scaled && scaled ≤ high * unit
  else low * unit < scaled && scaled < high * unit

/-- The whole part of the number in units of `10 ^ k`. -/
def gridFloor (x : Binary64) (k : Int) : Nat :=
  x.num * 10 ^ (-k).toNat / (x.den * 10 ^ k.toNat)

/-- Twice the number in units of `10 ^ k`, compared with an odd number of half units. -/
def compareHalf (x : Binary64) (k : Int) (halves : Nat) : Ordering :=
  compare (2 * x.num * 10 ^ (-k).toNat) (halves * (x.den * 10 ^ k.toNat))

/-- The neighbour on the grid of `10 ^ k` that reads back, the nearer of two. -/
def onGrid? (x : Binary64) (k : Int) : Option Nat :=
  let low := x.gridFloor k
  match x.readsBack low k, x.readsBack (low + 1) k with
  | true, true =>
    match x.compareHalf k (2 * low + 1) with
    | .lt => some low
    | .gt => some (low + 1)
    | .eq => some (if low % 2 = 0 then low else low + 1)
  | true, false => some low
  | false, true => some (low + 1)
  | false, false => none

/-- The first grid from `10 ^ k` downwards, `fuel` of them, that has a number that reads back. -/
def search (x : Binary64) (k : Int) : Nat → Shortest
  | 0 => ⟨x.gridFloor k, k⟩
  | fuel + 1 =>
    match x.onGrid? k with
    | some n => ⟨n, k⟩
    | none => x.search (k - 1) fuel

/-- An exponent of ten above the number, by its bit length. -/
def topExponent (x : Binary64) : Int :=
  ((bitLength x.significand : Int) + x.exponent) * 30103 / 100000 + 1

/-- The shortest decimal that reads back as the number. -/
def shortest (x : Binary64) : Shortest :=
  if x.significand = 0 then ⟨0, 0⟩ else x.search x.topExponent 20

/-! ## the text without exponent -/

/-- The digits with a point and no exponent; no point when all are before it. -/
def Shortest.positionalChars (s : Shortest) : List Char :=
  let ds := Digits.ofNat s.digits
  if 0 ≤ s.exponent then ds ++ List.replicate s.exponent.toNat '0'
  else
    let places := (-s.exponent).toNat
    let padded := List.replicate (places + 1 - ds.length) '0' ++ ds
    padded.take (padded.length - places) ++ '.' :: padded.drop (padded.length - places)

/-- The number without an exponent, the sign first. -/
def positional (x : Binary64) : List Char :=
  (if x.negative then ['-'] else []) ++ x.shortest.positionalChars

end Loyalty.Binary64
