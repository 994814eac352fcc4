import Loyalty.Decimal.Basic
import Loyalty.Text.Digits

/-!
# Loyalty.Decimal.Text

Decimals as text.

The written form has every decimal place and no sign on zero, a negative zero
apart.  What is read is wider: a sign, digits with at most one point and, after
the first digit, underscores that count nothing.  Once a number has 28 places,
or its coefficient is full behind the point, the next character only rounds
(half away from zero) and behind it nothing but digits and underscores may
follow; a coefficient that is full before the point is refused.

Documents may also write an exponent (`ofDocument?`): the number before it is
read as above and the point is moved, by at most 28 places either way.
-/

namespace Loyalty.Decimal

open Text

-- A power is the one of the core library.
attribute [local instance (high)] instPowNat

/-! ## writing -/

/-- The sign of a negative number, the digits before the point, and all places behind it. -/
def toChars (d : Decimal) : List Char :=
  let n := d.coeff.natAbs
  let whole := Digits.ofNat (n / 10 ^ d.scale)
  let places := if d.scale = 0 then [] else '.' :: Digits.padded d.scale (n % 10 ^ d.scale)
  (if d.isNegative then ['-'] else []) ++ whole ++ places

/-- The number as text. -/
def toText (d : Decimal) : String := String.ofList d.toChars

/-! ## reading -/

/-- The value of a digit. -/
def digitValue (c : Char) : Nat := c.toNat - '0'.toNat

/-- Digits and underscores, which may follow where nothing counts any more. -/
def isIgnorable (c : Char) : Bool := c.isDigit || c == '_'

/-- A full coefficient rounded by the character that does not fit: five and above go up.
A rounding that overflows the coefficient gives up one place. -/
def roundAt (coeff scale : Nat) (c : Char) (rest : List Char) : Option (Nat × Nat) :=
  if !rest.all isIgnorable then none
  else if c.isDigit then
    if digitValue c < 5 then some (coeff, scale)
    else if coeff + 1 < coeffBound then some (coeff + 1, scale)
    else if scale = 0 then none
    else some ((coeff + 5) / 10, scale - 1)
  else if c = '_' || c = '.' then some (coeff, scale)
  else none

/-- The coefficient from which on the digits that follow it are read one by one. -/
def longCoeff : Nat := 1844674407370954906

/-- What the next character is read as. -/
inductive Turn
  /-- As a part of the number, like any other. -/
  | open
  /-- As the digit that rounds. -/
  | rounds
  /-- As the digit that rounds, unless it is an underscore: the character behind that is read as a
  part of the number again. -/
  | roundsLate

/-- What comes after a digit that was added to a coefficient. -/
def Turn.after (coeff places : Nat) : Turn :=
  if places < maxScale then .open
  else if coeff < longCoeff then .rounds
  else .roundsLate

/-- Digits, underscores and one point, read into a coefficient and a scale. `places` is the scale
once the point was met, `digits` tells whether a digit was. -/
def scan (coeff : Nat) (places : Option Nat) (digits : Bool) : Turn → List Char → Option (Nat × Nat)
  | _, [] => if digits then some (coeff, places.getD 0) else none
  | .rounds, c :: cs => roundAt coeff (places.getD 0) c cs
  | .roundsLate, c :: cs =>
    if c = '_' then scan coeff places digits .open cs else roundAt coeff (places.getD 0) c cs
  | .open, c :: cs =>
    if c.isDigit then
      let next := 10 * coeff + digitValue c
      match places with
      | none => if next < coeffBound then scan next none true .open cs else none
      | some n =>
        if next < coeffBound then scan next (some (n + 1)) true (.after coeff (n + 1)) cs
        else roundAt coeff n c cs
    else if c = '.' && places.isNone then scan coeff (some 0) digits .open cs
    else if c = '_' && digits then scan coeff places digits .open cs
    else none

/-- What was read, as a decimal; a scale beyond the largest starts again from zero. -/
def ofScan? (negative : Bool) (coeff scale : Nat) : Option Decimal :=
  ofParts? (if negative then -(coeff : Int) else coeff) (scale % (maxScale + 1))

/-- The number a text writes. -/
def ofChars? (cs : List Char) : Option Decimal :=
  match cs with
  | '-' :: rest => do
    let (coeff, scale) ← scan 0 none false .open rest
    ofScan? true coeff scale
  | '+' :: rest => do
    let (coeff, scale) ← scan 0 none false .open rest
    ofScan? false coeff scale
  | _ => do
    let (coeff, scale) ← scan 0 none false .open cs
    ofScan? false coeff scale

/-- The number a text writes. -/
def ofText? (s : String) : Option Decimal := ofChars? s.toList

/-! ## exponents -/

/-- The magnitude without its last `k` places, rounded half up. -/
def cutPlaces (magnitude k : Nat) : Nat := (magnitude + 10 ^ k / 2) / 10 ^ k

/-- The point moved left: the scale grows, and the places that would exceed its range are cut. -/
def moveLeft? (d : Decimal) (places : Nat) : Option Decimal :=
  if d.scale + places ≤ maxScale then ofParts? d.coeff (d.scale + places)
  else ofMagnitude? (d.coeff < 0) (cutPlaces d.coeff.natAbs (d.scale + places - maxScale)) maxScale

/-- The point moved right: the scale shrinks, and below zero places the coefficient grows. -/
def moveRight? (d : Decimal) (places : Nat) : Option Decimal :=
  if places ≤ d.scale then ofParts? d.coeff (d.scale - places)
  else ofParts? (d.coeff * 10 ^ (places - d.scale)) 0

/-- An exponent of at most 28, written in digits after an optional `+`. -/
def exponent? (cs : List Char) : Option Nat :=
  (Digits.unsigned? 32 cs).filter (· ≤ maxScale)

/-- A number with an exponent behind the first `e` or `E`. -/
def ofScientific? (cs : List Char) : Option Decimal :=
  let isMark := fun c => c == 'e' || c == 'E'
  match cs.dropWhile (!isMark ·) with
  | [] => none
  | _ :: exponent => do
    let base ← ofChars? (cs.takeWhile (!isMark ·))
    match exponent with
    | '-' :: digits => base.moveLeft? (← exponent? digits)
    | digits => base.moveRight? (← exponent? digits)

/-- The number a document writes as a string, with or without an exponent. -/
def ofDocument? (s : String) : Option Decimal :=
  (ofText? s).or (ofScientific? s.toList)

example : (ofText? "500.50").map toText = some "500.50" := by decide +kernel
example : (ofDocument? "1.5E-3").map toText = some "0.0015" := by decide +kernel
example : (ofDocument? "-0.04e-27").map toText = some "-0.0000000000000000000000000000" := by
  decide +kernel

end Loyalty.Decimal
