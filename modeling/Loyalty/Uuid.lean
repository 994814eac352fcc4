import Loyalty.Text.Hex

/-!
# Loyalty.Uuid

Identifiers of 128 bits and the kinds of thing they identify.

An identifier is written as 32 lower-case hexadecimal digits, hyphenated
8-4-4-4-12.  It is read in four forms, digits in either case: the digits alone,
hyphenated, hyphenated in braces, and hyphenated after `urn:uuid:`.

A fresh identifier starts with the time at which it was made, so later ones are
greater.
-/

namespace Loyalty

open Text

/-- An identifier of 128 bits. -/
structure Uuid where
  bits : BitVec 128
  deriving DecidableEq, Inhabited, Hashable

namespace Uuid

/-! ## writing -/

/-- The digits hyphenated 8-4-4-4-12. -/
def hyphenate (cs : List Char) : List Char :=
  cs.take 8 ++ '-' :: (cs.drop 8).take 4 ++ '-' :: (cs.drop 12).take 4 ++
    '-' :: (cs.drop 16).take 4 ++ '-' :: cs.drop 20

/-- The written form. -/
def toText (id : Uuid) : String := String.ofList (hyphenate (Hex.digits 32 id.bits.toNat))

/-! ## making -/

/-- A fresh identifier: 48 bits of milliseconds since 1970, and random bits around the marks of its
kind. -/
def timed (millis random : Nat) : Uuid :=
  ⟨BitVec.ofNat 48 millis ++ 7#4 ++ BitVec.ofNat 12 (random >>> 62) ++ 2#2 ++
    BitVec.ofNat 62 random⟩

example : (timed 0x0190a1b2c3d4 0).toText = "0190a1b2-c3d4-7000-8000-000000000000" := by
  decide +kernel

/-! ## reading -/

/-- Digits alone. -/
def ofDigits? (cs : List Char) : Option Uuid :=
  if cs.length = 32 then (Hex.number? cs).map fun n => ⟨.ofNat 128 n⟩ else none

/-- Digits with a hyphen after the 8th, 12th, 16th and 20th. -/
def ofHyphenated? (cs : List Char) : Option Uuid :=
  if cs.length = 36 ∧ [8, 13, 18, 23].all (fun i => cs[i]? = some '-') then
    ofDigits? (cs.filter (· ≠ '-'))
  else none

/-- The identifier a text writes in any of the four forms. -/
def ofText? (s : String) : Option Uuid :=
  let cs := s.toList
  match cs with
  | '{' :: rest =>
    if rest.getLast? = some '}' then ofHyphenated? rest.dropLast else none
  | _ =>
    if cs.length = 45 ∧ (cs.take 9).map Char.toLower = "urn:uuid:".toList then
      ofHyphenated? (cs.drop 9)
    else if cs.length = 32 then ofDigits? cs
    else ofHyphenated? cs

example : (ofText? "0190A1B2-c3d4-7e5f-8a6b-7c8d9e0f1a2b").map toText =
    some "0190a1b2-c3d4-7e5f-8a6b-7c8d9e0f1a2b" := by decide +kernel
example : ofText? "0190a1b2c3d47e5f8a6b7c8d9e0f1a2" = none := by decide +kernel

end Uuid

/-! ## what identifiers identify -/

/-- The identifier of a registered user, who owns orders, a balance and withdrawals. -/
structure UserId where
  uuid : Uuid
  deriving DecidableEq, Inhabited, Hashable

/-- The identifier of a stored order. -/
structure OrderId where
  uuid : Uuid
  deriving DecidableEq, Inhabited

/-- The identifier of the record of a withdrawal. -/
structure WithdrawalId where
  uuid : Uuid
  deriving DecidableEq, Inhabited

end Loyalty
