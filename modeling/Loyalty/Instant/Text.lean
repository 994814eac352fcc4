import Loyalty.Instant.Basic
import Loyalty.Text.Blank
import Loyalty.Text.Digits

/-!
# Loyalty.Instant.Text

Instants as RFC 3339 text.

Written instants are in UTC and end in `Z`.  `toText` gives the fraction of a
second in the fewest of 0, 3, 6 and 9 digits that lose nothing, `toSecondsText`
leaves it out.  A year outside 0 to 9999 has its sign.

Reading is laxer than the standard: blanks may stand before numbers, dashes
and colons and before the offset, fields may have one digit, a signed year any
number of them, the fraction any number of which the first nine count, and the
offset may be `Z`, `UTC` or hours and minutes with colons or blanks between
them.  The second 60 of any minute is a leap second.
-/

namespace Loyalty.Instant

open Text

-- A power is the one of the core library.
attribute [local instance (high)] instPowNat

/-! ## writing -/

/-- Four digits at least, with a sign outside 0 to 9999. -/
def yearChars (year : Int) : List Char :=
  if 0 ≤ year ∧ year ≤ 9999 then Digits.padded 4 year.toNat
  else (if year < 0 then '-' else '+') :: Digits.padded 4 year.natAbs

/-- Year, month and day. -/
def dateChars (d : Date) : List Char :=
  yearChars d.year ++ '-' :: Digits.padded 2 d.month ++ '-' :: Digits.padded 2 d.day

/-- Hour, minute and second; a leap second is the second 60. -/
def clockChars (a : Instant) : List Char :=
  let s := a.secondOfDay
  let second := if a.nanos < 1000000000 then s % 60 else s % 60 + 1
  Digits.padded 2 (s / 3600) ++ ':' :: Digits.padded 2 (s / 60 % 60) ++ ':' ::
    Digits.padded 2 second

/-- The fraction of a second, in the fewest of 0, 3, 6 and 9 digits. -/
def fractionChars (a : Instant) : List Char :=
  let n := a.nanos % 1000000000
  if n = 0 then []
  else if n % 1000000 = 0 then '.' :: Digits.padded 3 (n / 1000000)
  else if n % 1000 = 0 then '.' :: Digits.padded 6 (n / 1000)
  else '.' :: Digits.padded 9 n

/-- The instant in UTC, nothing lost. -/
def toChars (a : Instant) : List Char :=
  dateChars a.date ++ 'T' :: clockChars a ++ fractionChars a ++ ['Z']

/-- The instant in UTC, nothing lost. -/
def toText (a : Instant) : String := String.ofList a.toChars

/-- The instant in UTC without its fraction of a second. -/
def toSecondsText (a : Instant) : String :=
  String.ofList (dateChars a.date ++ 'T' :: clockChars a ++ ['Z'])

/-! ## reading -/

/-- At least one digit and at most `width` of them. -/
def number? (width : Nat) (cs : List Char) : Option (Nat × List Char) :=
  let digits := (cs.take width).takeWhile Char.isDigit
  if digits.isEmpty then none else some (Digits.toNat digits, cs.drop digits.length)

/-- All digits there are, at least one. -/
def longNumber? (cs : List Char) : Option (Nat × List Char) := number? cs.length cs

/-- A field of one or two digits after blanks. -/
def field? (cs : List Char) : Option (Nat × List Char) := number? 2 (trimStart cs)

/-- A year after blanks: up to four digits, or a sign and any number of them. -/
def year? (cs : List Char) : Option (Int × List Char) :=
  match trimStart cs with
  | '-' :: rest => (longNumber? rest).map fun (n, rest) => (-(n : Int), rest)
  | '+' :: rest => (longNumber? rest).map fun (n, rest) => ((n : Int), rest)
  | rest => (number? 4 rest).map fun (n, rest) => ((n : Int), rest)

/-- A separator after blanks. -/
def separator? (c : Char) (cs : List Char) : Option (List Char) :=
  match trimStart cs with
  | d :: rest => if d = c then some rest else none
  | [] => none

/-- The fraction of a second in nanoseconds, digits past the ninth left out. -/
def fraction? (cs : List Char) : Option (Nat × List Char) :=
  match cs with
  | '.' :: rest =>
    let digits := rest.takeWhile Char.isDigit
    if digits.isEmpty then none
    else
      let kept := digits.take 9
      some (Digits.toNat kept * 10 ^ (9 - kept.length), rest.drop digits.length)
  | _ => some (0, cs)

/-- Hours and minutes of an offset in two digits each, with colons and blanks between them. -/
def offsetFields? (cs : List Char) : Option (Nat × List Char) :=
  match cs with
  | h1 :: h2 :: rest =>
    if h1.isDigit && h2.isDigit then
      match rest.dropWhile fun c => c == ':' || isBlank c with
      | m1 :: m2 :: rest =>
        if m1.isDigit && m2.isDigit then
          let hours := Digits.toNat [h1, h2]
          let minutes := Digits.toNat [m1, m2]
          if hours < 24 ∧ minutes < 60 then some (hours * 3600 + minutes * 60, rest) else none
        else none
      | _ => none
    else none
  | _ => none

/-- The seconds by which local time is ahead: `Z`, `UTC`, or a sign, hours and minutes. The
minus sign may be the hyphen or U+2212. -/
def offset? (cs : List Char) : Option (Int × List Char) :=
  match cs with
  | u :: t :: c :: rest =>
    if u.toLower = 'u' ∧ t.toLower = 't' ∧ c.toLower = 'c' then some (0, rest) else zone? cs
  | _ => zone? cs
where
  /-- An offset other than `UTC`. -/
  zone? (cs : List Char) : Option (Int × List Char) :=
    match cs with
    | 'Z' :: rest | 'z' :: rest => some (0, rest)
    | '+' :: rest => (offsetFields? rest).map fun (n, rest) => ((n : Int), rest)
    | '-' :: rest | '\u2212' :: rest => (offsetFields? rest).map fun (n, rest) => (-(n : Int), rest)
    | _ => none

/-- The instant of a local date, clock and fraction, when the calendar has it. -/
def ofFields? (d : Date) (hour minute second nanos : Nat) (offset : Int) : Option Instant :=
  if d.isValid ∧ hour < 24 ∧ minute < 60 ∧ second ≤ 60 then
    let leap := second = 60
    let seconds :=
      d.toDays * 86400 + hour * 3600 + minute * 60 + (if leap then 59 else second) - offset
    if h : nanos < 1000000000 then
      let a : Instant :=
        { seconds, nanos := if leap then nanos + 1000000000 else nanos,
          nanos_lt := by split <;> omega }
      if a.isRepresentable then some a else none
    else none
  else none

/-- The instant a text writes, with the blanks it may end in. -/
def ofChars? (cs : List Char) : Option Instant := do
  let (year, cs) ← year? cs
  let (month, cs) ← field? (← separator? '-' cs)
  let (day, cs) ← field? (← separator? '-' cs)
  let cs ← match cs with
    | 'T' :: rest | 't' :: rest | ' ' :: rest => some rest
    | _ => none
  let (hour, cs) ← field? cs
  let (minute, cs) ← field? (← separator? ':' cs)
  let (second, cs) ← field? (← separator? ':' cs)
  let (nanos, cs) ← fraction? cs
  let (offset, cs) ← offset? (trimStart cs)
  if cs.all isBlank then ofFields? ⟨year, month, day⟩ hour minute second nanos offset else none

/-- The instant a text writes. -/
def ofText? (s : String) : Option Instant := ofChars? s.toList

example : (ofText? "2016-12-31 23:59:60.5+00:00").map toText = some "2016-12-31T23:59:60.500Z" := by
  decide +kernel
example : (ofText? "+10000-1-1t1:2:3.0000004utc").map toText =
    some "+10000-01-01T01:02:03.000000400Z" := by
  decide +kernel

end Loyalty.Instant
