import Loyalty.Text.Digits
import Loyalty.Text.Percent

/-!
# Loyalty.Store.Database.Host

Hosts in the addresses of servers.

A host is an address in brackets (IPv6) or a name.  Most schemes take any name
without certain characters.  Those of the web know more of theirs: their names
are percent-encoded, and one that ends in a number must be an address of four
bytes (IPv4), in any of the ways in which such addresses were ever written.
-/

namespace Loyalty.Database.Host

open Text

-- A power is the one of the core library.
attribute [local instance (high)] instPowNat

/-! ## addresses in numbers -/

/-- A byte in decimal digits, without leading zeros. -/
def isOctet (cs : List Char) : Bool :=
  (Digits.nat? cs).any (· < 256) && (cs.length = 1 || cs.head? ≠ some '0')

/-- Four bytes with points between them. -/
def isIpv4 (cs : List Char) : Bool :=
  let parts := cs.splitOn '.'
  parts.length = 4 && parts.all isOctet

/-- Up to four hexadecimal digits. -/
def isGroup (cs : List Char) : Bool :=
  !cs.isEmpty && cs.length ≤ 4 && cs.all fun c => (Hex.value? c).isSome

/-- The number of groups with colons between them. The last two may be written as four bytes, when
they `close` the address. -/
def groups? (close : Bool) (cs : List Char) : Option Nat :=
  if cs.isEmpty then some 0
  else
    let parts := cs.splitOn ':'
    let last := parts.getLast?.getD []
    if !parts.dropLast.all isGroup then none
    else if isGroup last then some parts.length
    else if close && isIpv4 last then some (parts.length + 1)
    else none

/-- What is before the first two colons in a row, and what is behind them. -/
def cutGap : List Char → List Char × Option (List Char)
  | [] => ([], none)
  | ':' :: ':' :: rest => ([], some rest)
  | c :: rest => (c :: (cutGap rest).1, (cutGap rest).2)

/-- Eight groups, of which two colons in a row leave out one or more. -/
def isIpv6 (cs : List Char) : Bool :=
  match cutGap cs with
  | (all, none) => groups? true all = some 8
  | (front, some back) =>
    match groups? false front, groups? true back with
    | some m, some n => m + n ≤ 7
    | _, _ => false

/-! ## names that end in a number -/

/-- The base of a number and its digits: hexadecimal behind `0x`, octal behind another zero. -/
def numeral : List Char → Nat × List Char
  | '0' :: 'x' :: digits | '0' :: 'X' :: digits => (16, digits)
  | '0' :: c :: digits => (8, c :: digits)
  | digits => (10, digits)

/-- The number of a numeral; without digits behind its mark it is zero. -/
def number? (cs : List Char) : Option Nat :=
  let (base, digits) := numeral cs
  if cs.isEmpty then none
  else digits.foldl (fun acc c => do return base * (← acc) + (← (Hex.value? c).filter (· < base)))
    (some 0)

/-- The parts of a name, without an empty one behind a last point. -/
def parts (cs : List Char) : List (List Char) :=
  let parts := cs.splitOn '.'
  if 1 < parts.length && parts.getLast? = some [] then parts.dropLast else parts

/-- Whether the last part of a name is a number. -/
def endsInNumber (cs : List Char) : Bool :=
  let last := (parts cs).getLast?.getD []
  (!last.isEmpty && last.all Char.isDigit) || (number? last).isSome

/-- At most four numbers: bytes, and a last one that fills the bytes that are left. -/
def isLooseIpv4 (cs : List Char) : Bool :=
  match (parts cs).mapM number? with
  | none => false
  | some numbers =>
    numbers.length ≤ 4 && numbers.dropLast.all (· < 256) &&
      numbers.getLast?.all (· < 256 ^ (5 - numbers.length))

/-! ## hosts -/

/-- Characters that no host may have. -/
def isForbidden (c : Char) : Bool :=
  c ∈ ['\x00', '\t', '\n', '\r', ' ', '#', '/', ':', '<', '>', '?', '@', '[', '\\', ']', '^', '|']

/-- A name that any scheme takes; it must stand for a text. -/
def isPlainName (cs : List Char) : Bool := !cs.any isForbidden && Percent.isText cs

/-- Characters that no host of the web may have: control and replacement characters, too. -/
def isForbiddenName (c : Char) : Bool :=
  isForbidden c || c < ' ' || c = '\x7f' || c = '%' || c = '\ufffd'

/-- A name of the web. -/
def isWebName (cs : List Char) : Bool :=
  match Percent.text? cs with
  | none => false
  | some name =>
    let name := name.toList
    !name.isEmpty && !name.any isForbiddenName && (!endsInNumber name || isLooseIpv4 name)

/-- Whether characters are a host, in a scheme of the web or in another. -/
def isHost (web : Bool) (cs : List Char) : Bool :=
  match cs with
  | '[' :: rest => rest.getLast? = some ']' && isIpv6 rest.dropLast
  | _ => if web then isWebName cs else isPlainName cs

example : isIpv6 "1:2::7:0.0.0.8".toList = true := by decide +kernel
example : isHost false "256.1.1.1".toList = true := by decide +kernel

end Loyalty.Database.Host
