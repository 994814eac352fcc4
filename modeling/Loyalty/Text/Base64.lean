/-!
# Loyalty.Text.Base64

Bytes as base 64 text without padding.

Three bytes make four characters; one or two bytes left over make two or
three, the unused low bits zero.  Reading is strict: a character outside the
alphabet, a single character left over or unused bits that are not zero are
refused, so a text has at most one meaning and bytes have one text.

Two alphabets are in use: the standard one in stored passwords, and the one
for addresses, with `-` and `_` in place of `+` and `/`, in tokens.
-/

namespace Loyalty.Text.Base64

/-- The last two characters of an alphabet; the first 62 are letters and digits. -/
structure Alphabet where
  plus : Char
  slash : Char

/-- The standard alphabet. -/
def standard : Alphabet := ⟨'+', '/'⟩

/-- The alphabet that is safe in addresses. -/
def urlSafe : Alphabet := ⟨'-', '_'⟩

/-- The character of six bits. -/
def Alphabet.char (a : Alphabet) (n : Nat) : Char :=
  if n < 26 then Char.ofNat ('A'.toNat + n)
  else if n < 52 then Char.ofNat ('a'.toNat + (n - 26))
  else if n < 62 then Char.ofNat ('0'.toNat + (n - 52))
  else if n = 62 then a.plus
  else a.slash

/-- The six bits of a character. -/
def Alphabet.value? (a : Alphabet) (c : Char) : Option Nat :=
  if 'A' ≤ c ∧ c ≤ 'Z' then some (c.toNat - 'A'.toNat)
  else if 'a' ≤ c ∧ c ≤ 'z' then some (c.toNat - 'a'.toNat + 26)
  else if '0' ≤ c ∧ c ≤ '9' then some (c.toNat - '0'.toNat + 52)
  else if c = a.plus then some 62
  else if c = a.slash then some 63
  else none

/-- Bytes as text. -/
def encode (a : Alphabet) : List UInt8 → List Char
  | [] => []
  | [x] => [a.char (x.toNat / 4), a.char (x.toNat % 4 * 16)]
  | [x, y] => [a.char (x.toNat / 4), a.char (x.toNat % 4 * 16 + y.toNat / 16),
      a.char (y.toNat % 16 * 4)]
  | x :: y :: z :: rest =>
    a.char (x.toNat / 4) :: a.char (x.toNat % 4 * 16 + y.toNat / 16) ::
      a.char (y.toNat % 16 * 4 + z.toNat / 64) :: a.char (z.toNat % 64) :: encode a rest

/-- The bytes of a text, when it is exactly what `encode` writes for them. -/
def decode? (a : Alphabet) : List Char → Option (List UInt8)
  | [] => some []
  | [_] => none
  | [p, q] => do
    let p ← a.value? p
    let q ← a.value? q
    if q % 16 = 0 then some [.ofNat (p * 4 + q / 16)] else none
  | [p, q, r] => do
    let p ← a.value? p
    let q ← a.value? q
    let r ← a.value? r
    if r % 4 = 0 then some [.ofNat (p * 4 + q / 16), .ofNat (q % 16 * 16 + r / 4)] else none
  | p :: q :: r :: s :: rest => do
    let p ← a.value? p
    let q ← a.value? q
    let r ← a.value? r
    let s ← a.value? s
    let bytes ← decode? a rest
    return .ofNat (p * 4 + q / 16) :: .ofNat (q % 16 * 16 + r / 4) ::
      .ofNat (r % 4 * 64 + s) :: bytes

example : String.ofList (encode standard "hello".toUTF8.toList) = "aGVsbG8" := by decide +kernel
example : decode? urlSafe "aGVsbG8".toList = some "hello".toUTF8.toList := by decide +kernel
example : decode? urlSafe "aGVsbG9".toList = none := by decide +kernel

end Loyalty.Text.Base64
