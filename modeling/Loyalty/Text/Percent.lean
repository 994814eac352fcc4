import Loyalty.Text.Hex
import Loyalty.Text.Utf8

/-!
# Loyalty.Text.Percent

Percent-encoded text.

A percent sign with two hexadecimal digits behind it stands for a byte; one
without them stands for itself.  The bytes may make a text or not: `text?` asks
for one, `lossyText` puts a replacement character wherever they make none.
-/

namespace Loyalty.Text.Percent

/-- The byte of two hexadecimal digits. -/
def byte? (high low : UInt8) : Option UInt8 := do
  let high ← Hex.value? (Char.ofNat high.toNat)
  let low ← Hex.value? (Char.ofNat low.toNat)
  return .ofNat (16 * high + low)

/-- The bytes that stand for themselves or are written as digits. -/
def decode : List UInt8 → List UInt8
  | [] => []
  | 0x25 :: high :: low :: rest =>
    match byte? high low with
    | some byte => byte :: decode rest
    | none => 0x25 :: decode (high :: low :: rest)
  | byte :: rest => byte :: decode rest

/-- The bytes that characters stand for. -/
def bytes (cs : List Char) : List UInt8 := decode (Utf8.encode (String.ofList cs))

/-- The text that characters stand for, when they stand for one. -/
def text? (cs : List Char) : Option String := Utf8.decode? (bytes cs)

/-- Whether characters stand for a text. -/
def isText (cs : List Char) : Bool := (text? cs).isSome

/-- The text that characters stand for, with replacements where they stand for none. -/
def lossyText (cs : List Char) : List Char := (Utf8.symbols (bytes cs)).map (·.getD '\ufffd')

example : text? "a%20%c3%A9%".toList = some "a é%" := by decide +kernel
example : text? "%ff".toList = none := by decide +kernel

end Loyalty.Text.Percent
