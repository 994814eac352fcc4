import Loyalty.Compress.Crc32
import Loyalty.Compress.Inflate

/-!
# Loyalty.Compress.Gzip

Compressed files (the format "gzip").

A file is one member or more, each with a header, compressed data, and the check
and the length of what it holds.  `encode` writes one member of stored blocks,
which is compressed data like any other; `decode` reads all members up to the
end of the bytes.
-/

namespace Loyalty.Compress.Gzip

/-! ## writing -/

/-- A number as so many bytes, the lowest first. -/
def littleEndian : Nat → Nat → List UInt8
  | 0, _ => []
  | width + 1, n => UInt8.ofNat n :: littleEndian width (n / 256)

/-- The longest stored block. -/
def maxStored : Nat := 65535

/-- Bytes as stored blocks. -/
def stored (bytes : ByteArray) : Nat → Nat → ByteArray → ByteArray
  | 0, _, out => out
  | fuel + 1, start, out =>
    let length := min maxStored (bytes.size - start)
    let last := bytes.size ≤ start + length
    let head := UInt8.ofNat (if last then 1 else 0) ::
      (littleEndian 2 length ++ littleEndian 2 (65535 - length))
    let out := out ++ ⟨head.toArray⟩ ++ bytes.extract start (start + length)
    if last then out else stored bytes fuel (start + length) out

/-- The header of a member without anything optional. -/
def header : List UInt8 := [0x1F, 0x8B, 8, 0, 0, 0, 0, 0, 0, 0xFF]

/-- Bytes as a file. -/
def encode (bytes : ByteArray) : ByteArray :=
  let body := stored bytes (bytes.size / maxStored + 1) 0 ⟨header.toArray⟩
  body ++
    ⟨(littleEndian 4 (Crc32.ofBytes bytes 0 bytes.size).toNat ++ littleEndian 4 bytes.size).toArray⟩

/-! ## reading -/

/-- The place behind the zero that ends a text. -/
def skipText (data : ByteArray) : Nat → Nat → Option Nat
  | 0, _ => none
  | fuel + 1, place => do
    if (← data[place]?) = 0 then return place + 1 else skipText data fuel (place + 1)

/-- Whether the header from one place up to another is followed by the low half of its check. -/
def headerChecks (data : ByteArray) (start place : Nat) : Bool :=
  match data[place]?, data[place + 1]? with
  | some low, some high =>
    low.toNat + 256 * high.toNat = (Crc32.ofBytes data start place).toNat % 65536
  | _, _ => false

/-- The place behind the header of the member that starts at a place. -/
def skipHeader? (data : ByteArray) (start : Nat) : Option Nat := do
  if data.size < start + 10 then none
  else if data[start]? ≠ some 0x1F ∨ data[start + 1]? ≠ some 0x8B ∨ data[start + 2]? ≠ some 8 then
    none
  else
    let flags := (← data[start + 3]?).toNat
    let place ← if flags / 4 % 2 = 1 then do
        let low ← data[start + 10]?
        let high ← data[start + 11]?
        pure (start + 12 + (low.toNat + 256 * high.toNat))
      else pure (start + 10)
    let place ← if flags / 8 % 2 = 1 then skipText data (data.size + 1) place else pure place
    let place ← if flags / 16 % 2 = 1 then skipText data (data.size + 1) place else pure place
    if flags / 2 % 2 = 1 then
      if headerChecks data start place then return place + 2 else none
    else if data.size < place then none
    else return place

/-- Members up to the end of the bytes. -/
def members (limit : Nat) (data : ByteArray) : Nat → Nat → ByteArray → Except Fault ByteArray
  | 0, _, _ => .error .broken
  | fuel + 1, start, out => do
    let place ← Inflate.need (skipHeader? data start)
    let held := out.size
    let (out, b) ← Inflate.inflate limit out { data, position := 8 * place }
    let (check, b) ← Inflate.need (b.align.take? 32)
    let (length, b) ← Inflate.need (b.take? 32)
    if check ≠ (Crc32.ofBytes out held out.size).toNat ∨
        length ≠ (out.size - held) % 0x100000000 then
      .error .broken
    else if b.bytePosition = data.size then return out
    else members limit data fuel b.bytePosition out

/-- The bytes of a file, when there are no more than `limit`. -/
def decode (limit : Nat) (data : ByteArray) : Except Fault ByteArray :=
  members limit data (data.size + 1) 0 .empty

end Loyalty.Compress.Gzip
