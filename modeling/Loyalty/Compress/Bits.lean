/-!
# Loyalty.Compress.Bits

Bytes read bit by bit, the lowest bit of each byte first.
-/

namespace Loyalty.Compress

-- A power is the one of the core library.
attribute [local instance (high)] instPowNat

/-- Bytes and how many of their bits were read. -/
structure Bits where
  data : ByteArray
  position : Nat

namespace Bits

/-- One bit. -/
def bit? (b : Bits) : Option (Nat × Bits) :=
  match b.data[b.position / 8]? with
  | none => none
  | some byte => some (byte.toNat / 2 ^ (b.position % 8) % 2, { b with position := b.position + 1 })

/-- A number of so many bits, its lowest bit first. -/
def take? (b : Bits) : Nat → Option (Nat × Bits)
  | 0 => some (0, b)
  | n + 1 => do
    let (low, b) ← b.bit?
    let (high, b) ← b.take? n
    return (low + 2 * high, b)

/-- The rest of a byte that was begun is passed over. -/
def align (b : Bits) : Bits := { b with position := (b.position + 7) / 8 * 8 }

/-- The place of the byte that comes next, when all before it were read to their end. -/
def bytePosition (b : Bits) : Nat := b.position / 8

/-- So many bytes are passed over. -/
def skipBytes (b : Bits) (n : Nat) : Bits := { b with position := b.position + 8 * n }

end Bits

end Loyalty.Compress
