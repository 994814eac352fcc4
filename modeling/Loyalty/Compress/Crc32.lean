/-!
# Loyalty.Compress.Crc32

The 32-bit cyclic redundancy check of compressed data (reflected polynomial
EDB88320).  The table of all bytes is made once; each entry is eight steps of
the polynomial division.
-/

namespace Loyalty.Compress.Crc32

/-- One bit of the division. -/
def shift (c : UInt32) : UInt32 := if c &&& 1 = 1 then (c >>> 1) ^^^ 0xEDB88320 else c >>> 1

/-- The remainder of a byte. -/
def entry (b : UInt32) : UInt32 := shift (shift (shift (shift (shift (shift (shift (shift b)))))))

/-- The remainders of all bytes. -/
def table : Array UInt32 := Array.ofFn fun i : Fin 256 => entry (.ofNat i)

/-- A check carried on over a byte. -/
def step (c : UInt32) (b : UInt8) : UInt32 :=
  (table[((c ^^^ b.toUInt32) &&& 0xFF).toNat]?.getD 0) ^^^ (c >>> 8)

/-- The check of the bytes from one place up to another. -/
def ofBytes (bytes : ByteArray) (start stop : Nat) : UInt32 :=
  bytes.foldl step 0xFFFFFFFF start stop ^^^ 0xFFFFFFFF

end Loyalty.Compress.Crc32
