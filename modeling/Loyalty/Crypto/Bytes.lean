/-!
# Loyalty.Crypto.Bytes

Numbers as bytes in either order, for the hash functions.
-/

namespace Loyalty.Crypto

/-- The low `width` bytes of a number, the lowest first. -/
def littleEndian : (width : Nat) → Nat → List UInt8
  | 0, _ => []
  | width + 1, n => UInt8.ofNat (n % 256) :: littleEndian width (n / 256)

/-- The low `width` bytes of a number, the highest first. -/
def bigEndian (width n : Nat) : List UInt8 := (littleEndian width n).reverse

/-- The number whose bytes these are, the lowest first. -/
def ofLittleEndian (bytes : List UInt8) : Nat := bytes.foldr (fun b n => b.toNat + 256 * n) 0

/-- The number whose bytes these are, the highest first. -/
def ofBigEndian (bytes : List UInt8) : Nat := bytes.foldl (fun n b => 256 * n + b.toNat) 0

/-- As many bytes are written as are asked for. -/
@[simp] theorem length_littleEndian (width n : Nat) : (littleEndian width n).length = width := by
  induction width generalizing n with
  | zero => rfl
  | succ width ih => simp [littleEndian, ih]

/-- Bytes cut into pieces of `size`, the last one perhaps shorter. -/
def chunks (size : Nat) (bytes : List UInt8) : List (List UInt8) :=
  if _h : size = 0 ∨ bytes = [] then []
  else bytes.take size :: chunks size (bytes.drop size)
termination_by bytes.length
decreasing_by
  simp only [not_or] at _h
  have hb : 0 < bytes.length := List.length_pos_iff.2 _h.2
  rw [List.length_drop]
  omega

end Loyalty.Crypto
