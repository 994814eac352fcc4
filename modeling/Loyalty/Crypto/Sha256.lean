import Loyalty.Crypto.Bytes

/-!
# Loyalty.Crypto.Sha256

The hash function SHA-256 and its keyed form HMAC-SHA256.

A message is padded to blocks of 64 bytes — a one bit, zeros, and its length in
bits — and each block is mixed into a state of eight words in 64 rounds.
-/

namespace Loyalty.Crypto.Sha256

/-- The eight words of the state. -/
structure State where
  a : UInt32
  b : UInt32
  c : UInt32
  d : UInt32
  e : UInt32
  f : UInt32
  g : UInt32
  h : UInt32

/-- The state before the first block: fractions of the square roots of the first primes. -/
def initial : State :=
  ⟨0x6a09e667, 0xbb67ae85, 0x3c6ef372, 0xa54ff53a, 0x510e527f, 0x9b05688c, 0x1f83d9ab, 0x5be0cd19⟩

/-- The round constants: fractions of the cube roots of the first primes. -/
def constants : List UInt32 :=
  [0x428a2f98, 0x71374491, 0xb5c0fbcf, 0xe9b5dba5, 0x3956c25b, 0x59f111f1, 0x923f82a4, 0xab1c5ed5,
   0xd807aa98, 0x12835b01, 0x243185be, 0x550c7dc3, 0x72be5d74, 0x80deb1fe, 0x9bdc06a7, 0xc19bf174,
   0xe49b69c1, 0xefbe4786, 0x0fc19dc6, 0x240ca1cc, 0x2de92c6f, 0x4a7484aa, 0x5cb0a9dc, 0x76f988da,
   0x983e5152, 0xa831c66d, 0xb00327c8, 0xbf597fc7, 0xc6e00bf3, 0xd5a79147, 0x06ca6351, 0x14292967,
   0x27b70a85, 0x2e1b2138, 0x4d2c6dfc, 0x53380d13, 0x650a7354, 0x766a0abb, 0x81c2c92e, 0x92722c85,
   0xa2bfe8a1, 0xa81a664b, 0xc24b8b70, 0xc76c51a3, 0xd192e819, 0xd6990624, 0xf40e3585, 0x106aa070,
   0x19a4c116, 0x1e376c08, 0x2748774c, 0x34b0bcb5, 0x391c0cb3, 0x4ed8aa4a, 0x5b9cca4f, 0x682e6ff3,
   0x748f82ee, 0x78a5636f, 0x84c87814, 0x8cc70208, 0x90befffa, 0xa4506ceb, 0xbef9a3f7, 0xc67178f2]

/-- A word rotated to the right. -/
@[inline] def rotate (x : UInt32) (n : UInt32) : UInt32 := (x >>> n) ||| (x <<< (32 - n))

/-! ## blocks -/

/-- The schedule extended by a number of words, each from the sixteen before it; the newest word
comes first. -/
def extend (words : List UInt32) : Nat → List UInt32
  | 0 => words
  | n + 1 =>
    let word (i : Nat) := words.getD i 0
    let x := word 14
    let y := word 1
    let s0 := rotate x 7 ^^^ rotate x 18 ^^^ (x >>> 3)
    let s1 := rotate y 17 ^^^ rotate y 19 ^^^ (y >>> 10)
    extend ((word 15 + s0 + word 6 + s1) :: words) n

/-- The 64 words of a block of 64 bytes. -/
def schedule (block : List UInt8) : List UInt32 :=
  let words := (chunks 4 block).map fun w => UInt32.ofNat (ofBigEndian w)
  (extend words.reverse 48).reverse

/-- One round: a constant and a word of the schedule mixed into the state. -/
def round (s : State) (k w : UInt32) : State :=
  let s1 := rotate s.e 6 ^^^ rotate s.e 11 ^^^ rotate s.e 25
  let choice := (s.e &&& s.f) ^^^ (~~~s.e &&& s.g)
  let t1 := s.h + s1 + choice + k + w
  let s0 := rotate s.a 2 ^^^ rotate s.a 13 ^^^ rotate s.a 22
  let majority := (s.a &&& s.b) ^^^ (s.a &&& s.c) ^^^ (s.b &&& s.c)
  ⟨t1 + (s0 + majority), s.a, s.b, s.c, s.d + t1, s.e, s.f, s.g⟩

/-- A block mixed into the state. -/
def compress (s : State) (block : List UInt8) : State :=
  let r := (constants.zip (schedule block)).foldl (fun s (k, w) => round s k w) s
  ⟨s.a + r.a, s.b + r.b, s.c + r.c, s.d + r.d, s.e + r.e, s.f + r.f, s.g + r.g, s.h + r.h⟩

/-! ## messages -/

/-- The message with its padding. -/
def pad (message : List UInt8) : List UInt8 :=
  let zeros := (119 - message.length % 64) % 64
  message ++ 0x80 :: List.replicate zeros 0 ++ bigEndian 8 (8 * message.length)

/-- The words of a state as bytes. -/
def State.bytes (s : State) : List UInt8 :=
  [s.a, s.b, s.c, s.d, s.e, s.f, s.g, s.h].flatMap fun w => bigEndian 4 w.toNat

/-- The 32 bytes of the hash of a message. -/
def hash (message : List UInt8) : List UInt8 :=
  ((chunks 64 (pad message)).foldl compress initial).bytes

/-- The size of a block, to which keys are brought. -/
def blockSize : Nat := 64

/-- The 32 bytes of the keyed hash of a message. -/
def hmac (key message : List UInt8) : List UInt8 :=
  let short := if blockSize < key.length then hash key else key
  let full := short ++ List.replicate (blockSize - short.length) 0
  hash (full.map (· ^^^ 0x5c) ++ hash (full.map (· ^^^ 0x36) ++ message))

/-- A digest has 32 bytes. -/
@[simp] theorem length_hash (message : List UInt8) : (hash message).length = 32 := by
  simp [hash, State.bytes, bigEndian]

/-- A digest with a key has 32 bytes. -/
@[simp] theorem length_hmac (key message : List UInt8) : (hmac key message).length = 32 := by
  simp [hmac]

end Loyalty.Crypto.Sha256
