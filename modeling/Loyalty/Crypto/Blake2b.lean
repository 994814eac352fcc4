import Loyalty.Crypto.Bytes

/-!
# Loyalty.Crypto.Blake2b

The hash function BLAKE2b without key, for hashes of 1 to 64 bytes.

Blocks of 128 bytes are mixed into a state of eight words in twelve rounds; the
last block is marked, and filled up with zeros.
-/

namespace Loyalty.Crypto.Blake2b

/-- The state before parameters: fractions of the square roots of the first primes. -/
def initial : Vector UInt64 8 :=
  #v[0x6a09e667f3bcc908, 0xbb67ae8584caa73b, 0x3c6ef372fe94f82b, 0xa54ff53a5f1d36f1,
     0x510e527fade682d1, 0x9b05688c2b3e6c1f, 0x1f83d9abfb41bd6b, 0x5be0cd19137e2179]

/-- The order in which each round takes the words of a block; the table is gone through again after
ten rounds. -/
def orders : List (Vector (Fin 16) 16) :=
  [#v[0, 1, 2, 3, 4, 5, 6, 7, 8, 9, 10, 11, 12, 13, 14, 15],
   #v[14, 10, 4, 8, 9, 15, 13, 6, 1, 12, 0, 2, 11, 7, 5, 3],
   #v[11, 8, 12, 0, 5, 2, 15, 13, 10, 14, 3, 6, 7, 1, 9, 4],
   #v[7, 9, 3, 1, 13, 12, 11, 14, 2, 6, 5, 10, 4, 0, 15, 8],
   #v[9, 0, 5, 7, 2, 4, 10, 15, 14, 1, 11, 12, 6, 8, 3, 13],
   #v[2, 12, 6, 10, 0, 11, 8, 3, 4, 13, 7, 5, 15, 14, 1, 9],
   #v[12, 5, 1, 15, 14, 13, 4, 10, 0, 7, 6, 3, 9, 2, 8, 11],
   #v[13, 11, 7, 14, 12, 1, 3, 9, 5, 0, 15, 4, 8, 6, 2, 10],
   #v[6, 15, 14, 9, 11, 3, 0, 8, 12, 2, 13, 7, 1, 4, 10, 5],
   #v[10, 2, 8, 4, 7, 6, 1, 5, 15, 11, 9, 14, 3, 12, 13, 0],
   #v[0, 1, 2, 3, 4, 5, 6, 7, 8, 9, 10, 11, 12, 13, 14, 15],
   #v[14, 10, 4, 8, 9, 15, 13, 6, 1, 12, 0, 2, 11, 7, 5, 3]]

/-- A word rotated to the right. -/
@[inline] def rotate (x : UInt64) (n : UInt64) : UInt64 := (x >>> n) ||| (x <<< (64 - n))

/-- Four words mixed with two words of the block. -/
def mix (v : Vector UInt64 16) (i j k l : Fin 16) (x y : UInt64) : Vector UInt64 16 :=
  let a := v[i] + v[j] + x
  let d := rotate (v[l] ^^^ a) 32
  let c := v[k] + d
  let b := rotate (v[j] ^^^ c) 24
  let a := a + b + y
  let d := rotate (d ^^^ a) 16
  let c := c + d
  let b := rotate (b ^^^ c) 63
  (((v.set i a).set j b).set k c).set l d

/-- One round: columns, then diagonals. -/
def round (m v : Vector UInt64 16) (order : Vector (Fin 16) 16) : Vector UInt64 16 :=
  let word (i : Fin 16) := m[order[i]]
  let v := mix v 0 4 8 12 (word 0) (word 1)
  let v := mix v 1 5 9 13 (word 2) (word 3)
  let v := mix v 2 6 10 14 (word 4) (word 5)
  let v := mix v 3 7 11 15 (word 6) (word 7)
  let v := mix v 0 5 10 15 (word 8) (word 9)
  let v := mix v 1 6 11 12 (word 10) (word 11)
  let v := mix v 2 7 8 13 (word 12) (word 13)
  mix v 3 4 9 14 (word 14) (word 15)

/-- A block mixed into the state; `count` bytes were taken up to its end. -/
def compress (h : Vector UInt64 8) (block : List UInt8) (count : Nat) (isLast : Bool) :
    Vector UInt64 8 :=
  let words := (chunks 8 (block ++ List.replicate (128 - block.length) 0)).map fun w =>
    UInt64.ofNat (ofLittleEndian w)
  let m : Vector UInt64 16 := .ofFn fun i => words.getD i.val 0
  let v : Vector UInt64 16 := .ofFn fun i =>
    if h' : i.val < 8 then h[i.val]
    else
      let base := initial[i.val - 8]
      if i = 12 then base ^^^ UInt64.ofNat count
      else if i = 13 then base ^^^ UInt64.ofNat (count / 0x10000000000000000)
      else if i = 14 then (if isLast then ~~~base else base)
      else base
  let v := orders.foldl (round m) v
  .ofFn fun i => h[i] ^^^ v[i.val] ^^^ v[i.val + 8]

/-- The blocks of a message mixed in one after the other, `taken` bytes before them. -/
def absorb (h : Vector UInt64 8) (taken : Nat) : List (List UInt8) → Vector UInt64 8
  | [] => compress h [] taken true
  | [block] => compress h block (taken + block.length) true
  | block :: next :: rest =>
    let taken := taken + block.length
    absorb (compress h block taken false) taken (next :: rest)

/-- The hash of a message, of `size` bytes. -/
def hash (size : Nat) (message : List UInt8) : List UInt8 :=
  let h := initial.set 0 (initial[0] ^^^ 0x01010000 ^^^ UInt64.ofNat size)
  let h := absorb h 0 (chunks 128 message)
  (h.toList.flatMap fun w => littleEndian 8 w.toNat).take size

end Loyalty.Crypto.Blake2b
