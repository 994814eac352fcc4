import Loyalty.Crypto.Blake2b

/-!
# Loyalty.Crypto.Argon2

The password hash Argon2, in its three variants and versions 1.0 and 1.3.

A matrix of blocks, one row of it a lane, is filled column after column: each
block is compressed from the one before it and another one, chosen by the bits
of the block before (Argon2d), by a counter (Argon2i), or by a counter in the
first half of the first pass and by bits after that (Argon2id).  Four slices
divide the columns; a block may refer to what is finished, which other lanes
are up to the slice before.

A block is 8 rows of 16 words.  Its compression mixes every row, then — the
block transposed in pairs of words — every column.  The words of a row are
fields, so that a row is one piece of memory and mixing it works on plain
machine words.
-/

namespace Loyalty.Crypto.Argon2

/-! ## blocks -/

/-- Sixteen words. -/
structure Row where
  w0 : UInt64
  w1 : UInt64
  w2 : UInt64
  w3 : UInt64
  w4 : UInt64
  w5 : UInt64
  w6 : UInt64
  w7 : UInt64
  w8 : UInt64
  w9 : UInt64
  w10 : UInt64
  w11 : UInt64
  w12 : UInt64
  w13 : UInt64
  w14 : UInt64
  w15 : UInt64
  deriving Inhabited

/-- Eight rows: a block of 1024 bytes. -/
structure Block where
  r0 : Row
  r1 : Row
  r2 : Row
  r3 : Row
  r4 : Row
  r5 : Row
  r6 : Row
  r7 : Row
  deriving Inhabited

/-- A word rotated to the right. -/
@[inline] def rotate (x : UInt64) (n : UInt64) : UInt64 := (x >>> n) ||| (x <<< (64 - n))

/-- A sum with twice the product of the low halves. -/
@[inline] def addMul (x y : UInt64) : UInt64 := x + y + 2 * (x &&& 0xffffffff) * (y &&& 0xffffffff)

/-- Four words mixed and handed on. -/
@[inline] def mix {α : Type} (a b c d : UInt64) (next : UInt64 → UInt64 → UInt64 → UInt64 → α) :
    α :=
  let a := addMul a b
  let d := rotate (d ^^^ a) 32
  let c := addMul c d
  let b := rotate (b ^^^ c) 24
  let a := addMul a b
  let d := rotate (d ^^^ a) 16
  let c := addMul c d
  let b := rotate (b ^^^ c) 63
  next a b c d

namespace Row

/-- The row of zeros. -/
def zero : Row := ⟨0, 0, 0, 0, 0, 0, 0, 0, 0, 0, 0, 0, 0, 0, 0, 0⟩

/-- The words of two rows added bit by bit. -/
def xor (x y : Row) : Row :=
  ⟨x.w0 ^^^ y.w0, x.w1 ^^^ y.w1, x.w2 ^^^ y.w2, x.w3 ^^^ y.w3,
   x.w4 ^^^ y.w4, x.w5 ^^^ y.w5, x.w6 ^^^ y.w6, x.w7 ^^^ y.w7,
   x.w8 ^^^ y.w8, x.w9 ^^^ y.w9, x.w10 ^^^ y.w10, x.w11 ^^^ y.w11,
   x.w12 ^^^ y.w12, x.w13 ^^^ y.w13, x.w14 ^^^ y.w14, x.w15 ^^^ y.w15⟩

/-- The words as a four by four square: its columns mixed, then its diagonals. -/
def permute (r : Row) : Row :=
  mix r.w0 r.w4 r.w8 r.w12 fun w0 w4 w8 w12 =>
  mix r.w1 r.w5 r.w9 r.w13 fun w1 w5 w9 w13 =>
  mix r.w2 r.w6 r.w10 r.w14 fun w2 w6 w10 w14 =>
  mix r.w3 r.w7 r.w11 r.w15 fun w3 w7 w11 w15 =>
  mix w0 w5 w10 w15 fun w0 w5 w10 w15 =>
  mix w1 w6 w11 w12 fun w1 w6 w11 w12 =>
  mix w2 w7 w8 w13 fun w2 w7 w8 w13 =>
  mix w3 w4 w9 w14 fun w3 w4 w9 w14 =>
  ⟨w0, w1, w2, w3, w4, w5, w6, w7, w8, w9, w10, w11, w12, w13, w14, w15⟩

/-- The words in order. -/
def toList (r : Row) : List UInt64 :=
  [r.w0, r.w1, r.w2, r.w3, r.w4, r.w5, r.w6, r.w7, r.w8, r.w9, r.w10, r.w11, r.w12, r.w13,
    r.w14, r.w15]

/-- The first sixteen words of a list, zeros where it ends. -/
def ofList (words : List UInt64) : Row :=
  let word (i : Nat) := words.getD i 0
  ⟨word 0, word 1, word 2, word 3, word 4, word 5, word 6, word 7,
    word 8, word 9, word 10, word 11, word 12, word 13, word 14, word 15⟩

end Row

namespace Block

/-- The block of zeros. -/
def zero : Block := ⟨.zero, .zero, .zero, .zero, .zero, .zero, .zero, .zero⟩

/-- The words of two blocks added bit by bit. -/
def xor (x y : Block) : Block :=
  ⟨x.r0.xor y.r0, x.r1.xor y.r1, x.r2.xor y.r2, x.r3.xor y.r3,
    x.r4.xor y.r4, x.r5.xor y.r5, x.r6.xor y.r6, x.r7.xor y.r7⟩

/-- Every row mixed. -/
def permuteRows (b : Block) : Block :=
  ⟨b.r0.permute, b.r1.permute, b.r2.permute, b.r3.permute, b.r4.permute, b.r5.permute, b.r6.permute,
    b.r7.permute⟩

/-- Rows and columns exchanged, two words that stand together staying together. -/
def transpose (b : Block) : Block :=
  ⟨
    ⟨b.r0.w0, b.r0.w1, b.r1.w0, b.r1.w1, b.r2.w0, b.r2.w1, b.r3.w0, b.r3.w1,
     b.r4.w0, b.r4.w1, b.r5.w0, b.r5.w1, b.r6.w0, b.r6.w1, b.r7.w0, b.r7.w1⟩,
    ⟨b.r0.w2, b.r0.w3, b.r1.w2, b.r1.w3, b.r2.w2, b.r2.w3, b.r3.w2, b.r3.w3,
     b.r4.w2, b.r4.w3, b.r5.w2, b.r5.w3, b.r6.w2, b.r6.w3, b.r7.w2, b.r7.w3⟩,
    ⟨b.r0.w4, b.r0.w5, b.r1.w4, b.r1.w5, b.r2.w4, b.r2.w5, b.r3.w4, b.r3.w5,
     b.r4.w4, b.r4.w5, b.r5.w4, b.r5.w5, b.r6.w4, b.r6.w5, b.r7.w4, b.r7.w5⟩,
    ⟨b.r0.w6, b.r0.w7, b.r1.w6, b.r1.w7, b.r2.w6, b.r2.w7, b.r3.w6, b.r3.w7,
     b.r4.w6, b.r4.w7, b.r5.w6, b.r5.w7, b.r6.w6, b.r6.w7, b.r7.w6, b.r7.w7⟩,
    ⟨b.r0.w8, b.r0.w9, b.r1.w8, b.r1.w9, b.r2.w8, b.r2.w9, b.r3.w8, b.r3.w9,
     b.r4.w8, b.r4.w9, b.r5.w8, b.r5.w9, b.r6.w8, b.r6.w9, b.r7.w8, b.r7.w9⟩,
    ⟨b.r0.w10, b.r0.w11, b.r1.w10, b.r1.w11, b.r2.w10, b.r2.w11, b.r3.w10, b.r3.w11,
     b.r4.w10, b.r4.w11, b.r5.w10, b.r5.w11, b.r6.w10, b.r6.w11, b.r7.w10, b.r7.w11⟩,
    ⟨b.r0.w12, b.r0.w13, b.r1.w12, b.r1.w13, b.r2.w12, b.r2.w13, b.r3.w12, b.r3.w13,
     b.r4.w12, b.r4.w13, b.r5.w12, b.r5.w13, b.r6.w12, b.r6.w13, b.r7.w12, b.r7.w13⟩,
    ⟨b.r0.w14, b.r0.w15, b.r1.w14, b.r1.w15, b.r2.w14, b.r2.w15, b.r3.w14, b.r3.w15,
     b.r4.w14, b.r4.w15, b.r5.w14, b.r5.w15, b.r6.w14, b.r6.w15, b.r7.w14, b.r7.w15⟩⟩

/-- Two blocks compressed into one. -/
def compress (x y : Block) : Block :=
  let sum := x.xor y
  sum.permuteRows.transpose.permuteRows.transpose.xor sum

/-- The words in order. -/
def toList (b : Block) : List UInt64 :=
  [b.r0, b.r1, b.r2, b.r3, b.r4, b.r5, b.r6, b.r7].flatMap Row.toList

/-- The first 128 words of a list, zeros where it ends. -/
def ofList (words : List UInt64) : Block :=
  let row (i : Nat) := Row.ofList (words.drop (16 * i))
  ⟨row 0, row 1, row 2, row 3, row 4, row 5, row 6, row 7⟩

/-- The words as bytes. -/
def toBytes (b : Block) : List UInt8 := b.toList.flatMap fun w => littleEndian 8 w.toNat

/-- The block of 1024 bytes. -/
def ofBytes (bytes : List UInt8) : Block :=
  ofList ((chunks 8 bytes).map fun w => UInt64.ofNat (ofLittleEndian w))

end Block

/-! ## parameters -/

/-- How the other block is chosen. -/
inductive Variant
  /-- By the bits of the block before. -/
  | d
  /-- By a counter. -/
  | i
  /-- By a counter in the first half of the first pass, then by bits. -/
  | id
  deriving DecidableEq, Inhabited

/-- The number that stands for a variant in what is hashed. -/
def Variant.code : Variant → Nat
  | d => 0
  | i => 1
  | id => 2

/-- Whether a version overwrites the blocks of the pass before, or adds to them. -/
inductive Version
  /-- 1.0, which overwrites. -/
  | v10
  /-- 1.3, which adds. -/
  | v13
  deriving DecidableEq, Inhabited

/-- The number of a version. -/
def Version.code : Version → Nat
  | v10 => 0x10
  | v13 => 0x13

/-- The cost of a hash. -/
structure Params where
  variant : Variant
  version : Version
  /-- The memory in kibibytes, eight for each lane at least. -/
  memory : Nat
  /-- The number of passes, one at least. -/
  passes : Nat
  /-- The number of lanes, one at least. -/
  lanes : Nat
  deriving DecidableEq

namespace Params

/-- The length of a slice of a lane. -/
def segment (p : Params) : Nat := p.memory / (4 * p.lanes)

/-- The length of a lane, four slices. -/
def laneLength (p : Params) : Nat := 4 * p.segment

/-- The number of blocks, all lanes together. -/
def blockCount (p : Params) : Nat := p.lanes * p.laneLength

end Params

/-! ## the hash of any length -/

/-- The pieces of a long hash: 32 bytes of each hash but the last, which is whole. -/
def longTail (size : Nat) (previous : List UInt8) : Nat → List UInt8
  | 0 => []
  | n + 1 =>
    if size ≤ 64 then Blake2b.hash size previous
    else
      let next := Blake2b.hash 64 previous
      next.take 32 ++ longTail (size - 32) next n

/-- A hash of any number of bytes. -/
def longHash (size : Nat) (message : List UInt8) : List UInt8 :=
  let input := littleEndian 4 size ++ message
  if size ≤ 64 then Blake2b.hash size input
  else
    let first := Blake2b.hash 64 input
    first.take 32 ++ longTail (size - 32) first size

/-! ## filling the matrix -/

/-- The place of the block that is filled next. -/
structure Position where
  pass : Nat
  slice : Nat
  lane : Nat
  index : Nat

/-- The 128 addresses that a counter gives for a segment. -/
def addresses (p : Params) (pos : Position) (counter : Nat) : Array UInt64 :=
  let numbers := [pos.pass, pos.lane, pos.slice, p.blockCount, p.passes, p.variant.code, counter]
  let input := Block.ofList (numbers.map UInt64.ofNat)
  (Block.zero.compress (Block.zero.compress input)).toList.toArray

/-- Whether the other block of a segment is chosen by a counter. -/
def byCounter (p : Params) (pass slice : Nat) : Bool :=
  match p.variant with
  | .d => false
  | .i => true
  | .id => pass = 0 && slice < 2

/-- The number of blocks that may be referred to, in the same lane or in another. -/
def referenceArea (p : Params) (pos : Position) (sameLane : Bool) : Nat :=
  let finished := if pos.pass = 0 then pos.slice * p.segment else p.laneLength - p.segment
  if sameLane then finished + pos.index - 1
  else if pos.index = 0 then finished - 1
  else finished

/-- The block referred to by a word: its high half gives the lane, its low half a place that
prefers recent blocks. -/
def reference (p : Params) (pos : Position) (word : UInt64) : Nat :=
  let lane := if pos.pass = 0 ∧ pos.slice = 0 then pos.lane else (word >>> 32).toNat % p.lanes
  let area := referenceArea p pos (lane = pos.lane)
  let x := word &&& 0xffffffff
  let y := ((x * x) >>> 32).toNat * area / 0x100000000
  let start := if pos.pass = 0 ∨ pos.slice = 3 then 0 else (pos.slice + 1) * p.segment
  lane * p.laneLength + (start + (area - 1 - y)) % p.laneLength

/-- The blocks, and the addresses that the counter gave last. -/
structure Matrix where
  blocks : Array Block
  addresses : Array UInt64

/-- One block filled. -/
def fillBlock (p : Params) (counted : Bool) (pos : Position) (m : Matrix) : Matrix :=
  let column := pos.slice * p.segment + pos.index
  let base := pos.lane * p.laneLength
  let here := base + column
  let previous := base + (if column = 0 then p.laneLength - 1 else column - 1)
  let addresses := if counted ∧ pos.index % 128 = 0 then
    Argon2.addresses p pos (pos.index / 128 + 1) else m.addresses
  let blocks := m.blocks
  let word := if counted then addresses.getD (pos.index % 128) 0
    else (blocks.getD previous default).r0.w0
  let other := reference p pos word
  let made := (blocks.getD previous default).compress (blocks.getD other default)
  let made := if p.version = .v13 ∧ pos.pass ≠ 0 then made.xor (blocks.getD here default) else made
  ⟨blocks.setIfInBounds here made, addresses⟩

/-- The rest of a segment filled, from an index on. -/
def fillFrom (p : Params) (counted : Bool) (pos : Position) (m : Matrix) : Nat → Matrix
  | 0 => m
  | n + 1 => fillFrom p counted { pos with index := pos.index + 1 } (fillBlock p counted pos m) n

/-- A segment filled; the first two blocks of a lane are there from the start. -/
def fillSegment (p : Params) (pass slice : Nat) (blocks : Array Block) (lane : Nat) : Array Block :=
  let first := if pass = 0 ∧ slice = 0 then 2 else 0
  let counted := byCounter p pass slice
  let pos : Position := ⟨pass, slice, lane, first⟩
  let initial := if counted then addresses p pos 1 else #[]
  (fillFrom p counted pos ⟨blocks, initial⟩ (p.segment - first)).blocks

/-- All passes, the slices of a pass in order and the lanes of a slice one after the other. -/
def fill (p : Params) (blocks : Array Block) : Array Block :=
  (List.range p.passes).foldl (fun blocks pass =>
    (List.range 4).foldl (fun blocks slice =>
      (List.range p.lanes).foldl (fillSegment p pass slice) blocks) blocks) blocks

/-! ## hashing -/

/-- A part of what is hashed first, behind its length. -/
def prefixed (bytes : List UInt8) : List UInt8 := littleEndian 4 bytes.length ++ bytes

/-- The hash of all inputs that the first blocks are made of. -/
def seed (p : Params) (size : Nat) (password salt data : List UInt8) : List UInt8 :=
  let numbers := [p.lanes, size, p.memory, p.passes, p.version.code, p.variant.code]
  Blake2b.hash 64
    (numbers.flatMap (littleEndian 4) ++ prefixed password ++ prefixed salt ++ prefixed [] ++
      prefixed data)

/-- The matrix with the first two blocks of every lane. -/
def start (p : Params) (seed : List UInt8) : Array Block :=
  (List.range p.lanes).foldl (fun blocks lane =>
    [0, 1].foldl (fun blocks column =>
      let bytes := longHash 1024 (seed ++ littleEndian 4 column ++ littleEndian 4 lane)
      blocks.setIfInBounds (lane * p.laneLength + column) (.ofBytes bytes)) blocks)
    (Array.replicate p.blockCount .zero)

/-- The hash of a password, of `size` bytes; `data` is hashed along with it. -/
def hash (p : Params) (size : Nat) (password salt data : List UInt8) : List UInt8 :=
  let blocks := fill p (start p (seed p size password salt data))
  let last (lane : Nat) := blocks.getD (lane * p.laneLength + (p.laneLength - 1)) default
  longHash size (((List.range p.lanes).map last).foldl Block.xor .zero).toBytes

end Loyalty.Crypto.Argon2
