import Loyalty.Compress.Huffman

/-!
# Loyalty.Compress.Inflate

Compressed data unpacked (the format "deflate").

Data is a sequence of blocks, the last one marked.  A block is stored, or coded
with fixed or with its own prefix codes; coded blocks are literal bytes and
copies of what was unpacked before.  A copy may reach back farther than there
is anything, and finds zeros there.

Unpacking stops as soon as more comes out than is wanted, so that little data
cannot make much work.
-/

namespace Loyalty.Compress

/-- Why data was not unpacked. -/
inductive Fault
  /-- It is not what the format asks for, or ends early. -/
  | broken
  /-- More comes out than is wanted. -/
  | tooLong
  deriving DecidableEq

namespace Inflate

/-- Something that must be there. -/
def need {α : Type} : Option α → Except Fault α
  | some a => .ok a
  | none => .error .broken

/-! ## codes -/

/-- The shortest length of a copy for each length symbol, and the bits that add to it. -/
def lengthCodes : List (Nat × Nat) :=
  [(3, 0), (4, 0), (5, 0), (6, 0), (7, 0), (8, 0), (9, 0), (10, 0), (11, 1), (13, 1), (15, 1),
    (17, 1), (19, 2), (23, 2), (27, 2), (31, 2), (35, 3), (43, 3), (51, 3), (59, 3), (67, 4),
    (83, 4), (99, 4), (115, 4), (131, 5), (163, 5), (195, 5), (227, 5), (258, 0)]

/-- The shortest distance of a copy for each distance symbol, and the bits that add to it. -/
def distanceCodes : List (Nat × Nat) :=
  [(1, 0), (2, 0), (3, 0), (4, 0), (5, 1), (7, 1), (9, 2), (13, 2), (17, 3), (25, 3), (33, 4),
    (49, 4), (65, 5), (97, 5), (129, 6), (193, 6), (257, 7), (385, 7), (513, 8), (769, 8),
    (1025, 9), (1537, 9), (2049, 10), (3073, 10), (4097, 11), (6145, 11), (8193, 12), (12289, 12),
    (16385, 13), (24577, 13)]

/-- The lengths of the fixed code of literals and lengths. -/
def fixedLiteralLengths : List Nat :=
  List.replicate 144 8 ++ List.replicate 112 9 ++ List.replicate 24 7 ++ List.replicate 8 8

/-- The lengths of the fixed code of distances. -/
def fixedDistanceLengths : List Nat := List.replicate 32 5

/-- The codes of a block: of literals and lengths, and of distances. -/
structure Codes where
  literals : Huffman
  distances : Huffman

/-- The codes of blocks that have none of their own. -/
def fixedCodes? : Option Codes := do
  return {
    literals := ← Huffman.ofLengths? .complete fixedLiteralLengths
    distances := ← Huffman.ofLengths? .complete fixedDistanceLengths }

/-- The order in which the lengths of the code of lengths come. -/
def lengthOrder : List Nat := [16, 17, 18, 0, 8, 7, 9, 6, 10, 5, 11, 4, 12, 3, 13, 2, 14, 1, 15]

/-- So many numbers of three bits. -/
def takeTriples (b : Bits) : Nat → Option (List Nat × Bits)
  | 0 => some ([], b)
  | n + 1 => do
    let (x, b) ← b.take? 3
    let (xs, b) ← takeTriples b n
    return (x :: xs, b)

/-- Lengths of words, newest first, until there are `total`: symbols up to 15 are lengths, the
others repeat the last one or zero. -/
def takeLengths (code : Huffman) (total : Nat) : Nat → List Nat → Bits → Option (List Nat × Bits)
  | 0, _, _ => none
  | fuel + 1, acc, b =>
    if acc.length = total then some (acc.reverse, b)
    else if total < acc.length then none
    else do
      let (symbol, b) ← code.next? b
      if symbol < 16 then takeLengths code total fuel (symbol :: acc) b
      else
        let (value, bits, base) ← match symbol, acc with
          | 16, last :: _ => some (last, 2, 3)
          | 16, [] => none
          | 17, _ => some (0, 3, 3)
          | _, _ => some (0, 7, 11)
        let (more, b) ← b.take? bits
        takeLengths code total fuel (List.replicate (base + more) value ++ acc) b

/-- The largest number of literals and lengths that a block has words for. -/
def maxLiterals : Nat := 286

/-- The largest number of distances that a block has words for. -/
def maxDistances : Nat := 30

/-- The codes in front of a block that has its own. -/
def ownCodes? (b : Bits) : Option (Codes × Bits) := do
  let (literals, b) ← b.take? 5
  let (distances, b) ← b.take? 5
  let (lengths, b) ← b.take? 4
  let literals := literals + 257
  let distances := distances + 1
  if maxLiterals < literals ∨ maxDistances < distances then none
  else
    let (given, b) ← takeTriples b (lengths + 4)
    let lengthOf (symbol : Nat) : Nat :=
      (((lengthOrder.zip given).find? (·.1 = symbol)).map (·.2)).getD 0
    let code ← Huffman.ofLengths? .complete ((List.range 19).map lengthOf)
    let total := literals + distances
    let (all, b) ← takeLengths code total (total + 1) [] b
    return ({
      literals := ← Huffman.ofLengths? .single (all.take literals)
      distances := ← Huffman.ofLengths? .empty (all.drop literals) }, b)

/-! ## items -/

/-- What a coded block consists of. -/
inductive Item
  | literal (byte : UInt8)
  | copy (length distance : Nat)
  /-- The end of the block. -/
  | stop

/-- The number that a symbol of a code of bases stands for. -/
def number? (codes : List (Nat × Nat)) (symbol : Nat) (b : Bits) : Option (Nat × Bits) := do
  let (base, bits) ← codes[symbol]?
  let (more, b) ← b.take? bits
  return (base + more, b)

/-- The item that comes next. -/
def item? (codes : Codes) (b : Bits) : Option (Item × Bits) := do
  let (symbol, b) ← codes.literals.next? b
  if symbol < 256 then return (.literal (.ofNat symbol), b)
  else if symbol = 256 then return (.stop, b)
  else
    let (length, b) ← number? lengthCodes (symbol - 257) b
    let (symbol, b) ← codes.distances.next? b
    let (distance, b) ← number? distanceCodes symbol b
    return (.copy length distance, b)

/-- What was unpacked, with so many of its own bytes from a distance behind its end, zeros for those
before `start`. -/
def copy (start distance : Nat) : Nat → ByteArray → ByteArray
  | 0, out => out
  | n + 1, out =>
    let byte := if start + distance ≤ out.size then out[out.size - distance]?.getD 0 else 0
    copy start distance n (out.push byte)

/-! ## blocks -/

/-- A coded block. What its copies can reach begins at `start`. -/
def codedBlock (limit start : Nat) (codes : Codes) :
    Nat → ByteArray → Bits → Except Fault (ByteArray × Bits)
  | 0, _, _ => .error .broken
  | fuel + 1, out, b => do
    if limit < out.size then .error .tooLong
    else
      match ← need (item? codes b) with
      | (.literal byte, b) => codedBlock limit start codes fuel (out.push byte) b
      | (.copy length distance, b) =>
          codedBlock limit start codes fuel (copy start distance length out) b
      | (.stop, b) => return (out, b)

/-- A stored block: its length, the complement of it, and the bytes. -/
def storedBlock (limit : Nat) (out : ByteArray) (b : Bits) : Except Fault (ByteArray × Bits) := do
  let b := b.align
  let (length, b) ← need (b.take? 16)
  let (complement, b) ← need (b.take? 16)
  let start := b.bytePosition
  if length + complement ≠ 65535 then .error .broken
  else
    let out := out ++ b.data.extract start (start + length)
    if limit < out.size then .error .tooLong
    else if b.data.size < start + length then .error .broken
    else return (out, b.skipBytes length)

/-- Blocks up to the last one. What their copies can reach begins at `start`. -/
def blocks (limit start : Nat) : Nat → ByteArray → Bits → Except Fault (ByteArray × Bits)
  | 0, _, _ => .error .broken
  | fuel + 1, out, b => do
    let (last, b) ← need (b.take? 1)
    let (kind, b) ← need (b.take? 2)
    let (out, b) ← match kind with
      | 0 => storedBlock limit out b
      | 1 => do codedBlock limit start (← need fixedCodes?) (8 * b.data.size + 1) out b
      | 2 => do
        let (codes, b) ← need (ownCodes? b)
        codedBlock limit start codes (8 * b.data.size + 1) out b
      | _ => .error .broken
    if limit < out.size then .error .tooLong
    else if last = 1 then return (out, b)
    else blocks limit start fuel out b

/-- The data from a place on, unpacked behind what is there already; the place behind its end. Every
block and every word takes a bit at least, which bounds their number. -/
def inflate (limit : Nat) (out : ByteArray) (b : Bits) : Except Fault (ByteArray × Bits) :=
  blocks limit out.size (8 * b.data.size + 1) out b

end Inflate

end Loyalty.Compress
