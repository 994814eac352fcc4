import Loyalty.Compress.Bits

/-!
# Loyalty.Compress.Huffman

Canonical prefix codes, given by the lengths of their words.

Words of a length are consecutive numbers, given out to the symbols in order;
the first word of a length follows from how many shorter ones there are.  A
complete code uses up all words.  Some codes may instead have a single word, of
one bit, or even none (`Fill`).
-/

namespace Loyalty.Compress

/-- The longest word. -/
def Huffman.maxLength : Nat := 15

/-- A code: how many words there are of the lengths 1 to 15, and the symbols in the order of their
words. -/
structure Huffman where
  counts : List Nat
  symbols : Array Nat

namespace Huffman

/-- How many words of 15 bits begin with no word of the code, below zero if there are too many
words. -/
def unused (counts : List Nat) : Int :=
  counts.foldl (fun left count => 2 * left - Int.ofNat count) 1

/-- How few words a code may have. -/
inductive Fill
  /-- It must be complete. -/
  | complete
  /-- It may have a single word of one bit. -/
  | single
  /-- It may have such a word, or none. -/
  | empty
  deriving DecidableEq

/-- Whether a code with so many words of the lengths 1 to 15 may be used. -/
def Fill.allows (fill : Fill) (counts : List Nat) : Bool :=
  let isSingle := counts.head? = some 1 && (counts.drop 1).all (· = 0)
  unused counts = 0 || (fill ≠ .complete && isSingle) || (fill = .empty && counts.all (· = 0))

/-- The code of the lengths of the symbols 0, 1, 2 …; no word for a symbol of length zero. -/
def ofLengths? (fill : Fill) (lengths : List Nat) : Option Huffman :=
  let indexed := lengths.zipIdx
  let symbols := (List.range' 1 maxLength).map fun n => (indexed.filter (·.1 = n)).map (·.2)
  let counts := symbols.map List.length
  if fill.allows counts then some { counts, symbols := symbols.flatten.toArray } else none

/-- The symbol of the word that comes next: `code` was read so far, `first` is the first word of the
length that comes next less one bit, and `index` the number of shorter words. -/
def search (symbols : Array Nat) (code first index : Nat) (b : Bits) :
    List Nat → Option (Nat × Bits)
  | [] => none
  | count :: counts => do
    let (bit, b) ← b.bit?
    let code := 2 * code + bit
    let first := 2 * first
    if code < first + count then
      match symbols[index + (code - first)]? with
      | some symbol => return (symbol, b)
      | none => none
    else search symbols code (first + count) (index + count) b counts

/-- The symbol of the word that comes next. -/
def next? (h : Huffman) (b : Bits) : Option (Nat × Bits) := search h.symbols 0 0 0 b h.counts

end Huffman

end Loyalty.Compress
