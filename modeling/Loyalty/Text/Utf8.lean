/-!
# Loyalty.Text.Utf8

Bytes read as UTF-8, one character at a time.

Where the bytes are well formed a character is read; where they are not, one
byte is passed over as `none`.  So a reader can go on behind bytes that are no
text and decide later whether they matter, and a text is well formed exactly
when no symbol is `none`.
-/

namespace Loyalty.Text.Utf8

/-- A character, or a byte that is not part of one. -/
abbrev Symbol := Option Char

/-- A byte that continues a character. -/
def isTail (b : UInt8) : Bool := 0x80 ≤ b && b ≤ 0xBF

/-- A continuation byte of a character whose second byte is limited: the surrogates, the code points
above U+10FFFF and the overlong forms are left out. -/
def isSecond (first second : UInt8) : Bool :=
  isTail second &&
    (if first = 0xE0 then 0xA0 ≤ second
     else if first = 0xED then second ≤ 0x9F
     else if first = 0xF0 then 0x90 ≤ second
     else if first = 0xF4 then second ≤ 0x8F
     else true)

/-- The six bits of a continuation byte. -/
def tailBits (b : UInt8) : Nat := b.toNat % 64

/-- The character that bytes start with and the number of bytes that continue it. -/
def char? : List UInt8 → Option (Char × Nat)
  | [] => none
  | a :: rest =>
    if a < 0x80 then some (Char.ofNat a.toNat, 0)
    else match rest with
      | [] => none
      | b :: rest =>
        if 0xC2 ≤ a && a ≤ 0xDF && isTail b then
          some (Char.ofNat (a.toNat % 32 * 64 + tailBits b), 1)
        else match rest with
          | [] => none
          | c :: rest =>
            if 0xE0 ≤ a && a ≤ 0xEF && isSecond a b && isTail c then
              some (Char.ofNat (a.toNat % 16 * 4096 + tailBits b * 64 + tailBits c), 2)
            else match rest with
              | [] => none
              | d :: _ =>
                if 0xF0 ≤ a && a ≤ 0xF4 && isSecond a b && isTail c && isTail d then
                  some (Char.ofNat
                    (a.toNat % 8 * 262144 + tailBits b * 4096 + tailBits c * 64 + tailBits d), 3)
                else none

/-- The symbols of bytes, the newest first, in front of those already read; `skip` bytes belong to
the character read last. -/
def symbolsAux (acc : List Symbol) (skip : Nat) : List UInt8 → List Symbol
  | [] => acc
  | a :: rest =>
    match skip with
    | skip + 1 => symbolsAux acc skip rest
    | 0 =>
      match char? (a :: rest) with
      | some (c, tails) => symbolsAux (some c :: acc) tails rest
      | none => symbolsAux (none :: acc) 0 rest

/-- Bytes as characters, and as `none` where they are not text. -/
def symbols (bytes : List UInt8) : List Symbol := (symbolsAux [] 0 bytes).reverse

/-- A text as symbols, all of them characters. -/
def ofText (s : String) : List Symbol := s.toList.map some

/-- The text of symbols, when all of them are characters. -/
def toText? (symbols : List Symbol) : Option String := (symbols.mapM id).map String.ofList

/-- The bytes of a text. -/
def encode (s : String) : List UInt8 := s.toUTF8.toList

/-- The text that bytes are, when they are well formed. -/
def decode? (bytes : List UInt8) : Option String := toText? (symbols bytes)

/-- A text is decoded from its own bytes. -/
theorem toText?_ofText (s : String) : toText? (ofText s) = some s := by
  have h : ∀ cs : List Char, (cs.map some).mapM id = some cs := by
    intro cs
    induction cs with
    | nil => rfl
    | cons c cs ih => simp [List.mapM_cons, ih]
  simp [toText?, ofText, h]

example : decode? (encode "aé√😀") = some "aé√😀" := by decide +kernel
example : symbols [0xED, 0xA0, 0x80, 0x41] = [none, none, none, some 'A'] := by decide +kernel

end Loyalty.Text.Utf8
