import Loyalty.Json.Basic
import Loyalty.Text.Digits
import Loyalty.Text.Hex
import Loyalty.Text.Utf8

/-!
# Loyalty.Json.Token

The tokens of JSON, read one at a time from symbols.

`next?` passes over blanks and gives the token in front together with the rest
of the input, which it proves shorter; that is what lets the reader of values
run as a plain loop.  Numbers and words are taken as long as they go.  A string
ends at its first unescaped quote; control characters in it are refused,
everything else that makes no text leaves the string without one.
-/

namespace Loyalty.Json

open Text Text.Utf8

/-- A token. -/
inductive Token
  | openArray
  | closeArray
  | openObject
  | closeObject
  | comma
  | colon
  | null
  | bool (value : Bool)
  | number (value : Number)
  | string (text : Option String)
  deriving DecidableEq, Inhabited

/-- What is left of an input after at least one symbol of it was read. -/
abbrev Rest (input : List Symbol) := { rest : List Symbol // rest.length < input.length }

/-- A blank between tokens. -/
def isBlank (c : Char) : Bool := c = ' ' || c = '\n' || c = '\t' || c = '\r'

/-- The input without the blanks it starts with. -/
def skipBlanks (input : List Symbol) : List Symbol := input.dropWhile fun s => s.any isBlank

/-- What is left behind blanks is no longer than what was read. -/
theorem length_skipBlanks_le (input : List Symbol) : (skipBlanks input).length ≤ input.length :=
  (List.dropWhile_sublist _).length_le

/-! ## strings -/

/-- The character of a one-letter escape. -/
def escaped? (c : Char) : Option Char :=
  match c with
  | '"' => some '"'
  | '\\' => some '\\'
  | '/' => some '/'
  | 'b' => some '\x08'
  | 'f' => some '\x0c'
  | 'n' => some '\n'
  | 'r' => some '\r'
  | 't' => some '\t'
  | _ => none

/-- The code unit of four hexadecimal digits. -/
def codeUnit? (a b c d : Symbol) : Option Nat := do Hex.number? [← a, ← b, ← c, ← d]

/-- A code unit that is the first of a pair. -/
def isHigh (n : Nat) : Bool := 0xD800 ≤ n && n < 0xDC00

/-- A code unit that is the second of a pair. -/
def isLow (n : Nat) : Bool := 0xDC00 ≤ n && n < 0xE000

/-- The character of a pair of code units. -/
def pairChar (high low : Nat) : Char :=
  Char.ofNat (0x10000 + (high - 0xD800) * 1024 + (low - 0xDC00))

/-- What was read, after a first code unit of a pair that no second one followed. -/
def flush (pending : Option Nat) (acc : List Symbol) : List Symbol :=
  if pending.isSome then none :: acc else acc

/-- What a string holds up to its closing quote, newest first, as symbols; `none` stands for a part
that is no text. The input starts behind the opening quote, `pending` is the first code unit of a
pair that was just read. -/
def stringAux (pending : Option Nat) (acc : List Symbol) :
    List Symbol → Option (List Symbol × List Symbol)
  | [] => none
  | some '"' :: rest => some (flush pending acc, rest)
  | some '\\' :: some 'u' :: a :: b :: c :: d :: rest =>
    match codeUnit? a b c d with
    | none => none
    | some n =>
      if isHigh n then stringAux (some n) (flush pending acc) rest
      else if isLow n then
        match pending with
        | some high => stringAux none (some (pairChar high n) :: acc) rest
        | none => stringAux none (none :: acc) rest
      else stringAux none (some (Char.ofNat n) :: flush pending acc) rest
  | some '\\' :: some c :: rest =>
    match escaped? c with
    | some e => stringAux none (some e :: flush pending acc) rest
    | none => none
  | some '\\' :: _ => none
  | some c :: rest =>
      if c.toNat < 0x20 then none else stringAux none (some c :: flush pending acc) rest
  | none :: rest => stringAux none (none :: flush pending acc) rest

/-- What is left behind a string is shorter than what was read. -/
theorem stringAux_length {pending : Option Nat} {acc input held rest : List Symbol}
    (h : stringAux pending acc input = some (held, rest)) : rest.length < input.length := by
  fun_induction stringAux pending acc input <;> simp_all <;> omega

/-! ## numbers -/

/-- The digits in front of the input. -/
def digits (input : List Symbol) : List Char :=
  (input.takeWhile fun s => s.any Char.isDigit).filterMap id

/-- The input behind the digits in front of it. -/
def dropDigits (input : List Symbol) : List Symbol := input.dropWhile fun s => s.any Char.isDigit

/-- An optional fraction: a point and at least one digit. -/
def fraction? (input : List Symbol) : Option (List Char × List Symbol) :=
  match input with
  | some '.' :: rest => if (digits rest).isEmpty then none else some (digits rest, dropDigits rest)
  | _ => some ([], input)

/-- The digits of an exponent behind its sign. -/
def exponentDigits? (negative : Bool) (input : List Symbol) : Option (Option Int × List Symbol) :=
  let ds := digits input
  if ds.isEmpty then none
  else some (some (if negative then -(Digits.toNat ds : Int) else Digits.toNat ds),
    dropDigits input)

/-- An optional exponent: `e` or `E`, an optional sign and at least one digit. -/
def exponent? (input : List Symbol) : Option (Option Int × List Symbol) :=
  match input with
  | some 'e' :: rest | some 'E' :: rest =>
    match rest with
    | some '-' :: rest => exponentDigits? true rest
    | some '+' :: rest => exponentDigits? false rest
    | _ => exponentDigits? false rest
  | _ => some (none, input)

/-- A number in front of the input, behind its sign: a leading zero stands alone. -/
def unsignedNumber? (negative : Bool) (input : List Symbol) : Option (Number × List Symbol) := do
  let whole := digits input
  if whole.isEmpty || (whole.length > 1 && whole.head? = some '0') then none
  else
    let (fraction, rest) ← fraction? (dropDigits input)
    let (exponent, rest) ← exponent? rest
    return (⟨negative, whole, fraction, exponent⟩, rest)

/-- What is left behind digits is no longer than what was read. -/
theorem length_dropDigits_le (input : List Symbol) : (dropDigits input).length ≤ input.length :=
  (List.dropWhile_sublist _).length_le

/-- What is left behind at least one digit is shorter than what was read. -/
theorem length_dropDigits_lt {input : List Symbol} (h : (digits input).isEmpty = false) :
    (dropDigits input).length < input.length := by
  cases input with
  | nil => simp [digits] at h
  | cons s rest =>
    by_cases hs : s.any Char.isDigit = true
    · have := length_dropDigits_le rest
      simp only [dropDigits, List.dropWhile_cons, hs, if_true, List.length_cons] at this ⊢
      omega
    · simp [digits, hs] at h

/-- What is left behind a fraction is no longer than what was read. -/
theorem fraction?_length {input : List Symbol} {ds : List Char} {rest : List Symbol}
    (h : fraction? input = some (ds, rest)) : rest.length ≤ input.length := by
  unfold fraction? at h
  split at h
  · split at h
    · simp at h
    · next r _ =>
      have := length_dropDigits_le r
      simp only [Option.some.injEq, Prod.mk.injEq] at h
      rw [← h.2, List.length_cons]
      omega
  · simp only [Option.some.injEq, Prod.mk.injEq] at h
    exact Nat.le_of_eq (congrArg List.length h.2.symm)

/-- What is left behind the digits of an exponent is no longer than what was read. -/
theorem exponentDigits?_length {negative : Bool} {input : List Symbol} {e : Option Int}
    {rest : List Symbol} (h : exponentDigits? negative input = some (e, rest)) :
    rest.length ≤ input.length := by
  unfold exponentDigits? at h
  by_cases hd : (digits input).isEmpty = true
  · simp [hd] at h
  · simp only [hd, Bool.false_eq_true, if_false, Option.some.injEq, Prod.mk.injEq] at h
    rw [← h.2]
    exact length_dropDigits_le _

/-- What is left behind an exponent is no longer than what was read. -/
theorem exponent?_length {input : List Symbol} {e : Option Int} {rest : List Symbol}
    (h : exponent? input = some (e, rest)) : rest.length ≤ input.length := by
  unfold exponent? at h
  split at h
  all_goals first
    | simp only [Option.some.injEq, Prod.mk.injEq] at h
      exact Nat.le_of_eq (congrArg List.length h.2.symm)
    | split at h
      all_goals
        have hle := exponentDigits?_length h
        simp only [List.length_cons] at hle ⊢
        omega

/-- What is left behind a number is shorter than what was read. -/
theorem unsignedNumber?_length {negative : Bool} {input : List Symbol} {n : Number}
    {rest : List Symbol} (h : unsignedNumber? negative input = some (n, rest)) :
    rest.length < input.length := by
  unfold unsignedNumber? at h
  simp only [Bool.or_eq_true, Option.bind_eq_bind] at h
  split at h
  · simp at h
  · next hw =>
    simp only [not_or, Bool.not_eq_true] at hw
    simp only [Option.bind_eq_some_iff] at h
    obtain ⟨⟨fraction, r⟩, hf, ⟨e, r'⟩, he, hr⟩ := h
    have h1 := length_dropDigits_lt hw.1
    have h2 := fraction?_length hf
    have h3 := exponent?_length he
    simp only [Option.pure_def, Option.some.injEq, Prod.mk.injEq] at hr
    rw [← hr.2]
    simp only at h2 h3
    omega

/-! ## tokens -/

/-- The token in front of an input that starts with no blank, and the rest behind it. -/
def front? (input : List Symbol) : Option (Token × Rest input) :=
  match input with
  | some '[' :: rest => some (.openArray, ⟨rest, by simp⟩)
  | some ']' :: rest => some (.closeArray, ⟨rest, by simp⟩)
  | some '\x7b' :: rest => some (.openObject, ⟨rest, by simp⟩)
  | some '\x7d' :: rest => some (.closeObject, ⟨rest, by simp⟩)
  | some ',' :: rest => some (.comma, ⟨rest, by simp⟩)
  | some ':' :: rest => some (.colon, ⟨rest, by simp⟩)
  | some 'n' :: some 'u' :: some 'l' :: some 'l' :: rest => some (.null, ⟨rest, by simp; omega⟩)
  | some 't' :: some 'r' :: some 'u' :: some 'e' :: rest =>
      some (.bool true, ⟨rest, by simp; omega⟩)
  | some 'f' :: some 'a' :: some 'l' :: some 's' :: some 'e' :: rest =>
    some (.bool false, ⟨rest, by simp; omega⟩)
  | some '"' :: rest =>
    match h : stringAux none [] rest with
    | some (held, rest') =>
      some (.string (toText? held.reverse), ⟨rest', by have := stringAux_length h; simp; omega⟩)
    | none => none
  | some '-' :: rest =>
    match h : unsignedNumber? true rest with
    | some (n, rest') => some (.number n, ⟨rest', by have := unsignedNumber?_length h; simp; omega⟩)
    | none => none
  | input =>
    match h : unsignedNumber? false input with
    | some (n, rest') => some (.number n, ⟨rest', unsignedNumber?_length h⟩)
    | none => none

/-- The next token of an input, behind blanks, and the rest behind it. -/
def Token.next? (input : List Symbol) : Option (Token × Rest input) :=
  (front? (skipBlanks input)).map fun (t, rest) =>
    (t, ⟨rest.val, Nat.lt_of_lt_of_le rest.property (length_skipBlanks_le input)⟩)

end Loyalty.Json
