import Loyalty.Json.Amount
import Loyalty.Json.Reader

/-!
# Loyalty.Json.Strict

Values of which every part can be kept.

The reader of values takes strings that are no text, numbers of any size and
nesting of any depth.  A strict value has none of these: all of its strings are
text, all of its numbers are finite as binary numbers, and its arrays and
objects are nested no deeper than there is room for.

`readStrict?` reads a strict value from the front of an input.  Where it meets a
part that cannot be kept it does not fail but tells where it stands then: behind
as much of the part as it took to refuse it, and behind the closing brackets
that come next, one for each array or object that was open.  Who does not care
for the value can read on from there.
-/

namespace Loyalty.Json

open Text Text.Utf8

/-- How deep the arrays and objects of a strict document are nested at most. -/
def maxDepth : Nat := 127

/-- Whether a number is finite as a binary number. -/
def Number.isFinite (n : Number) : Bool := n.toBinary64?.isSome

/-! ## values -/

mutual

/-- Whether a value is strict, with room for so many arrays and objects inside each other. -/
def isStrict (room : Nat) : Json → Bool
  | .null => true
  | .bool _ => true
  | .number n => n.isFinite
  | .string s => s.isSome
  | .array items => room ≠ 0 && allStrict (room - 1) items
  | .object fields => room ≠ 0 && fieldsStrict (room - 1) fields

/-- Whether all items are strict. -/
def allStrict (room : Nat) : List Json → Bool
  | [] => true
  | item :: items => isStrict room item && allStrict room items

/-- Whether all fields are strict, their names too. -/
def fieldsStrict (room : Nat) : List (Option String × Json) → Bool
  | [] => true
  | (name, value) :: fields => name.isSome && isStrict room value && fieldsStrict room fields

end

/-! ## parts that are refused -/

/-- What follows the half of a pair of code units that makes a string no text, or as much of what
comes instead of the other half as it takes to see that it is missing; `none` when a string has no
such half. The input starts behind the opening quote of a string that ends. A character of several
bytes is not passed over. -/
def brokenPair? : List Symbol → Option (List Symbol)
  | [] => none
  | some '"' :: _ => none
  | some '\\' :: some 'u' :: a :: b :: c :: d :: rest =>
    match codeUnit? a b c d with
    | none => none
    | some n =>
      if isLow n then some rest
      else if isHigh n then
        match rest with
        | some '\\' :: some 'u' :: a :: b :: c :: d :: rest =>
          if (codeUnit? a b c d).any isLow then brokenPair? rest else some rest
        | some '\\' :: _ :: rest => some rest
        | some c :: rest => if c.toNat < 0x80 then some rest else some (some c :: rest)
        | none :: rest => some rest
        | [] => none
      else brokenPair? rest
  | some '\\' :: _ :: rest => brokenPair? rest
  | _ :: rest => brokenPair? rest

/-- What follows the digit with which an exponent exceeds the largest one that is looked at. The
input starts with the digits of an exponent, `value` is what the ones before it write. -/
def behindExcess (value : Nat) : List Symbol → List Symbol
  | some c :: rest =>
    if c.isDigit then
      let next := 10 * value + Decimal.digitValue c
      if maxWrittenExponent < next then rest else behindExcess next rest
    else some c :: rest
  | rest => rest

/-- The digits of the exponent of a number in front of an input. -/
def exponentPlace (input : List Symbol) : List Symbol :=
  match input.dropWhile fun s => s ≠ some 'e' ∧ s ≠ some 'E' with
  | _ :: some '+' :: rest => rest
  | _ :: rest => rest
  | [] => []

/-- Where reading stands when it refuses the token in front of an input, `none` when it does not
refuse it; `behind` is what follows the token. -/
def refusal? (token : Token) (input behind : List Symbol) : Option (List Symbol) :=
  match token with
  | .string none => some ((brokenPair? (input.drop 1)).getD behind)
  | .number n =>
    if n.isFinite then none
    else if n.exponent.any (maxWrittenExponent < ·) then some (behindExcess 0 (exponentPlace input))
    else some behind
  | _ => none

/-- What is left behind a broken pair is no longer than what was read. -/
theorem brokenPair?_length {input rest : List Symbol} (h : brokenPair? input = some rest) :
    rest.length ≤ input.length := by
  fun_induction brokenPair? input <;> simp_all <;> grind

/-- What follows an exponent that is too large is no longer than what was read. -/
theorem behindExcess_length (value : Nat) (input : List Symbol) :
    (behindExcess value input).length ≤ input.length := by
  fun_induction behindExcess value input with
  | case1 value c rest hdigit next hlarge => exact Nat.le_succ rest.length
  | case2 value c rest hdigit next hsmall ih => exact Nat.le_succ_of_le ih
  | case3 value c rest hdigit => exact Nat.le_refl _
  | case4 value rest hempty => exact Nat.le_refl _

/-- The place of an exponent is within what was read. -/
theorem exponentPlace_length (input : List Symbol) :
    (exponentPlace input).length ≤ input.length := by
  have h :=
    (List.dropWhile_sublist (fun s => decide (s ≠ some 'e' ∧ s ≠ some 'E')) (l := input)).length_le
  unfold exponentPlace
  split <;> simp_all <;> omega

/-- A refused token is left at a place within what was read. -/
theorem refusal?_length {token : Token} {input behind rest : List Symbol}
    (h : refusal? token input behind = some rest) :
    rest.length ≤ max input.length behind.length := by
  unfold refusal? at h
  split at h
  · cases hp : brokenPair? (input.drop 1) with
    | none =>
      simp only [hp, Option.getD_none, Option.some.injEq] at h
      subst h
      omega
    | some r =>
      have := brokenPair?_length hp
      simp only [hp, Option.getD_some, Option.some.injEq, List.length_drop] at h this
      subst h
      omega
  · have h1 := behindExcess_length 0 (exponentPlace input)
    have h2 := exponentPlace_length input
    split at h
    · cases h
    · split at h <;> cases h <;> omega
  · cases h

/-! ## what was open -/

/-- What an array or an object ends with. -/
inductive Bracket
  | square
  | curly
  deriving DecidableEq

/-- The brackets that close the arrays and objects that are open, innermost first. -/
def State.brackets (s : State) : List Bracket :=
  let inner := match s.expected with
    | .key _ | .keyOrEnd | .colon .. => [Bracket.curly]
    | _ => []
  inner ++ s.frames.map fun
    | .array _ => .square
    | .object .. => .curly

/-- What is left when arrays and objects are given up: each passes over its bracket if that comes
next, an array over a comma too. -/
def giveUp : List Bracket → List Symbol → List Symbol
  | [], input => input
  | bracket :: brackets, input =>
    match bracket, skipBlanks input with
    | .square, some ']' :: rest => giveUp brackets rest
    | .square, some ',' :: rest => giveUp brackets rest
    | .curly, some '\x7d' :: rest => giveUp brackets rest
    | _, rest => giveUp brackets rest

/-- What is left when reading is given up is no longer than what was read. -/
theorem giveUp_length (brackets : List Bracket) (input : List Symbol) :
    (giveUp brackets input).length ≤ input.length := by
  induction brackets generalizing input with
  | nil => exact Nat.le_refl _
  | cons bracket brackets ih =>
    have hs := length_skipBlanks_le input
    unfold giveUp
    split
    iterate 3
      · next r h =>
        have := ih r
        rw [h, List.length_cons] at hs
        omega
    · exact Nat.le_trans (ih _) hs

/-! ## reading -/

/-- The bracket that closes what a token opens. -/
def Token.closing? : Token → Option Bracket
  | .openArray => some .square
  | .openObject => some .curly
  | _ => none

/-- The machine of the reader, which refuses what is not strict: the outermost value and what
follows it, or no value and where reading stands. -/
def runStrict (room : Nat) (s : State) (input : List Symbol) : Option (Option Json × List Symbol) :=
  match Token.next? input with
  | none => none
  | some (t, rest) =>
    if t.closing?.isSome ∧ room ≤ s.brackets.length then none
    else
      match refusal? t (skipBlanks input) rest.val with
      | some stop => some (none, giveUp s.brackets stop)
      | none =>
        match step s t with
        | none => none
        | some (.complete value) => some (some value, rest.val)
        | some (.running s) => runStrict room s rest.val
termination_by input.length
decreasing_by exact rest.property

/-- The strict value in front of an input and what follows it, or no value and where reading stands;
`none` when there is neither, because the value is broken or nested too deep. -/
def readStrict? (room : Nat) (input : List Symbol) : Option (Option Json × List Symbol) :=
  runStrict room ⟨[], .value⟩ input

/-- Where reading stands when it looks no further than the token in front of an input: what it opens
is given up at once. -/
def passToken? (input : List Symbol) : Option (List Symbol) :=
  match Token.next? input with
  | none => none
  | some (t, rest) =>
    if (startValue [] t).isNone then none
    else some (giveUp t.closing?.toList ((refusal? t (skipBlanks input) rest.val).getD rest.val))

theorem refusal?_skipBlanks_length {t : Token} {input rest stop : List Symbol}
    (hr : rest.length < input.length) (h : refusal? t (skipBlanks input) rest = some stop) :
    stop.length ≤ input.length := by
  have h1 := refusal?_length h
  have h2 := length_skipBlanks_le input
  omega

/-- What is left behind a value, or behind what was refused, is no longer than what was read. -/
theorem runStrict_length {room : Nat} {s : State} {input rest : List Symbol} {value : Option Json}
    (h : runStrict room s input = some (value, rest)) : rest.length ≤ input.length := by
  fun_induction runStrict room s input with
  | case1 => cases h
  | case2 => cases h
  | case3 s input t behind ht hd stop hs =>
    cases h
    exact Nat.le_trans (giveUp_length ..) (refusal?_skipBlanks_length behind.property hs)
  | case4 => cases h
  | case5 s input t behind ht hd hs v hv =>
    cases h
    exact Nat.le_of_lt behind.property
  | case6 s input t behind ht hd hs s' hv ih =>
      exact Nat.le_trans (ih h) (Nat.le_of_lt behind.property)

/-- What is left behind a document, or behind what was refused, is no longer than what was read. -/
theorem readStrict?_length {room : Nat} {input rest : List Symbol} {value : Option Json}
    (h : readStrict? room input = some (value, rest)) : rest.length ≤ input.length :=
  runStrict_length h

/-- What is left behind a token that is passed over is no longer than what was read. -/
theorem passToken?_length {input rest : List Symbol} (h : passToken? input = some rest) :
    rest.length ≤ input.length := by
  unfold passToken? at h
  split at h
  · cases h
  · next t behind ht =>
    split at h
    · cases h
    · cases h
      refine Nat.le_trans (giveUp_length ..) ?_
      cases hs : refusal? t (skipBlanks input) behind.val with
      | none => exact Nat.le_of_lt behind.property
      | some stop => exact refusal?_skipBlanks_length behind.property hs

end Loyalty.Json
