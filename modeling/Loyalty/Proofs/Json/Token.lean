import Loyalty.Json.Token
import Loyalty.Json.Writer
import Mathlib

/-!
# Loyalty.Proofs.Json.Token

Tokens written, and the same tokens read.

`Token.split?` is the next token of an input and what follows it.  What is always
spelled alike is read as itself (`split?_spelling`), and a string in quotes as
the text that it was written for (`split?_quoted`), one character at a time: each
is escaped into something from which it is read back (`stringAux_escapeChar`).
-/

namespace Loyalty.Json

open Text Text.Utf8

/-- The token in front of an input that starts with no blank, and what follows it. -/
def frontSplit? (input : List Symbol) : Option (Token × List Symbol) :=
  (front? input).map fun (t, rest) => (t, rest.val)

/-- The next token of an input, and what follows it. -/
def Token.split? (input : List Symbol) : Option (Token × List Symbol) :=
  (Token.next? input).map fun (t, rest) => (t, rest.val)

theorem split?_of_next? {input : List Symbol} {t : Token} {behind : Rest input}
    (h : Token.next? input = some (t, behind)) :
    Token.split? input = some (t, behind.val) := by
  rw [Token.split?, h, Option.map_some]

theorem exists_next? {input rest : List Symbol} {t : Token}
    (h : Token.split? input = some (t, rest)) :
    ∃ behind : Rest input, Token.next? input = some (t, behind) ∧ behind.val = rest := by
  obtain ⟨⟨t', behind⟩, hnext, heq⟩ := Option.map_eq_some_iff.mp h
  cases heq
  exact ⟨behind, hnext, rfl⟩

theorem split?_length {input rest : List Symbol} {t : Token}
    (h : Token.split? input = some (t, rest)) :
    rest.length < input.length := by
  obtain ⟨behind, -, rfl⟩ := exists_next? h
  exact behind.property

/-- The next token stands behind the blanks. -/
theorem split?_eq (input : List Symbol) : Token.split? input = frontSplit? (skipBlanks input) := by
  simp only [Token.split?, Token.next?, frontSplit?, Option.map_map]
  rfl

/-- Where no blank is in front, a token is. -/
theorem split?_cons {c : Char} (hc : isBlank c = false) (rest : List Symbol) :
    Token.split? (some c :: rest) = frontSplit? (some c :: rest) := by
  rw [split?_eq, skipBlanks, List.dropWhile_cons_of_neg (by simpa using hc)]

/-! ## words and punctuation -/

/-- How a token is spelled that is always spelled alike. -/
def Token.spelling? : Token → Option (List Char)
  | .openArray => some ['[']
  | .closeArray => some [']']
  | .openObject => some ['\x7b']
  | .closeObject => some ['\x7d']
  | .comma => some [',']
  | .colon => some [':']
  | .null => some ['n', 'u', 'l', 'l']
  | .bool true => some ['t', 'r', 'u', 'e']
  | .bool false => some ['f', 'a', 'l', 's', 'e']
  | .number _ | .string _ => none

/-- What is always spelled alike is read from its spelling. -/
theorem split?_spelling {t : Token} {w : List Char} (h : t.spelling? = some w)
    (rest : List Symbol) :
    Token.split? (w.map some ++ rest) = some (t, rest) := by
  unfold Token.spelling? at h
  split at h <;> cases h
  all_goals
    rw [List.map_cons, List.cons_append, split?_cons (by decide)]
    rfl

theorem split?_closeArray (rest : List Symbol) :
    Token.split? (some ']' :: rest) = some (.closeArray, rest) :=
  split?_spelling (t := .closeArray) rfl rest

theorem split?_openObject (rest : List Symbol) :
    Token.split? (some '\x7b' :: rest) = some (.openObject, rest) :=
  split?_spelling (t := .openObject) rfl rest

theorem split?_closeObject (rest : List Symbol) :
    Token.split? (some '\x7d' :: rest) = some (.closeObject, rest) :=
  split?_spelling (t := .closeObject) rfl rest

theorem split?_comma (rest : List Symbol) : Token.split? (some ',' :: rest) = some (.comma, rest) :=
  split?_spelling (t := .comma) rfl rest

theorem split?_colon (rest : List Symbol) : Token.split? (some ':' :: rest) = some (.colon, rest) :=
  split?_spelling (t := .colon) rfl rest

/-! ## strings -/

/-- The escape of a control character by its number is read back. -/
theorem codeUnit?_digits {n : Nat} (h : n < 256) :
    codeUnit? (some '0') (some '0') (some (Hex.digit (n / 16))) (some (Hex.digit (n % 16))) =
      some n := by
  have h0 : Hex.value? '0' = some 0 := by decide
  have h1 := Hex.value?_digit (show n / 16 < 16 by omega)
  have h2 := Hex.value?_digit (show n % 16 < 16 by omega)
  simp only [codeUnit?, Hex.number?, List.foldl_cons, List.foldl_nil, h0, h1, h2,
    Option.bind_eq_bind, Option.bind_some, Option.pure_def, Option.some.injEq]
  omega

/-- What a character is escaped into is read as the character. -/
theorem stringAux_escapeChar (c : Char) (acc rest : List Symbol) :
    stringAux none acc ((escapeChar c).map some ++ rest) = stringAux none (some c :: acc) rest := by
  fun_cases escapeChar c with
  | case8 c _ _ _ _ _ _ _ hcontrol =>
      have hhigh : isHigh c.toNat = false := by
        simp only [isHigh, Bool.and_eq_false_iff, decide_eq_false_iff_not]; omega
      have hlow : isLow c.toNat = false := by
        simp only [isLow, Bool.and_eq_false_iff, decide_eq_false_iff_not]; omega
      simp only [List.map_cons, List.map_nil, List.cons_append, List.nil_append]
      rw [stringAux, codeUnit?_digits (by omega)]
      simp only [hhigh, hlow, Bool.false_eq_true, if_false, flush, Option.isSome_none,
        Char.ofNat_toNat]
  | case9 c hquote hbackslash _ _ _ _ _ hplain =>
      rw [List.map_singleton, List.singleton_append, stringAux.eq_def]
      split <;> simp_all [flush]
  | _ => rfl

/-- The characters of a string are read up to its closing quote. -/
theorem stringAux_flatMap (cs : List Char) (acc rest : List Symbol) :
    stringAux none acc ((cs.flatMap escapeChar).map some ++ some '"' :: rest) =
      some ((cs.map some).reverse ++ acc, rest) := by
  induction cs generalizing acc with
  | nil => rfl
  | cons c cs ih =>
      rw [List.flatMap_cons, List.map_append, List.append_assoc, stringAux_escapeChar, ih]
      simp

/-- A quote opens a string. -/
theorem split?_quote {input held rest : List Symbol}
    (h : stringAux none [] input = some (held, rest)) :
    Token.split? (some '"' :: input) = some (.string (toText? held.reverse), rest) := by
  rw [split?_cons (by decide), frontSplit?, front?]
  split
  · next held' rest' h' =>
      rw [h] at h'
      cases h'
      rfl
  · next h' => rw [h] at h'; cases h'

/-- A string in quotes is read as its text. -/
theorem split?_quoted (s : String) (rest : List Symbol) :
    Token.split? ((quoted s).map some ++ rest) = some (.string (some s), rest) := by
  have hinput : (quoted s).map some ++ rest =
      some '"' :: ((s.toList.flatMap escapeChar).map some ++ some '"' :: rest) := by
    simp [quoted]
  rw [hinput, split?_quote (stringAux_flatMap s.toList [] rest), List.append_nil,
    List.reverse_reverse]
  exact congrArg (fun t => some (Token.string t, rest)) (toText?_ofText s)

end Loyalty.Json
