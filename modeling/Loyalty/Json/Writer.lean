import Loyalty.Json.Basic
import Loyalty.Text.Digits
import Loyalty.Text.Hex

/-!
# Loyalty.Json.Writer

JSON values as text without blanks.

Quotes, backslashes and control characters are escaped, by a letter where one
exists; every other character stands for itself.  An exponent has its sign.  A
string that is no text is written as the empty one.
-/

namespace Loyalty.Json

open Text

/-- A character inside a string. -/
def escapeChar (c : Char) : List Char :=
  match c with
  | '"' => ['\\', '"']
  | '\\' => ['\\', '\\']
  | '\x08' => ['\\', 'b']
  | '\x0c' => ['\\', 'f']
  | '\n' => ['\\', 'n']
  | '\r' => ['\\', 'r']
  | '\t' => ['\\', 't']
  | c => if c.toNat < 0x20 then
      ['\\', 'u', '0', '0', Hex.digit (c.toNat / 16), Hex.digit (c.toNat % 16)] else [c]

/-- A string in quotes. -/
def quoted (s : String) : List Char := '"' :: s.toList.flatMap escapeChar ++ ['"']

/-- A number in its digits. -/
def Number.toChars (n : Number) : List Char :=
  let sign := if n.negative then ['-'] else []
  let places := if n.fraction.isEmpty then [] else '.' :: n.fraction
  let exponent := match n.exponent with
    | none => []
    | some e => ['e', if e < 0 then '-' else '+'] ++ Digits.ofNat e.natAbs
  sign ++ n.whole ++ places ++ exponent

mutual

/-- A value as text. -/
def toChars : Json → List Char
  | .null => ['n', 'u', 'l', 'l']
  | .bool true => ['t', 'r', 'u', 'e']
  | .bool false => ['f', 'a', 'l', 's', 'e']
  | .number n => n.toChars
  | .string s => quoted (s.getD "")
  | .array items => '[' :: itemChars items ++ [']']
  | .object fields => '\x7b' :: fieldChars fields ++ ['\x7d']

/-- The items of an array with commas between them. -/
def itemChars : List Json → List Char
  | [] => []
  | [v] => toChars v
  | v :: w :: rest => toChars v ++ ',' :: itemChars (w :: rest)

/-- The fields of an object with commas between them. -/
def fieldChars : List (Option String × Json) → List Char
  | [] => []
  | [(k, v)] => quoted (k.getD "") ++ ':' :: toChars v
  | (k, v) :: f :: rest => quoted (k.getD "") ++ ':' :: toChars v ++ ',' :: fieldChars (f :: rest)

end

/-- A value as text. -/
def toText (v : Json) : String := String.ofList v.toChars

example : (record [("a", .array [nat 1, .null]), ("b\n", text "\x01\"")]).toText =
    "\x7b\"a\":[1,null],\"b\\n\":\"\\u0001\\\"\"\x7d" := by decide +kernel

end Loyalty.Json
