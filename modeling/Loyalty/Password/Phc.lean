import Loyalty.Text.Base64
import Loyalty.Text.Digits

/-!
# Loyalty.Password.Phc

Stored passwords as text: `$algorithm[$v=version][$name=value,…][$salt[$hash]]`.

The grammar says what is well formed and nothing more: whether an algorithm, a
version or a parameter exists is for who verifies the password to say.
-/

namespace Loyalty.Password

open Text

/-- A stored password in its fields. -/
structure Phc where
  algorithm : List Char
  version : Option Nat
  params : List (List Char × List Char)
  salt : Option (List Char)
  hash : Option (List UInt8)
  deriving DecidableEq

namespace Phc

/-! ## parts of fields -/

/-- A name: 1 to 32 lower-case letters, digits and hyphens. -/
def isName (cs : List Char) : Bool :=
  0 < cs.length && cs.length ≤ 32 && cs.all fun c => ('a' ≤ c && c ≤ 'z') || c.isDigit || c = '-'

/-- A value: up to 64 letters, digits and `/ + . -`. -/
def isValue (cs : List Char) : Bool :=
  cs.length ≤ 64 && cs.all fun c =>
    ('a' ≤ c && c ≤ 'z') || ('A' ≤ c && c ≤ 'Z') || c.isDigit ||
      c = '/' || c = '+' || c = '.' || c = '-'

/-- The number of 32 bits that a value writes without leading zeros. -/
def decimal? (cs : List Char) : Option Nat :=
  if cs.head? = some '0' ∧ 1 < cs.length then none else (Digits.nat? cs).filter (· < 0x100000000)

/-- A parameter: a name and a value. -/
def param? (cs : List Char) : Option (List Char × List Char) :=
  match cs.splitOn '=' with
  | [name, value] => if isName name && isValue value then some (name, value) else none
  | _ => none

/-- A field of parameters, of at most 127 characters. -/
def params? (cs : List Char) : Option (List (List Char × List Char)) :=
  if cs.length ≤ 127 then (cs.splitOn ',').mapM param? else none

/-- A salt: a value of 4 characters at least. -/
def salt? (cs : List Char) : Option (List Char) :=
  if 4 ≤ cs.length && isValue cs then some cs else none

/-- A hash: 10 to 64 bytes. -/
def hash? (cs : List Char) : Option (List UInt8) :=
  (Base64.decode? Base64.standard cs).filter fun bytes => 10 ≤ bytes.length && bytes.length ≤ 64

/-! ## the whole -/

/-- The version that fields start with, and the fields behind it. -/
def takeVersion? : List (List Char) → Option (Option Nat × List (List Char))
  | [] => some (none, [])
  | field :: rest =>
    match field with
    | 'v' :: '=' :: value =>
      if field.contains ',' then some (none, field :: rest)
      else if isValue value then (decimal? value).map fun n => (some n, rest)
      else none
    | _ => some (none, field :: rest)

/-- The parameters that fields start with, and the fields behind them. -/
def takeParams? : List (List Char) → Option (List (List Char × List Char) × List (List Char))
  | [] => some ([], [])
  | field :: rest =>
    if field.contains '=' then (params? field).map fun ps =>
      (ps, rest) else some ([], field :: rest)

/-- The stored password a text is. -/
def parse? (s : String) : Option Phc := do
  match s.toList.splitOn '$' with
  | [] :: algorithm :: fields =>
    if isName algorithm then
      let (version, fields) ← takeVersion? fields
      let (params, fields) ← takeParams? fields
      match fields with
      | [] => return { algorithm, version, params, salt := none, hash := none }
      | [salt] => return { algorithm, version, params, salt := some (← salt? salt), hash := none }
      | [salt, hash] =>
        return {
          algorithm, version, params, salt := some (← salt? salt), hash := some (← hash? hash) }
      | _ => none
    else none
  | _ => none

end Phc

end Loyalty.Password
