/-!
# Loyalty.Json.Basic

JSON values as documents write them.

Two things are kept that a document model often drops.  A number stays the
digits it was written with, because what it means — an exact integer, a binary
number, an amount — is for its reader to say.  And a string may be `none`: a
lone surrogate escape or bytes that are not UTF-8 make no text, which matters
only to who wants the text; such a string can still be skipped over.  Objects
keep their fields in order, repeated ones too.
-/

namespace Loyalty

/-- A number in the digits of a document. -/
structure Json.Number where
  negative : Bool
  /-- The digits before the point, at least one. -/
  whole : List Char
  /-- The digits behind the point, if any. -/
  fraction : List Char
  exponent : Option Int
  deriving DecidableEq, Inhabited

/-- A JSON value. -/
inductive Json
  | null
  | bool (value : Bool)
  | number (value : Json.Number)
  | string (text : Option String)
  | array (items : List Json)
  | object (fields : List (Option String × Json))
  deriving Inhabited

namespace Json

/-- A string value. -/
def text (s : String) : Json := .string (some s)

/-- An object of named fields. -/
def record (fields : List (String × Json)) : Json := .object (fields.map fun (k, v) => (some k, v))

/-- A whole number without places or exponent. -/
def nat (n : Nat) : Json := .number ⟨false, Nat.toDigits 10 n, [], none⟩

/-- The text of a string value that is one. -/
def asText? : Json → Option String
  | .string s => s
  | _ => none

/-- Whether a value is `null`. -/
def isNull : Json → Bool
  | .null => true
  | _ => false

end Json

end Loyalty
