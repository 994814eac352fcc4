import Loyalty.Json.Writer
import Loyalty.Text.Utf8

/-!
# Loyalty.Http.Message

Requests and responses of HTTP.

A value of a header is a list of bytes, kept as characters up to U+00FF; only
when all of them are visible ASCII, blanks or tabs is it a text (`text?`).
Names of headers are compared without regard to case.
-/

namespace Loyalty.Http

open Text

/-! ## headers -/

/-- The headers of a message in order. -/
abbrev Headers := List (String × String)

namespace Headers

/-- Every value of a header, in order. -/
def all (headers : Headers) (name : String) : List String :=
  (headers.filter fun h => h.1.toLower = name).map (·.2)

/-- The first value of a header. -/
def first? (headers : Headers) (name : String) : Option String := (headers.all name).head?

end Headers

/-- A byte that may stand in the text of a header. -/
def isVisible (c : Char) : Bool := c = '\t' || (' ' ≤ c && c < '\x7f')

/-- The value of a header, when it is a text. -/
def headerText? (value : String) : Option String :=
  if value.toList.all isVisible then some value else none

/-! ## messages -/

/-- A request. -/
structure Request where
  method : String
  path : String
  headers : Headers
  body : List UInt8

/-- A response. -/
structure Response where
  status : Nat
  headers : Headers
  body : List UInt8
  deriving DecidableEq, Inhabited

namespace Response

/-- A response of a status alone. -/
def ofStatus (status : Nat) : Response := { status, headers := [], body := [] }

/-- A response that holds a document. -/
def ofJson (status : Nat) (v : Json) : Response :=
  { status, headers := [("content-type", "application/json")], body := Utf8.encode v.toText }

/-- A response that holds a text. -/
def ofText (status : Nat) (s : String) : Response :=
  { status, headers := [("content-type", "text/plain; charset=utf-8")], body := Utf8.encode s }

end Response

end Loyalty.Http
