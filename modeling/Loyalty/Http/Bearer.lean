import Loyalty.Http.Failure
import Loyalty.Text.Blank
import Loyalty.Token.Signed

/-!
# Loyalty.Http.Bearer

Tokens in requests and responses.

A token comes in the header `authorization` behind the word `Bearer`, or in a
cookie.  The header counts if there is a token in it, whether it holds or not;
of cookies the first one of the name that has a value.  A token is given out
both ways.
-/

namespace Loyalty.Http

open Text

/-- The name of the cookie that holds a token. -/
def tokenCookie : String := "auth_token"

/-- What follows a prefix. -/
def stripPrefix? : List Char → List Char → Option (List Char)
  | [], cs => some cs
  | _ :: _, [] => none
  | p :: ps, c :: cs => if p = c then stripPrefix? ps cs else none

/-- The token in the value of a header. -/
def bearerToken? (value : String) : Option String := do
  let token := trim (String.ofList (← stripPrefix? "Bearer ".toList value.toList))
  if token = "" then none else some token

/-- A name and a value with the first `=` between them. -/
def pair? (cs : List Char) : Option (String × String) :=
  match cs.dropWhile (· ≠ '=') with
  | [] => none
  | _ :: value => some (String.ofList (cs.takeWhile (· ≠ '=')), String.ofList value)

/-- The pairs in the value of a header of cookies. -/
def cookies (value : String) : List (String × String) :=
  (value.toList.splitOn ';').filterMap fun part => pair? (trimEnd (trimStart part))

/-- The first token among the cookies of a request. -/
def cookieToken? (headers : Headers) : Option String :=
  ((((headers.all "cookie").filterMap headerText?).flatMap cookies).find? fun (name, value) =>
    name = tokenCookie && value ≠ "").map (·.2)

/-- The token of a request. -/
def token? (headers : Headers) : Option String :=
  match ((headers.first? "authorization").bind headerText?).bind bearerToken? with
  | some token => some token
  | none => cookieToken? headers

/-- A byte that may stand in the value of a header. -/
def isHeaderByte (b : UInt8) : Bool := b = 9 || (32 ≤ b && b ≠ 127)

/-- A text as the value of a header, when it can be one. -/
def headerValue? (s : String) : Option String :=
  let bytes := Utf8.encode s
  if bytes.all isHeaderByte then some (String.ofList (bytes.map fun b => Char.ofNat b.toNat))
  else none

/-- The answer that gives a token out. -/
def tokenResponse (token : String) : Response :=
  match headerValue? ("Bearer " ++ token),
    headerValue? s!"{tokenCookie}={token}; Path=/; HttpOnly; Max-Age={Token.lifetimeSeconds}" with
  | some bearer, some cookie =>
    { Response.ofStatus 200 with headers := [("authorization", bearer), ("set-cookie", cookie)] }
  | _, _ => hiddenFailure "token_error"

end Loyalty.Http
