import Loyalty.Json.Amount
import Loyalty.Json.Record

/-!
# Loyalty.Document.Request

The documents that clients send.
-/

namespace Loyalty

open Json

/-- A login and its password, to register or to log in. -/
structure Credentials where
  login : String
  password : String
  deriving DecidableEq

/-- The credentials of a document. -/
def Credentials.ofJson? (v : Json) : Option Credentials := do
  match ← fields? ["login", "password"] v with
  | [some login, some password] =>
      return { login := ← login.asText?, password := ← password.asText? }
  | _ => none

/-- An order to pay with points, and how many. -/
structure WithdrawRequest where
  order : String
  sum : Decimal
  deriving DecidableEq

/-- The withdrawal a document asks for. -/
def WithdrawRequest.ofJson? (v : Json) : Option WithdrawRequest := do
  match ← fields? ["order", "sum"] v with
  | [some order, some sum] => return { order := ← order.asText?, sum := ← toDecimal? sum }
  | _ => none

end Loyalty
