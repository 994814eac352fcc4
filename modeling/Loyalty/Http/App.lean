import Loyalty.Document.Request
import Loyalty.Document.Response
import Loyalty.Http.Bearer
import Loyalty.Http.Body
import Loyalty.Http.Media
import Loyalty.Http.Negotiation
import Loyalty.Http.Resource
import Loyalty.Service.Account
import Loyalty.Service.Ledger
import Loyalty.Service.Orders

/-!
# Loyalty.Http.App

Requests answered.

A request passes three gates: the coding of its body must be known, a path that
is not public needs a token that holds — a path that is nothing, too — and the
method must be one of the resource.  Behind them a use case is run for the user
whom the token names, and what it ends in is answered.
-/

namespace Loyalty.Http

/-- The answering of a request. -/
abbrev Serving := Program Need.Answer Response

/-- How passwords are kept and tokens are made. -/
structure Schemes where
  passwords : PasswordScheme
  tokens : TokenScheme

namespace App

/-! ## handlers -/

/-- The end of a use case as an answer. -/
def answer {α : Type} (p : UseCase α) (respond : α → Response) : Serving :=
  p.bind fun r =>
  match r with
  | .ok a => .done (respond a)
  | .error e => .done (serviceFailure e)

/-- The document of a request, or the answer to one that has none. -/
def document {α : Type} (r : Request) (body : Body) (decode : Json → Option α) (expected : String)
    (next : α → Serving) : Serving :=
  match if Media.isJsonRequest r then body.json?.bind decode else none with
  | some a => next a
  | none => .done (badRequest ("expected " ++ expected))

/-- A list, and a status of its own when it is empty. -/
def listResponse {α : Type} (write : α → Json) (items : List α) : Response :=
  if items.isEmpty then .ofStatus 204 else .ofJson 200 (.array (items.map write))

/-- The answer to a submission. -/
def submissionResponse : Submission → Response
  | .accepted _ => .ofStatus 202
  | .already _ => .ofStatus 200

/-- What a protected resource does for a user. -/
def serveUser (r : Request) (body : Body) (userId : UserId) : Resource → Method → Serving
  | .orders, .post =>
    match body.text with
    | .ok raw => answer (Orders.submit userId raw) submissionResponse
    | .error response => .done response
  | .orders, .get => answer (Orders.list userId) (listResponse Order.response)
  | .balance, _ => answer (Ledger.balance userId) fun b => .ofJson 200 b.response
  | .withdraw, _ =>
    document r body WithdrawRequest.ofJson? "\x7b\"order\", \"sum\"\x7d" fun w =>
    answer (Ledger.withdraw userId w.order w.sum) fun _ => .ofStatus 200
  | .withdrawals, _ => answer (Ledger.withdrawals userId) (listResponse Withdrawal.response)
  | .ping, _ | .register, _ | .login, _ => .done (.ofStatus 404)

/-- What a public resource does. -/
def servePublic (schemes : Schemes) (r : Request) (body : Body) : Resource → Serving
  | .register =>
    document r body Credentials.ofJson? "\x7b\"login\", \"password\"\x7d" fun c =>
    answer (Account.register schemes.passwords schemes.tokens c.login c.password) tokenResponse
  | .login =>
    document r body Credentials.ofJson? "\x7b\"login\", \"password\"\x7d" fun c =>
    answer (Account.login schemes.passwords schemes.tokens c.login c.password) tokenResponse
  | _ => .done (.ofStatus 200)

/-! ## gates -/

/-- Something done for the user of the token that a request has. -/
def authenticated (tokens : TokenScheme) (r : Request) (next : UserId → Serving) : Serving :=
  match token? r.headers with
  | none => .done (.ofStatus 401)
  | some token => .ask .now fun now =>
    match tokens.validate token now with
    | .ok claims => next claims.sub
    | .error _ => .done (.ofStatus 401)

/-- What a request is about: a resource and a method that it has, a resource without such a method,
or nothing. -/
inductive Target
  | endpoint (resource : Resource) (method : Method)
  | wrongMethod (resource : Resource)
  | nothing
  deriving DecidableEq

/-- The target of a request. -/
def target (r : Request) : Target :=
  match Resource.ofPath? (pathOf r.path) with
  | none => .nothing
  | some resource =>
    match Method.ofName? r.method with
    | some method => if resource.methods.contains method then .endpoint resource method
        else .wrongMethod resource
    | none => .wrongMethod resource

/-- What is done behind the gate of the body's coding. -/
def dispatch (schemes : Schemes) (r : Request) (body : Body) : Target → Serving
  | .endpoint resource method =>
    if resource.isProtected then authenticated schemes.tokens r fun userId =>
      serveUser r body userId resource method
    else servePublic schemes r body resource
  | .wrongMethod resource =>
    if resource.isProtected then authenticated schemes.tokens r fun _ => .done (.ofStatus 405)
    else .done (.ofStatus 405)
  | .nothing => authenticated schemes.tokens r fun _ => .done (.ofStatus 404)

/-- The answer to a coding that is not known. -/
def unknownCoding : Response :=
  { Response.ofStatus 415 with headers := [("accept-encoding", "gzip")] }

/-- What every response to a request of its kind has: the methods of the resource where the method
is none of them, and no body where only the head was asked for. -/
def finish (r : Request) (t : Target) (response : Response) : Response :=
  match t with
  | .wrongMethod resource =>
    { response with headers := response.headers ++ [("allow", allowed resource.methods)] }
  | .endpoint _ _ => if r.method = "HEAD" then { response with body := [] } else response
  | .nothing => response

/-- A request answered. -/
def serve (schemes : Schemes) (r : Request) : Serving :=
  let t := target r
  match Body.ofRequest? r with
  | none => .done (finish r t unknownCoding)
  | some body =>
    (dispatch schemes r body t).bind fun response =>
      .done (finish r t (Negotiation.compress r.headers response))

end App

end Loyalty.Http
