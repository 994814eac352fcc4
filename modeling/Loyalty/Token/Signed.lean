import Loyalty.Crypto.Sha256
import Loyalty.Document.Model
import Loyalty.Error
import Loyalty.Text.Base64
import Loyalty.Text.Utf8
import Loyalty.Token.Registered

/-!
# Loyalty.Token.Signed

Bearer tokens: claims signed with a shared secret (JWT with HS256).

A token is three texts in base 64 with points between them: a header that names
the algorithm, the claims, and the keyed hash of the two texts before it.
`issue` writes tokens; `verify` reads any that this secret signed, whatever
else their header and claims hold, as long as they name this algorithm and are
meant for no particular audience.  Signatures are compared as texts, so a token
has one spelling of its signature.
-/

namespace Loyalty.Token

open Json Text

/-- How long issued tokens hold. -/
def lifetime : TimeSpan := .ofHours 24

/-- How long issued tokens hold, in seconds. -/
def lifetimeSeconds : Nat := 86400

/-! ## writing -/

/-- Bytes as a part of a token. -/
def part (bytes : List UInt8) : List Char := Base64.encode Base64.urlSafe bytes

/-- The header of issued tokens. -/
def header : String := (Json.record [("typ", .text "JWT"), ("alg", .text "HS256")]).toText

/-- The signature of the text before it, as a part. -/
def signature (secret : List UInt8) (message : List Char) : List Char :=
  part (Crypto.Sha256.hmac secret (Utf8.encode (String.ofList message)))

/-- Claims as a token. -/
def sign (secret : List UInt8) (claims : Claims) : String :=
  let message := part (Utf8.encode header) ++ '.' :: part (Utf8.encode claims.toJson.toText)
  String.ofList (message ++ '.' :: signature secret message)

/-- A token of a user that holds from now on. -/
def issue (secret : List UInt8) (lifetime : TimeSpan) (user : UserId) (now : Instant) : String :=
  sign secret (Claims.issue user now lifetime)

/-! ## reading -/

/-- Why a text is no token of this secret. -/
inductive Fault
  /-- Fewer than two points. -/
  | parts
  | base64
  | json
  /-- Another algorithm than the one in use. -/
  | algorithm
  | signature
  /-- Claims that are meant for an audience. -/
  | audience
  deriving DecidableEq

/-- The text of a fault. -/
def Fault.message : Fault → String
  | parts => "InvalidToken"
  | base64 => "Base64 error"
  | json => "JSON error"
  | algorithm => "InvalidAlgorithm"
  | signature => "InvalidSignature"
  | audience => "InvalidAudience"

/-- A text cut at its last point. -/
def cutLast? (cs : List Char) : Option (List Char × List Char) :=
  let tail := (cs.reverse.takeWhile (· ≠ '.')).reverse
  if tail.length < cs.length then some (cs.take (cs.length - tail.length - 1), tail) else none

/-- The algorithm that a header names. -/
def headerAlgorithm? (v : Json) : Option String := do
  match ← fields? ["typ", "alg", "cty", "jku", "jwk", "kid", "x5u", "x5c", "x5t", "x5t#S256"] v with
  | [typ, some alg, cty, jku, jwk, kid, x5u, x5c, x5t, x5tS256] =>
    let _ ← [typ, cty, jku, kid, x5u, x5t, x5tS256].mapM (optional? asText?)
    let _ ← optional? (fun v => if isKey v then some () else none) jwk
    let _ ← optional? texts? x5c
    let name ← variant? alg
    if algorithms.contains name then return name else none
  | _ => none

/-- The bytes of a part. -/
def partBytes (cs : List Char) : Except Fault (List UInt8) :=
  match Base64.decode? Base64.urlSafe cs with
  | none => .error .base64
  | some bytes => .ok bytes

/-- The algorithm that the header in a part names. -/
def readHeader (cs : List Char) : Except Fault String := do
  match (readBytes? (← partBytes cs)).bind headerAlgorithm? with
  | none => .error .json
  | some name => .ok name

/-- The claims of the payload in a part. -/
def readPayload (cs : List Char) : Except Fault Claims := do
  let bytes ← partBytes cs
  match (readBytes? bytes).bind Claims.ofJson?, audienceNamed? (Utf8.symbols bytes) with
  | some claims, some named => if named then .error .audience else .ok claims
  | _, _ => .error .json

/-- The claims of a token that the secret signed. -/
def verify (secret : List UInt8) (token : String) : Except Fault Claims := do
  match cutLast? token.toList with
  | none => .error .parts
  | some (message, signed) =>
    match cutLast? message with
    | none => .error .parts
    | some (head, body) =>
      if (← readHeader head) ≠ "HS256" then .error .algorithm
      else if signed ≠ signature secret message then .error .signature
      else readPayload body

/-- The claims of a token that the secret signed and that holds now. -/
def validate (secret : List UInt8) (token : String) (now : Instant) : Except TokenError Claims :=
  match verify secret token with
  | .error fault => .error (.malformed fault.message)
  | .ok claims =>
    match claims.validate now with
    | .error e => .error (.claims e)
    | .ok () => .ok claims

end Loyalty.Token
