import Loyalty.Json.Record
import Loyalty.Json.Strict

/-!
# Loyalty.Token.Key

The public keys that token headers may carry (JWK).

A key is an object of parameters that all keys may have and of those that its
family needs.  The key is not used, but a header with something else in its
place is refused.  Every value in it is read strictly, known or not.
-/

namespace Loyalty.Token

open Json

/-- A list of texts. -/
def texts? : Json → Option (List String)
  | .array items => items.mapM asText?
  | _ => none

/-- The algorithms that a token may be signed with. -/
def algorithms : List String :=
  ["HS256", "HS384", "HS512", "ES256", "ES384", "RS256", "RS384", "RS512", "PS256", "PS384",
    "PS512", "EdDSA"]

/-- The algorithms that a key may be meant for. -/
def keyAlgorithms : List String := algorithms ++ ["RSA1_5", "RSA-OAEP", "RSA-OAEP-256"]

/-- The curves that a key may be on. -/
def curves : List String := ["P-256", "P-384", "P-521", "Ed25519"]

/-- The name of a key's algorithm: an object may map it to an empty object, too. -/
def keyAlgorithm? : Json → Option String
  | .object [(some name, .object [])] => some name
  | v => variant? v

/-- A family of keys: the name of its type, and the parameters that are texts. -/
structure KeyFamily where
  name : String
  hasCurve : Bool
  texts : List String

/-- The families of keys: elliptic curves, RSA, symmetric keys, and pairs of octets. -/
def keyFamilies : List KeyFamily :=
  [⟨"EC", true, ["x", "y"]⟩, ⟨"RSA", false, ["n", "e"]⟩, ⟨"oct", false, ["k"]⟩,
    ⟨"OKP", true, ["x"]⟩]

/-- Whether fields hold the parameters of a family, each of them once. -/
def KeyFamily.describes (family : KeyFamily) (fields : List (Option String × Json)) : Bool :=
  let curveNames := if family.hasCurve then ["crv"] else []
  let curveFits := (field? fields "crv").any fun v => (variant? v).any curves.contains
  namesFit ("kty" :: curveNames ++ family.texts) fields &&
    (field? fields "kty").any (fun v => variant? v = some family.name) &&
    (!family.hasCurve || curveFits) &&
    family.texts.all fun name => (field? fields name).any (·.asText?.isSome)

/-- The parameters that all keys may have, well formed where they are given. -/
def common? (v : Json) : Option Unit := do
  match ← fields? ["use", "key_ops", "alg", "kid", "x5u", "x5c", "x5t", "x5t#S256"] v with
  | [usage, operations, alg, kid, x5u, x5c, x5t, x5tS256] =>
    let _ ← [usage, kid, x5u, x5t, x5tS256].mapM (optional? asText?)
    let _ ← [operations, x5c].mapM (optional? texts?)
    let _ ← optional? (fun v => (keyAlgorithm? v).filter keyAlgorithms.contains) alg
  | _ => none

/-- Whether a value is a key, inside an object that is nested no further. -/
def isKey : Json → Bool
  | .object fields =>
    isStrict (maxDepth - 1) (.object fields) && (common? (.object fields)).isSome &&
      keyFamilies.any (·.describes fields)
  | _ => false

end Loyalty.Token
