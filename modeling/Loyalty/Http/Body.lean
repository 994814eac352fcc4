import Loyalty.Compress.Gzip
import Loyalty.Http.Message
import Loyalty.Json.Reader

/-!
# Loyalty.Http.Body

The bodies of requests.

A body may come compressed, which its headers say; of several such headers the
first counts, and a coding that is not known is refused before anything else.
A body is unpacked only by who reads it, and no more of it is read than a
handler can be made to hold.
-/

namespace Loyalty.Http

open Compress Text

/-- A body as it comes. -/
inductive Body
  | plain (bytes : List UInt8)
  | gzip (bytes : List UInt8)

namespace Body

/-- The number of bytes that are read at most. -/
def limit : Nat := 2097152

/-- The body of a request, when its coding is known. -/
def ofRequest? (r : Request) : Option Body :=
  match r.headers.first? "content-encoding" with
  | none => some (.plain r.body)
  | some coding =>
    if coding = "gzip" then some (.gzip r.body)
    else if coding = "identity" then some (.plain r.body)
    else none

/-- The bytes of a body. -/
def read : Body → Except Fault (List UInt8)
  | .plain bytes => if limit < bytes.length then .error .tooLong else .ok bytes
  | .gzip bytes => (Gzip.decode limit ⟨bytes.toArray⟩).map fun out => out.data.toList

/-- The text that a body is, or the answer to one that is none. -/
def text (b : Body) : Except Response String :=
  match b.read with
  | .error .tooLong =>
      .error (.ofText 413 "Failed to buffer the request body: length limit exceeded")
  | .error .broken =>
      .error (.ofText 400 "Failed to buffer the request body: malformed compressed data")
  | .ok bytes =>
    match Utf8.decode? bytes with
    | some s => .ok s
    | none => .error (.ofText 400 "Request body didn't contain valid UTF-8: invalid byte sequence")

/-- The value that a body starts with; what follows it does not matter. -/
def json? (b : Body) : Option Json :=
  match b.read with
  | .error _ => none
  | .ok bytes => (Json.readPrefix? (Utf8.symbols bytes)).map (·.1)

end Body

end Loyalty.Http
