import Loyalty.Http.Message
import Loyalty.Http.Status
import Loyalty.Text.Blank
import Loyalty.Text.Digits

/-!
# Loyalty.Http.Wire

Requests and responses as they travel.

A message is a head and a body.  A head is lines up to an empty one, the first
of which says what is asked for or how it went, and every other is a header.
How long a body is, the head says; bodies of unknown length are not taken.
-/

namespace Loyalty.Http.Wire

open Text

/-! ## reading -/

/-- Bytes as characters up to U+00FF. -/
def characters (bytes : List UInt8) : List Char := bytes.map fun b => Char.ofNat b.toNat

/-- The lines of a head, without the carriage returns at their ends. -/
def lines (bytes : List UInt8) : List (List Char) :=
  ((characters bytes).splitOn '\n').map fun line =>
    if line.getLast? = some '\r' then line.dropLast else line

/-- A header: a name, a colon, and a value without the blanks around it. -/
def header? (line : List Char) : Option (String × String) :=
  match line.dropWhile (· ≠ ':') with
  | [] => none
  | _ :: value =>
      some (String.ofList (line.takeWhile (· ≠ ':')), String.ofList (trimEnd (trimStart value)))

/-- The request of a head, without its body. -/
def request? (head : List UInt8) : Option Request :=
  match lines head with
  | [] => none
  | first :: rest =>
    match first.splitOn ' ' with
    | [method, path, _] => do
      let headers ← (rest.filter (!·.isEmpty)).mapM header?
      return { method := String.ofList method, path := String.ofList path, headers, body := [] }
    | _ => none

/-- The length of the body of a request; there is none when the head does not tell. -/
def bodyLength? (r : Request) : Option Nat :=
  if (r.headers.first? "transfer-encoding").isSome then none
  else
    match r.headers.first? "content-length" with
    | none => some 0
    | some length => Digits.nat? length.toList

/-! ## writing -/

/-- The end of a line. -/
def lineEnd : String := "\r\n"

/-- The head of a response. -/
def head (r : Response) : String :=
  let headers := r.headers ++ [("content-length", toString r.body.length)]
  s!"HTTP/1.1 {Status.text r.status}" ++ lineEnd ++
    String.join (headers.map fun (name, value) => name ++ ": " ++ value ++ lineEnd) ++ lineEnd

/-- A response as it travels. -/
def bytes (r : Response) : List UInt8 :=
  (head r).toList.map (fun c => UInt8.ofNat c.toNat) ++ r.body

example : head (.ofStatus 202) = "HTTP/1.1 202 Accepted\r\ncontent-length: 0\r\n\r\n" := by
  decide +kernel
example : (request? "GET /ping HTTP/1.1\r\nHost: a\r\n\r\n".toUTF8.toList).map
    (fun r => (r.path, r.headers)) =
    some ("/ping", [("Host", "a")]) := by decide +kernel

end Loyalty.Http.Wire
