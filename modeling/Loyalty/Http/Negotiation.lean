import Loyalty.Compress.Gzip
import Loyalty.Http.Message
import Loyalty.Text.Blank

/-!
# Loyalty.Http.Negotiation

Whether a response is compressed.

The client lists the codings it takes, each with a weight in thousandths.  A
response is compressed when the client takes that, at least as gladly as having
it plain; a very small body never is.
-/

namespace Loyalty.Http.Negotiation

open Text

/-- The thousandths that up to three digits behind a point make. -/
def thousandths? : Nat → List Char → Option Nat
  | _, [] => some 0
  | unit, c :: cs => do
    if c.isDigit && 0 < unit then
      return unit * (c.toNat - '0'.toNat) + (← thousandths? (unit / 10) cs)
    else none

/-- A weight in thousandths, from none to a thousand. -/
def weight? (cs : List Char) : Option Nat := do
  match cs with
  | q :: '=' :: digit :: rest =>
    if q ≠ 'q' ∧ q ≠ 'Q' then none
    else
      let whole ← if digit = '0' then some 0 else if digit = '1' then some 1000 else none
      let part ← match rest with
        | [] => some 0
        | '.' :: places => thousandths? 100 places
        | _ => none
      if whole + part ≤ 1000 then return whole + part else none
  | _ => none

/-- A coding that matters. -/
inductive Coding
  | gzip
  | identity
  deriving DecidableEq

/-- The coding of a name, in either case. -/
def Coding.ofName? (name : String) : Option Coding :=
  let name := name.toLower
  if name = "gzip" ∨ name = "x-gzip" then some .gzip
  else if name = "identity" then some .identity
  else none

/-- The coding of an entry of a list, and its weight. -/
def entry? (cs : List Char) : Option (Coding × Nat) := do
  let name := cs.takeWhile (· ≠ ';')
  let coding ← Coding.ofName? (trim (String.ofList name))
  let weight ← match cs.drop name.length with
    | [] => some 1000
    | _ :: rest => weight? (trimEnd (trimStart rest))
  return (coding, weight)

/-- What a client takes. -/
def accepted (headers : Headers) : List (Coding × Nat) :=
  ((headers.all "accept-encoding").filterMap headerText?).flatMap fun value =>
    (value.toList.splitOn ',').filterMap entry?

/-- The largest weight of a coding among entries. -/
def weightOf (coding : Coding) (entries : List (Coding × Nat)) : Nat :=
  ((entries.filter (·.1 = coding)).map (·.2)).foldl max 0

/-- Whether a client would rather have a response compressed. -/
def prefersGzip (headers : Headers) : Bool :=
  let entries := accepted headers
  0 < weightOf .gzip entries && weightOf .identity entries ≤ weightOf .gzip entries

/-- The length from which on a body is worth compressing. -/
def minLength : Nat := 32

/-- A response as the client would rather have it. -/
def compress (headers : Headers) (r : Response) : Response :=
  if r.body.length < minLength then r
  else
    let r := { r with headers := r.headers ++ [("vary", "accept-encoding")] }
    if prefersGzip headers then
      { r with
        headers := r.headers ++ [("content-encoding", "gzip")]
        body := (Compress.Gzip.encode ⟨r.body.toArray⟩).data.toList }
    else r

end Loyalty.Http.Negotiation
