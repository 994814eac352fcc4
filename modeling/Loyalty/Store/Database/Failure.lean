import Loyalty.Error

/-!
# Loyalty.Store.Database.Failure

What can go wrong between the stores and a database server, and what it means
for a call of the stores.

A failure on the way — no connection, one that breaks, an answer that is no
answer, or a server that says so by its code — is a failure to reach the store,
which is worth another attempt.  A violated uniqueness is a duplicate.
-/

namespace Loyalty.Database

/-- A failure of a statement. -/
inductive Failure
  /-- The server refused it, with a code of five characters. -/
  | server (code message : String)
  | io (reason : String)
  /-- No connection became free in time. -/
  | poolTimedOut
  | poolClosed
  | protocol (reason : String)
  | tls (reason : String)
  /-- No row where there must be one. -/
  | rowNotFound
  /-- A row that cannot be read, or an address that is none. -/
  | other (reason : String)
  deriving DecidableEq

namespace Failure

/-- The code of a violated uniqueness. -/
def uniqueViolation : String := "23505"

/-- The codes of failures to reach the server. -/
def connectionCodes : List String := ["08000", "08003", "08006", "08001", "08004", "08007", "08P01"]

/-- What a failure means for the operation in which it happened. -/
def toStore (operation : String) : Failure → StoreError
  | server code message =>
    let text := s!"database error in {operation}: {message}"
    if code = uniqueViolation then .duplicate
    else if connectionCodes.contains code then .connection text
    else .database text
  | io reason => .connection s!"i/o error in {operation}: {reason}"
  | poolTimedOut => .connection s!"pool timed out in {operation}"
  | protocol reason => .connection s!"protocol error in {operation}: {reason}"
  | tls reason => .connection s!"tls error in {operation}: {reason}"
  | poolClosed => .database s!"connection pool closed in {operation}"
  | rowNotFound => .notFound
  | other reason => .database s!"sqlx error in {operation}: {reason}"

end Failure

/-- A row that was read and does not hold what it should. -/
def rowError (table : String) (e : DomainError) : StoreError :=
  .database s!"failed to decode row in {table}: {e.message}"

end Loyalty.Database
