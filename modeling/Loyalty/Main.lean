import Loyalty.Config
import Loyalty.Http.App
import Loyalty.Http.Wire
import Loyalty.Service.Schemes
import Loyalty.Store.Memory
import Std.Time.DateTime.Timestamp

/-!
# Loyalty.Main

The program: requests from the standard input are answered on the standard
output, one after the other, from stores in memory.

A process outside listens on the address and hands connections over.
-/

namespace Loyalty

/-! ## surroundings -/

/-- The present instant. -/
def presentInstant : IO Instant := do
  let now ← Std.Time.Timestamp.now
  return Instant.ofNanos 0 now.toNanosecondsSinceUnixEpoch.val

/-- Random bytes. -/
def randomBytes (count : Nat) : IO (List UInt8) := do
  return (← IO.getRandomBytes count.toUSize).toList

/-- What a new thing gets. -/
def freshStamp : IO Store.Memory.Stamp := do
  let now ← presentInstant
  let random := (← randomBytes 16).foldl (fun n b => n * 256 + b.toNat) 0
  return { id := .timed (now.seconds.toNat * 1000 + now.nanos / 1000000) random, now }

/-- What a use case asks, answered from stores in memory. -/
def answerNeed (stores : IO.Ref Store.Memory.State) : (q : Need) → IO q.Answer
  | .store call => do
    let stamp ← freshStamp
    stores.modifyGet fun state => Store.Memory.step stamp state call
  | .now => presentInstant
  | .salt => randomBytes 16

/-! ## connections -/

/-- The bytes up to the end of a head, last one first; none at the end of the input. -/
partial def readHead (input : IO.FS.Stream) (seen : List UInt8) : IO (Option (List UInt8)) := do
  let next ← input.read 1
  match next.toList, seen with
  | [], _ => return none
  | 10 :: _, 13 :: 10 :: _ | 10 :: _, 10 :: _ => return some seen
  | b :: _, _ => readHead input (b :: seen)

/-- A number of bytes, or as many as there are. -/
partial def readBody (input : IO.FS.Stream) (count : Nat) (seen : ByteArray) : IO (List UInt8) := do
  if count ≤ seen.size then return seen.toList
  let next ← input.read (count - seen.size).toUSize
  if next.isEmpty then return seen.toList
  readBody input count (seen ++ next)

/-- Requests answered until there are no more, or until one cannot be read. -/
partial def serveAll (schemes : Http.Schemes) (stores : IO.Ref Store.Memory.State)
    (input output : IO.FS.Stream) : IO Unit := do
  let send (r : Http.Response) : IO Unit := do
    output.write ⟨(Http.Wire.bytes r).toArray⟩
    output.flush
  match ← readHead input [] with
  | none => return
  | some seen =>
    match Http.Wire.request? seen.reverse with
    | none => send (.ofStatus 400)
    | some request =>
      match Http.Wire.bodyLength? request with
      | none => send (.ofStatus 411)
      | some length =>
        let body ← readBody input length .empty
        send (← (Http.App.serve schemes { request with body }).runM (answerNeed stores))
        serveAll schemes stores input output

/-! ## the command line -/

/-- The settings that the environment holds. -/
def environment : IO (List (String × String)) :=
  Setting.all.filterMapM fun s => do
    return (← IO.getEnv s.variableName).map fun value => (s.variableName, value)

end Loyalty

open Loyalty in
/-- The program. -/
def main (args : List String) : IO UInt32 := do
  match Config.parse args (← environment) with
  | .error e =>
    if e.isRequest then
      IO.println e.message
      return 0
    else
      IO.eprintln s!"error: {e.message}"
      return 2
  | .ok config =>
    if config.usesDevSecret then IO.eprintln "JWT_SECRET not set; using insecure dev default"
    if config.database?.isSome then
      IO.eprintln "failed to connect to the database"
      return 1
    let schemes : Http.Schemes :=
      { passwords := .argon2, tokens := .signed config.jwtSecret.toUTF8.toList }
    let stores ← IO.mkRef Store.Memory.State.empty
    serveAll schemes stores (← IO.getStdin) (← IO.getStdout)
    return 0
