import Loyalty.Error
import Loyalty.Program
import Loyalty.Store.Call
import Loyalty.Token.Claims

/-!
# Loyalty.Service.UseCase

Use cases as programs.

A use case asks three things of its surroundings: calls of the stores, the time,
and salt for a password.  How passwords and tokens are made is a parameter of
the use cases that need it, since all that matters there is what a scheme
accepts.
-/

namespace Loyalty

/-! ## schemes -/

/-- How passwords are kept: the stored form of a password and salt, and whether a password fits a
stored form. -/
structure PasswordScheme where
  hash : String → List UInt8 → Except PasswordError String
  verify : String → String → Except PasswordError Bool

/-- How tokens are made: the token of a user that holds from an instant on, and the claims of a
token that holds at an instant. -/
structure TokenScheme where
  issue : UserId → Instant → Except TokenError String
  validate : String → Instant → Except TokenError Claims

/-! ## what use cases ask -/

/-- What a use case asks of its surroundings. -/
inductive Need
  | store (call : StoreCall)
  /-- The time. -/
  | now
  /-- Random bytes for a password. -/
  | salt
  deriving DecidableEq

/-- The answers of each question. -/
@[reducible] def Need.Answer : Need → Type
  | store call => call.Answer
  | now => Instant
  | salt => List UInt8

/-- A use case. -/
abbrev UseCase (α : Type) := Program Need.Answer (Except ServiceError α)

namespace UseCase

variable {α : Type}

/-- The end of a use case that the rules refuse. -/
def refuse (e : DomainError) : UseCase α := .done (.error (.domain e))

/-- What a check comes to, or the end of the use case. -/
def require {β : Type} (check : Except DomainError β) (next : β → UseCase α) : UseCase α :=
  match check with
  | .ok b => next b
  | .error e => refuse e

/-- A call of the stores, whose failure ends the use case. -/
def call (c : StoreCall) (next : c.Value → UseCase α) : UseCase α :=
  .ask (.store c) fun r =>
    match r with
    | .ok v => next v
    | .error e => .done (.error (.ofStore e))

end UseCase

end Loyalty
