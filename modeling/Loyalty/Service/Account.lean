import Loyalty.Service.UseCase
import Loyalty.Text.Blank

/-!
# Loyalty.Service.Account

Registering and logging in.

Both end with a token.  A login is taken as it is written, blanks included; it
only must not be blank.  Whether it was the login or the password that was wrong
is not said.
-/

namespace Loyalty.Account

open UseCase

/-- A login that is not blank, and a password. -/
def ensureCredentials (login password : String) : Except DomainError Unit :=
  if Text.isBlankText login || password.isEmpty then
    .error (.validation "login and password are required")
  else .ok ()

/-- A token for a user. -/
def issueToken (tokens : TokenScheme) (userId : UserId) : UseCase String :=
  .ask .now fun now => .done ((tokens.issue userId now).mapError .token)

/-- A user under a new login, with a balance and a token. -/
def register (passwords : PasswordScheme) (tokens : TokenScheme) (login password : String) :
    UseCase String :=
  require (ensureCredentials login password) fun _ =>
  .ask .salt fun salt =>
  match passwords.hash password salt with
  | .error e => .done (.error (.password e))
  | .ok hash =>
    .ask (.store (.createUser login hash)) fun r =>
    match r with
    | .ok user => call (.openBalance user.id) fun _ => issueToken tokens user.id
    | .error .duplicate => refuse (.conflict "login already taken")
    | .error e => .done (.error (.ofStore e))

/-- A token for the user whom a login and its password show. -/
def login (passwords : PasswordScheme) (tokens : TokenScheme) (login password : String) :
    UseCase String :=
  require (ensureCredentials login password) fun _ =>
  call (.findByLogin login) fun user? =>
  match user? with
  | none => refuse .unauthorized
  | some user =>
    match passwords.verify password user.passwordHash with
    | .error e => .done (.error (.password e))
    | .ok true => issueToken tokens user.id
    | .ok false => refuse .unauthorized

end Loyalty.Account
