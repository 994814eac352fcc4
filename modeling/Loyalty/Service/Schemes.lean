import Loyalty.Password.Basic
import Loyalty.Service.UseCase
import Loyalty.Token.Signed

/-!
# Loyalty.Service.Schemes

The schemes in use: Argon2 for passwords, and tokens signed with a secret.
-/

namespace Loyalty

/-- Passwords kept as Argon2 hashes. -/
def PasswordScheme.argon2 : PasswordScheme where
  hash password salt := .ok (Password.hash password salt)
  verify := Password.verify

/-- Tokens signed with a secret. -/
def TokenScheme.signed (secret : List UInt8) : TokenScheme where
  issue user now := .ok (Token.issue secret Token.lifetime user now)
  validate := Token.validate secret

end Loyalty
