import Loyalty.Instant.Basic
import Loyalty.Uuid

/-!
# Loyalty.User

Registered users.
-/

namespace Loyalty

/-- A registered user and the stored form of the password. -/
structure User where
  id : UserId
  login : String
  passwordHash : String
  createdAt : Instant
  deriving DecidableEq

end Loyalty
