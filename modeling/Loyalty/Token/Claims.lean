import Loyalty.Error
import Loyalty.Instant.Basic
import Loyalty.Uuid

/-!
# Loyalty.Token.Claims

What a token says: whose it is and the window of time in which it holds.

The window contains its start and not its end.  An empty or reversed one is an
error of its own, whatever the time is.
-/

namespace Loyalty

/-- The contents of a token. -/
structure Claims where
  sub : UserId
  issuedAt : Instant
  expiresAt : Instant
  deriving DecidableEq

namespace Claims

/-- Claims that hold for a length of time. -/
def issue (sub : UserId) (issuedAt : Instant) (lifetime : TimeSpan) : Claims :=
  { sub, issuedAt, expiresAt := issuedAt.add lifetime }

/-- Whether claims hold at an instant, and why not. -/
def validate (claims : Claims) (now : Instant) : Except ClaimsError Unit :=
  if claims.expiresAt ≤ claims.issuedAt then .error .invalidTimeWindow
  else if now < claims.issuedAt then .error .notYetValid
  else if claims.expiresAt ≤ now then .error .expired
  else .ok ()

/-- Claims hold exactly inside their window. -/
theorem validate_eq_ok_iff {claims : Claims} {now : Instant} {u : Unit} :
    claims.validate now = .ok u ↔ claims.issuedAt ≤ now ∧ now < claims.expiresAt := by
  unfold validate
  simp only [Instant.le_iff, Instant.lt_iff]
  split
  · simp only [reduceCtorEq, false_iff]; omega
  · split
    · simp only [reduceCtorEq, false_iff]; omega
    · split
      · simp only [reduceCtorEq, false_iff]; omega
      · simp only [true_iff]; omega

end Claims

end Loyalty
