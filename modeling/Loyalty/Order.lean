import Loyalty.Decimal.Basic
import Loyalty.Instant.Basic
import Loyalty.OrderNumber
import Loyalty.Uuid

/-!
# Loyalty.Order

Purchase orders and what is known of their accrual.

An order starts as `NEW`, belongs to the user who submitted its number first,
and is followed until its status is final.  Only a processed order with a
positive amount keeps an accrual.
-/

namespace Loyalty

/-! ## status -/

/-- How far an order has come. -/
inductive OrderStatus
  /-- Submitted and not yet known to the accrual service. -/
  | new
  /-- Its accrual is being computed. -/
  | processing
  /-- Refused; it never earns anything. -/
  | invalid
  /-- Its accrual is known. -/
  | processed
  deriving DecidableEq, Inhabited

namespace OrderStatus

/-- The name of a status. -/
def name : OrderStatus → String
  | new => "NEW"
  | processing => "PROCESSING"
  | invalid => "INVALID"
  | processed => "PROCESSED"

/-- The status of a name. -/
def ofName? (name : String) : Option OrderStatus :=
  if name = "NEW" then some .new
  else if name = "PROCESSING" then some .processing
  else if name = "INVALID" then some .invalid
  else if name = "PROCESSED" then some .processed
  else none

/-- The status of a name, or an error that repeats it. -/
def parse (name : String) : Except DomainError OrderStatus :=
  match ofName? name with
  | some status => .ok status
  | none => .error (.validation s!"unknown order status '{name}'")

/-- A status is known by its name. -/
theorem ofName?_name (status : OrderStatus) : ofName? status.name = some status := by
  cases status <;> decide

/-- A status is known by no other name. -/
theorem eq_name_of_ofName? {name : String} {status : OrderStatus} (h : ofName? name = some status) :
    name = status.name := by
  unfold ofName? at h
  repeat' split at h
  all_goals simp_all [OrderStatus.name]
  all_goals (subst h; simp)

/-- Invalid and processed orders change no more. -/
def isFinal : OrderStatus → Bool
  | invalid | processed => true
  | new | processing => false

end OrderStatus

/-! ## orders -/

/-- Points, as exact decimals. -/
abbrev Points := Decimal

/-- An order of the user who first submitted its number. -/
structure Order where
  id : OrderId
  number : OrderNumber
  userId : UserId
  status : OrderStatus
  accrual : Option Points
  uploadedAt : Instant
  deriving DecidableEq

namespace Order

/-- An order just submitted. -/
def submitted (id : OrderId) (userId : UserId) (number : OrderNumber) (uploadedAt : Instant) :
    Order :=
  { id, number, userId, status := .new, accrual := none, uploadedAt }

/-- The amount kept beside a status: a positive one of a processed order, else nothing. -/
def persistedAccrual (status : OrderStatus) (accrual : Option Points) : Option Points :=
  match status, accrual with
  | .processed, some amount => if Decimal.zero < amount then some amount else none
  | _, _ => none

/-- An amount is kept exactly of a processed order that earned a positive one. -/
theorem persistedAccrual_eq_some_iff {status : OrderStatus} {accrual : Option Points}
    {amount : Points} :
    persistedAccrual status accrual = some amount ↔
      status = .processed ∧ accrual = some amount ∧ Decimal.zero < amount := by
  unfold persistedAccrual
  split
  · next a =>
    split
    · next h =>
      simp only [Option.some.injEq, true_and]
      constructor
      · rintro rfl
        exact ⟨rfl, h⟩
      · exact fun h => h.1
    · next h =>
      simp only [reduceCtorEq, Option.some.injEq, true_and, false_iff, not_and]
      rintro rfl
      exact h
  · next h =>
    simp only [reduceCtorEq, false_iff, not_and]
    rintro rfl rfl
    exact absurd rfl (h amount rfl)

/-- What is kept is kept again. -/
theorem persistedAccrual_persistedAccrual (status : OrderStatus) (accrual : Option Points) :
    persistedAccrual status (persistedAccrual status accrual) =
      persistedAccrual status accrual := by
  cases h : persistedAccrual status accrual with
  | none => cases status <;> rfl
  | some amount =>
    obtain ⟨rfl, -, hpos⟩ := persistedAccrual_eq_some_iff.1 h
    exact persistedAccrual_eq_some_iff.2 ⟨rfl, rfl, hpos⟩

end Order

end Loyalty
