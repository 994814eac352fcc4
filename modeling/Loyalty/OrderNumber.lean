import Loyalty.Error
import Loyalty.Luhn
import Loyalty.Text.Blank

/-!
# Loyalty.OrderNumber

Order numbers: texts of digits that pass the Luhn check.

Numbers name purchase orders and are the payment references of withdrawals.
The check is part of the type and `parse?` is the one way in, so that however a
number arrives — typed, in a document, from a table — equal numbers are equal
texts.
-/

namespace Loyalty

/-- A number that passes the Luhn check. -/
structure OrderNumber where
  text : String
  isValid : Luhn.isValid text = true
  deriving DecidableEq

namespace OrderNumber

instance : Inhabited OrderNumber := ⟨"0", by decide +kernel⟩

/-- The number a text holds between blanks. -/
def parse? (raw : String) : Option OrderNumber :=
  if h : Luhn.isValid (Text.trim raw) = true then some ⟨Text.trim raw, h⟩ else none

/-- The number a text holds between blanks, or the text without them as an error. -/
def parse (raw : String) : Except DomainError OrderNumber :=
  match parse? raw with
  | some number => .ok number
  | none => .error (.invalidOrderNumber (Text.trim raw))

/-- A number is read exactly from the texts that trim to it. -/
theorem parse?_eq_some_iff {raw : String} {number : OrderNumber} :
    parse? raw = some number ↔ Text.trim raw = number.text := by
  obtain ⟨text, h⟩ := number
  unfold parse?
  constructor
  · split
    · rintro ⟨⟩
      rfl
    · simp
  · rintro rfl
    rw [dif_pos h]

/-- A number is read from its own text. -/
theorem parse?_text (number : OrderNumber) : parse? number.text = some number :=
  parse?_eq_some_iff.2 (Text.trim_eq_self fun _ hc =>
    Text.isBlank_of_isDigit (Luhn.isDigit_of_isValid number.isValid hc))

/-- Nothing is read exactly if what trimming leaves is no number. -/
theorem parse?_eq_none_iff {raw : String} :
    parse? raw = none ↔ Luhn.isValid (Text.trim raw) = false := by
  unfold parse?
  split
  · next h => simp [h]
  · next h => simpa using h

/-- What is read without an error is the number. -/
theorem parse_eq_ok_iff {raw : String} {number : OrderNumber} :
    parse raw = .ok number ↔ parse? raw = some number := by
  unfold parse
  cases parse? raw <;> simp

/-- No number is read from a blank text. -/
theorem isBlankText_of_parse? {raw : String} {number : OrderNumber} (h : parse? raw = some number) :
    Text.isBlankText raw = false := by
  rw [Bool.eq_false_iff]
  intro hblank
  have hempty : number.text = "" :=
    (parse?_eq_some_iff.mp h).symm.trans ((Text.trim_eq_empty_iff raw).mpr hblank)
  have hvalid := number.isValid
  rw [hempty] at hvalid
  contradiction

end OrderNumber

end Loyalty
