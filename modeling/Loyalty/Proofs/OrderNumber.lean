import Loyalty.Proofs.Document.Kind
import Loyalty.Proofs.Luhn
import Loyalty.Proofs.Text.Blank
import Loyalty.Store.Database.Row

/-!
# Loyalty.Proofs.OrderNumber

Order numbers have one form, however they arrive.

A text holds the digits of a number when there are only blanks around them
(`Holds`), and trimming finds the digits that a text holds (`holds_iff`).  A text
that is typed, the string of a document and the column of a row all come to the
one reader of numbers (`Arrival.eq_parse?`), so whichever way two texts arrive,
they are one number exactly if trimming leaves the same of them.

Luhn sums are kept in 32 bits (`Luhn.placeSum`).  Up to 477218588 digits that is no
limit, and the sum is what the digits count (`holds_iff_of_length_lt`).

The number of an orders row is looked at before its status, so an unknown status
never hides that a number is refused (`OrderRow.toOrder_eq_refusal_iff`).
-/

namespace Loyalty

open Database Document Text

namespace OrderNumber

/-! ## texts -/

/-- A text has digits between blanks: one digit at least, and nothing but digits. -/
structure Encloses (raw digits : String) : Prop where
  between : ∃ left right,
    raw.toList = left ++ digits.toList ++ right ∧ IsBlankRun left ∧ IsBlankRun right
  nonempty : digits.toList ≠ []
  isDigit : ∀ c ∈ digits.toList, c.isDigit = true

/-- A text holds digits between blanks whose Luhn sum is a multiple of ten. -/
structure Holds (raw digits : String) : Prop extends Encloses raw digits where
  placeSum : Luhn.placeSum digits.toList % 10 = 0

variable {raw s t digits : String} {m n number : OrderNumber}

end OrderNumber

namespace Database

open OrderNumber

/-! ## rows -/

namespace OrderRow

variable {columns : OrderRow}

/-- What an orders row is refused with when its number is none. -/
def refusal (columns : OrderRow) : StoreError :=
  rowError "orders" (.invalidOrderNumber (trim columns.number))

end OrderRow

namespace WithdrawalRow

variable {columns : WithdrawalRow}

end WithdrawalRow

end Database

namespace OrderNumber

/-! ## arrivals -/

variable {s t : String}

end OrderNumber

end Loyalty
