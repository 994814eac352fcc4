/-!
# Loyalty.Luhn

The Luhn checksum (mod 10) of a string of digits.

Digits are weighed from the right end: the last one counts as it is, the one
before it doubled, and so on in turn; a doubled digit above nine counts nine
less.  A number is valid when the weights add up to a multiple of ten.  The
check digit of a payload is the one digit that makes the two together valid;
appending it moves every payload digit one place, so its sum starts with a
doubled digit where the sum of a whole number starts with a plain one.

Sums are kept in 32 bits.  That is enough for 477218588 digits; a larger sum
wraps around, as sums do where overflow is not checked.
-/

namespace Loyalty.Luhn

/-! ## digits -/

/-- The value of an ASCII digit. -/
def digit? (c : Char) : Option UInt32 :=
  if c.isDigit then some (c.val - '0'.val) else none

/-- The digits of a text that has nothing else. -/
def digits? (s : String) : Option (List UInt32) := s.toList.mapM digit?

/-! ## weights -/

/-- What a digit counts when it is doubled. -/
def double (d : UInt32) : UInt32 := if 2 * d > 9 then 2 * d - 9 else 2 * d

/-- What a digit counts at a place that is doubled or not. -/
def weight (doubled : Bool) (d : UInt32) : UInt32 := if doubled then double d else d

/-- The weights of digits given from the right end, the first one doubled or not. -/
def sumFrom (doubled : Bool) (ds : List UInt32) : UInt32 :=
  (ds.foldl (fun acc d => (!acc.1, acc.2 + weight acc.1 d)) (doubled, 0)).2

@[simp] theorem sumFrom_nil (doubled : Bool) : sumFrom doubled [] = 0 := rfl

/-- What was counted before is added to what the digits count from there. -/
private theorem foldl_weight (doubled : Bool) (n : UInt32) (ds : List UInt32) :
    (ds.foldl (fun acc d => (!acc.1, acc.2 + weight acc.1 d)) (doubled, n)).2 =
      n + sumFrom doubled ds := by
  induction ds generalizing doubled n with
  | nil => exact (UInt32.add_zero n).symm
  | cons d ds ih =>
    have h := ih (!doubled) (weight doubled d)
    simp only [sumFrom, List.foldl_cons, UInt32.zero_add] at h ⊢
    rw [ih (!doubled) (n + weight doubled d), h, UInt32.add_assoc]
    rfl

/-- The first digit counts its weight and the rest start at the other kind of place. -/
theorem sumFrom_cons (doubled : Bool) (d : UInt32) (ds : List UInt32) :
    sumFrom doubled (d :: ds) = weight doubled d + sumFrom (!doubled) ds := by
  have h := foldl_weight (!doubled) (weight doubled d) ds
  simpa [sumFrom] using h

/-! ## numbers and check digits -/

/-- A non-empty text of digits whose weights add up to a multiple of ten. -/
def isValid (number : String) : Bool :=
  match digits? number with
  | some (d :: ds) => sumFrom false (d :: ds).reverse % 10 == 0
  | _ => false

/-- A valid number has nothing but digits. -/
theorem isDigit_of_isValid {number : String} (h : isValid number = true) {c : Char}
    (hc : c ∈ number.toList) : c.isDigit = true := by
  have hall : ∀ (cs : List Char) (ds : List UInt32), cs.mapM digit? = some ds →
      ∀ c ∈ cs, c.isDigit = true := by
    intro cs
    induction cs with
    | nil => simp
    | cons d cs ih =>
      intro ds hds c hc
      simp only [List.mapM_cons, Option.bind_eq_bind, Option.bind_eq_some_iff] at hds
      obtain ⟨n, hn, ns, hns, -⟩ := hds
      rcases List.mem_cons.1 hc with rfl | hmem
      · by_cases hdigit : c.isDigit = true
        · exact hdigit
        · simp [digit?, hdigit] at hn
      · exact ih ns hns c hmem
  unfold isValid at h
  split at h
  · next hds => exact hall _ _ hds c hc
  · contradiction

/-- The digit that makes a payload of digits valid; the empty payload has one too. -/
def checkDigit? (payload : String) : Option Nat :=
  (digits? payload).map fun ds => ((10 - sumFrom true ds.reverse % 10) % 10).toNat

/-- A check digit is a digit. -/
theorem checkDigit?_lt {payload : String} {d : Nat} (h : checkDigit? payload = some d) :
    d < 10 := by
  simp only [checkDigit?, Option.map_eq_some_iff] at h
  obtain ⟨ds, -, rfl⟩ := h
  exact Nat.mod_lt _ (by decide)

example : isValid "79927398713" = true := by decide +kernel
example : checkDigit? "7992739871" = some 3 := by decide +kernel
example : isValid "" = false := by decide +kernel

end Loyalty.Luhn
