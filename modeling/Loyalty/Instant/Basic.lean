/-!
# Loyalty.Instant.Basic

Instants of the calendar, to the nanosecond.

An instant is a count of seconds from 1970-01-01T00:00:00Z and the nanoseconds
within that second.  A leap second is the end of the second before it, so its
nanoseconds run on from 10⁹ to below 2·10⁹; instants are ordered by seconds
first and nanoseconds second, which places a leap second where it belongs.

The calendar is the Gregorian one, carried back before its introduction, for
the years -262143 to 262142.
-/

namespace Loyalty

/-- A point in time. -/
structure Instant where
  seconds : Int
  nanos : Nat
  nanos_lt : nanos < 2000000000 := by decide
  deriving DecidableEq

/-- A signed length of time, in nanoseconds. -/
structure TimeSpan where
  nanos : Int
  deriving DecidableEq

namespace TimeSpan

/-- A length given in milliseconds. -/
def ofMillis (ms : Int) : TimeSpan := ⟨ms * 1000000⟩

/-- A length given in hours. -/
def ofHours (h : Int) : TimeSpan := ⟨h * 3600000000000⟩

end TimeSpan

namespace Instant

/-- The start of 1970. -/
def epoch : Instant where
  seconds := 0
  nanos := 0

instance : Inhabited Instant := ⟨epoch⟩

/-! ## order -/

/-- Earlier, a leap second counting as the end of the second before it. -/
def lt (a b : Instant) : Prop := a.seconds < b.seconds ∨ a.seconds = b.seconds ∧ a.nanos < b.nanos

/-- Not later. -/
def le (a b : Instant) : Prop := a.seconds < b.seconds ∨ a.seconds = b.seconds ∧ a.nanos ≤ b.nanos

instance : LT Instant := ⟨lt⟩
instance : LE Instant := ⟨le⟩

instance (a b : Instant) : Decidable (a < b) :=
  inferInstanceAs (Decidable (a.seconds < b.seconds ∨ a.seconds = b.seconds ∧ a.nanos < b.nanos))

instance (a b : Instant) : Decidable (a ≤ b) :=
  inferInstanceAs (Decidable (a.seconds < b.seconds ∨ a.seconds = b.seconds ∧ a.nanos ≤ b.nanos))

/-- Instants are compared by their seconds, and those of one second by what is left. -/
theorem lt_iff (a b : Instant) :
    a < b ↔ a.seconds < b.seconds ∨ a.seconds = b.seconds ∧ a.nanos < b.nanos := Iff.rfl

/-- Instants are compared by their seconds, and those of one second by what is left. -/
theorem le_iff (a b : Instant) :
    a ≤ b ↔ a.seconds < b.seconds ∨ a.seconds = b.seconds ∧ a.nanos ≤ b.nanos := Iff.rfl

/-- Of two instants one is not after the other. -/
theorem not_lt_iff_le (a b : Instant) : ¬ a < b ↔ b ≤ a := by
  rw [lt_iff, le_iff]; omega

/-! ## arithmetic -/

/-- An instant from a count of seconds and any number of nanoseconds, which carry over. -/
def ofNanos (seconds nanos : Int) : Instant where
  seconds := seconds + nanos / 1000000000
  nanos := (nanos % 1000000000).toNat
  nanos_lt := by omega

/-- The instant a length of time later. Inside a leap second a shift that stays inside it stays
leap; one that leaves it counts the leap second as the last one of its minute. -/
def add (a : Instant) (span : TimeSpan) : Instant :=
  let seconds := span.nanos.tdiv 1000000000
  let rest := span.nanos.tmod 1000000000
  if h : 1000000000 ≤ a.nanos then
    if 0 < seconds ∨ 0 < rest ∧ 2000000000 ≤ (a.nanos : Int) + rest then
      ofNanos (a.seconds + seconds) (a.nanos - 1000000000 + rest)
    else if seconds < 0 then
      ofNanos (a.seconds + 1 + seconds) (a.nanos - 1000000000 + rest)
    else if h2 : (a.nanos : Int) + rest < 2000000000 then
      { seconds := a.seconds, nanos := ((a.nanos : Int) + rest).toNat, nanos_lt := by omega }
    else a
  else ofNanos (a.seconds + seconds) (a.nanos + rest)

/-- A number of milliseconds after the epoch. -/
def ofMillis (ms : Int) : Instant := ofNanos (ms / 1000) (ms % 1000 * 1000000)

/-! ## the calendar -/

/-- A day of the Gregorian calendar. -/
structure Date where
  year : Int
  month : Nat
  day : Nat
  deriving DecidableEq, Inhabited

/-- A leap year: divisible by four, and by four hundred if by a hundred. -/
def isLeapYear (year : Int) : Bool := year % 4 = 0 && (year % 100 ≠ 0 || year % 400 = 0)

/-- The number of days of a month. -/
def daysInMonth (year : Int) (month : Nat) : Nat :=
  match month with
  | 2 => if isLeapYear year then 29 else 28
  | 4 | 6 | 9 | 11 => 30
  | _ => 31

/-- The years that dates may have. -/
def isYear (year : Int) : Bool := -262143 ≤ year && year ≤ 262142

namespace Date

/-- A day that the calendar has. -/
def isValid (d : Date) : Bool :=
  isYear d.year && 1 ≤ d.month && d.month ≤ 12 && 1 ≤ d.day && d.day ≤ daysInMonth d.year d.month

/-- The days from 1970-01-01 to a day. Years are counted from March, so that the leap day is the
last day of its year; 400 years have 146097 days. -/
def toDays (d : Date) : Int :=
  let year := if d.month ≤ 2 then d.year - 1 else d.year
  let era := year / 400
  let yearOfEra := year % 400
  let monthFromMarch : Int := if d.month ≤ 2 then d.month + 9 else d.month - 3
  let dayOfYear := (153 * monthFromMarch + 2) / 5 + d.day - 1
  let dayOfEra := yearOfEra * 365 + yearOfEra / 4 - yearOfEra / 100 + dayOfYear
  era * 146097 + dayOfEra - 719468

/-- The day a number of days after 1970-01-01. -/
def ofDays (days : Int) : Date :=
  let shifted := days + 719468
  let era := shifted / 146097
  let dayOfEra := shifted % 146097
  let yearOfEra := (dayOfEra - dayOfEra / 1460 + dayOfEra / 36524 - dayOfEra / 146096) / 365
  let dayOfYear := dayOfEra - (365 * yearOfEra + yearOfEra / 4 - yearOfEra / 100)
  let monthFromMarch := (5 * dayOfYear + 2) / 153
  let day := dayOfYear - (153 * monthFromMarch + 2) / 5 + 1
  let month := if monthFromMarch < 10 then monthFromMarch + 3 else monthFromMarch - 9
  { year := yearOfEra + era * 400 + (if month ≤ 2 then 1 else 0), month := month.toNat,
    day := day.toNat }

end Date

/-- The day of an instant. -/
def date (a : Instant) : Date := .ofDays (a.seconds / 86400)

/-- The second of the day of an instant. -/
def secondOfDay (a : Instant) : Nat := (a.seconds % 86400).toNat

/-- An instant on a day that dates may have. -/
def isRepresentable (a : Instant) : Bool := isYear a.date.year

example : Date.toDays ⟨2000, 2, 29⟩ = 11016 := by decide +kernel
example : Date.ofDays 11016 = ⟨2000, 2, 29⟩ := by decide +kernel
example : Date.ofDays (Date.toDays ⟨-1, 12, 31⟩) = ⟨-1, 12, 31⟩ := by decide +kernel

end Instant

end Loyalty
