import Loyalty.Instant.Basic
import Mathlib

/-!
# Loyalty.Proofs.Instant.Calendar

Days and their dates.

An era has 400 years that begin in March, so its days are numbered up to 146096.
The year of a day is found from the count of the days before it without leap days
(`commonDays`): the count never falls, and it passes a multiple of 365 exactly
where a year starts (`commonDays_yearStart`).  So the day found lies in its year
(`dayOfYear_bounds`), months partition the year, and a date that is found for a
day is a date of the calendar and is found back from it (`toDays_ofDays`,
`isValid_ofDays`).
-/

namespace Loyalty.Instant.Date

/-! ## the days of an era -/

/-- The days of an era up to a day, leap days left out. -/
def commonDays (day : Int) : Int := day - day / 1460 + day / 36524 - day / 146096

/-- The first day of a year of an era. -/
def yearStart (year : Int) : Int := 365 * year + year / 4 - year / 100

theorem commonDays_mono {m n : Int} (h : m ≤ n) : commonDays m ≤ commonDays n := by
  unfold commonDays
  omega

/-- The count passes a multiple of 365 where a year starts. -/
theorem commonDays_yearStart {year : Int} (h0 : 0 ≤ year) (h1 : year < 400) :
    365 * year ≤ commonDays (yearStart year) ∧
      (0 < year → commonDays (yearStart year - 1) < 365 * year) := by
  have hall : ∀ y : Fin 400, 365 * (y.val : Int) ≤ commonDays (yearStart y.val) ∧
      (0 < (y.val : Int) → commonDays (yearStart y.val - 1) < 365 * (y.val : Int)) := by
    decide +kernel
  have hyear := hall ⟨year.toNat, by omega⟩
  rwa [Int.toNat_of_nonneg h0] at hyear

/-- A day lies between the start of its year and that of the next one. -/
theorem yearStart_le {day year : Int} (h0 : 0 ≤ day) (h1 : day < 146097)
    (hyear : year = commonDays day / 365) :
    0 ≤ year ∧ year < 400 ∧ yearStart year ≤ day ∧ (year < 399 → day < yearStart (year + 1)) := by
  have hbounds : 0 ≤ year ∧ year < 400 := by
    unfold commonDays at hyear
    omega
  refine ⟨hbounds.1, hbounds.2, ?_, fun hlast => ?_⟩
  · by_contra hlt
    have hpos : 0 < year := by
      by_contra hzero
      obtain rfl : year = 0 := by omega
      exact hlt h0
    have hmono := commonDays_mono (show day ≤ yearStart year - 1 by omega)
    have hstart := (commonDays_yearStart hbounds.1 hbounds.2).2 hpos
    omega
  · by_contra hge
    have hmono := commonDays_mono (show yearStart (year + 1) ≤ day by omega)
    have hstart :=
      (commonDays_yearStart (show 0 ≤ year + 1 by omega) (show year + 1 < 400 by omega)).1
    omega

/-- The day of the year is one that the year has: the last one is the leap day. -/
theorem dayOfYear_bounds {day year : Int} (h0 : 0 ≤ day) (h1 : day < 146097)
    (hyear : year = commonDays day / 365) :
    0 ≤ day - yearStart year ∧ day - yearStart year ≤ 365 ∧
      (day - yearStart year = 365 → (year + 1) % 4 = 0 ∧
        ((year + 1) % 100 ≠ 0 ∨ (year + 1) % 400 = 0)) := by
  obtain ⟨hpos, hlt, hstart, hnext⟩ := yearStart_le h0 h1 hyear
  unfold yearStart at *
  by_cases hlast : year < 399
  · have hday := hnext hlast
    have h4 : (year + 1) / 4 = year / 4 ∨ (year + 1) % 4 = 0 ∧
        (year + 1) / 4 = year / 4 + 1 := by omega
    have h100 : (year + 1) / 100 = year / 100 ∧ (year + 1) % 100 ≠ 0 ∨
        (year + 1) / 100 = year / 100 + 1 := by omega
    omega
  · obtain rfl : year = 399 := by omega
    omega

/-- The months from March partition the days of a year. -/
theorem month_bounds {day month : Int} (h0 : 0 ≤ day) (h1 : day ≤ 365)
    (hmonth : month = (5 * day + 2) / 153) :
    0 ≤ month ∧ month < 12 ∧ (153 * month + 2) / 5 ≤ day ∧ day < (153 * (month + 1) + 2) / 5 := by
  omega

/-! ## dates -/

/-- The year, the month from March and the day of the month that make a date. -/
structure Parts where
  era : Int
  year : Int
  month : Int
  day : Int

namespace Parts

/-- The parts of a day's date. -/
def ofDays (days : Int) : Parts :=
  let dayOfEra := (days + 719468) % 146097
  let year := commonDays dayOfEra / 365
  let month := (5 * (dayOfEra - yearStart year) + 2) / 153
  { era := (days + 719468) / 146097, year, month,
    day := dayOfEra - yearStart year - (153 * month + 2) / 5 + 1 }

/-- Parts as a date: January and February belong to the next year. -/
def date (p : Parts) : Date where
  year := p.year + p.era * 400 + (if p.month < 10 then 0 else 1)
  month := (if p.month < 10 then p.month + 3 else p.month - 9).toNat
  day := p.day.toNat

/-- The parts of a date that the calendar has, for a day. -/
structure Fits (p : Parts) (days : Int) : Prop where
  days_eq : days + 719468 = p.era * 146097 +
    (yearStart p.year + ((153 * p.month + 2) / 5 + p.day - 1))
  year_nonneg : 0 ≤ p.year
  year_lt : p.year < 400
  month_nonneg : 0 ≤ p.month
  month_lt : p.month < 12
  day_pos : 1 ≤ p.day
  day_le : (153 * p.month + 2) / 5 + p.day ≤ (153 * (p.month + 1) + 2) / 5
  /-- The year ends on a 28th of February, or on a leap day. -/
  day_le_leap : p.month = 11 → p.day ≤ 29
  leap : p.month = 11 → p.day = 29 →
    (p.year + 1) % 4 = 0 ∧ ((p.year + 1) % 100 ≠ 0 ∨ (p.year + 1) % 400 = 0)

theorem fits_ofDays (days : Int) : (ofDays days).Fits days := by
  have h0 : 0 ≤ (days + 719468) % 146097 := by omega
  have h1 : (days + 719468) % 146097 < 146097 := by omega
  obtain ⟨hpos, hlt, -, -⟩ := yearStart_le h0 h1 rfl
  obtain ⟨hfirst, hlast, hleap⟩ := dayOfYear_bounds h0 h1 rfl
  obtain ⟨hm0, hm1, hstart, hend⟩ := month_bounds hfirst hlast rfl
  exact {
    days_eq := by simp only [ofDays]; omega
    year_nonneg := hpos
    year_lt := hlt
    month_nonneg := hm0
    month_lt := hm1
    day_pos := by simp only [ofDays]; omega
    day_le := by simp only [ofDays]; omega
    day_le_leap := by simp only [ofDays]; omega
    leap := by
      simp only [ofDays]
      intro hmonth hday
      exact hleap (by omega) }

theorem date_ofDays (days : Int) : (ofDays days).date = Date.ofDays days := by
  have hfirst := (fits_ofDays days).month_nonneg
  have hlast := (fits_ofDays days).month_lt
  have hmonth :
      (if (ofDays days).month < 10 then (ofDays days).month + 3 else (ofDays days).month - 9) ≤ 2 ↔
      ¬ (ofDays days).month < 10 := by
    split <;> omega
  change _ = Date.mk ((ofDays days).year + (ofDays days).era * 400 +
    (if (if (ofDays days).month < 10 then (ofDays days).month + 3 else (ofDays days).month - 9) ≤ 2
      then 1 else 0)) _ _
  rw [if_congr hmonth rfl rfl, ite_not]
  rfl

namespace Fits

variable {p : Parts} {days : Int}

/-- The parts are those of the day that they are for. -/
theorem toDays_date (h : p.Fits days) : p.date.toDays = days := by
  obtain ⟨hdays, hy0, hy1, hm0, hm1, hd, -, -, -⟩ := h
  unfold yearStart at hdays
  simp only [toDays, date]
  -- The months from March on, and January and February.
  by_cases hm : p.month < 10
  · simp only [if_pos hm]
    rw [if_neg (by omega), if_neg (by omega)]
    omega
  · simp only [if_neg hm]
    rw [if_pos (by omega), if_pos (by omega)]
    omega

/-- A month has the day of the parts. -/
theorem day_le_daysInMonth (h : p.Fits days) :
    p.date.day ≤ daysInMonth p.date.year p.date.month := by
  obtain ⟨era, year, month, day⟩ := p
  obtain ⟨-, hy0, hy1, hm0, hm1, hd, hle, hleap, hday⟩ := h
  simp only at *
  by_cases hlast : month = 11
  · subst hlast
    have hleap' := hleap rfl
    change day.toNat ≤ if isLeapYear (year + era * 400 + 1) then 29 else 28
    by_cases h29 : day = 29
    · obtain ⟨h4, h100⟩ := hday rfl h29
      have hyes : isLeapYear (year + era * 400 + 1) = true := by
        simp only [isLeapYear, Bool.and_eq_true, Bool.or_eq_true, decide_eq_true_eq]
        omega
      rw [if_pos hyes]
      omega
    · split <;> omega
  · have hbefore : month < 11 := by omega
    interval_cases month
    all_goals
      simp [date, daysInMonth]
      omega

/-- The date is one of the calendar, if its year is. -/
theorem isValid_date (h : p.Fits days) (hyear : isYear p.date.year = true) :
    p.date.isValid = true := by
  have hdays := h.day_le_daysInMonth
  obtain ⟨-, hy0, hy1, hm0, hm1, hd, -, -, -⟩ := h
  have hmonth : 1 ≤ p.date.month ∧ p.date.month ≤ 12 := by
    simp only [date]
    split <;> omega
  have hfirst : 1 ≤ p.date.day := by
    simp only [date]
    omega
  simp [isValid, hyear, hmonth, hfirst, hdays]

end Fits

end Parts

/-- A date is found back from its day. -/
theorem toDays_ofDays (days : Int) : (ofDays days).toDays = days := by
  rw [← Parts.date_ofDays]
  exact (Parts.fits_ofDays days).toDays_date

/-- A date that is found for a day is one of the calendar. -/
theorem isValid_ofDays {days : Int} (h : isYear (ofDays days).year = true) :
    (ofDays days).isValid = true := by
  rw [← Parts.date_ofDays] at h ⊢
  exact (Parts.fits_ofDays days).isValid_date h

end Loyalty.Instant.Date
