import Loyalty.Instant.Text
import Loyalty.Proofs.Instant.Calendar

/-!
# Loyalty.Proofs.Instant.Text

Instants written, and the same instants read.

A written instant is a row of fields, each of digits up to a character that is
none, so a field is read off its front whatever follows (`number?_append`).
The fields are those of the instant, and they make it again (`ofFields?_fields`):
its date is one of the calendar, and its fraction has as many digits as it
needs.  A leap second is written as the second 60, so it is read as one only at
the end of a minute, and whatever is read is an instant that is read back from its
own text (`IsRegular`, `isRegular_of_ofText?`).
-/

namespace Loyalty

open Text

namespace Instant

/-! ## digits -/

/-- What follows starts with no digit. -/
def NoDigit (rest : List Char) : Prop := ∀ c ∈ rest.head?, c.isDigit = false

theorem noDigit_cons {c : Char} (hc : c.isDigit = false) (rest : List Char) :
    NoDigit (c :: rest) := by
  intro d hd
  obtain rfl : c = d := by simpa using hd
  exact hc

theorem takeWhile_isDigit_append {ds rest : List Char} (hds : ∀ c ∈ ds, c.isDigit = true)
    (hrest : NoDigit rest) :
    (ds ++ rest).takeWhile Char.isDigit = ds := by
  have hnone : rest.takeWhile Char.isDigit = [] := by
    cases rest with
    | nil => rfl
    | cons c rest => rw [List.takeWhile_cons_of_neg (by simpa using hrest c rfl)]
  rw [List.takeWhile_append_of_pos hds, hnone, List.append_nil]

/-- Digits are read up to what is none, if there are not too many. -/
theorem number?_append {width : Nat} {ds rest : List Char} (hds : ∀ c ∈ ds, c.isDigit = true)
    (hne : ds ≠ []) (hwidth : ds.length ≤ width) (hrest : NoDigit rest) :
    number? width (ds ++ rest) = some (Digits.toNat ds, rest) := by
  have hnone : NoDigit (rest.take (width - ds.length)) := by
    intro c hc
    refine hrest c ?_
    cases rest with
    | nil => simp at hc
    | cons d rest =>
        cases hk : width - ds.length with
        | zero => simp [hk] at hc
        | succ k => simpa [hk] using hc
  rw [number?, List.take_append, List.take_of_length_le hwidth, takeWhile_isDigit_append hds hnone,
    if_neg (by simpa using hne), List.drop_left]

theorem trimStart_padded (width n : Nat) (rest : List Char) :
    trimStart (Digits.padded width n ++ rest) = Digits.padded width n ++ rest := by
  obtain ⟨c, cs, heq⟩ := List.exists_cons_of_ne_nil (Digits.padded_ne_nil width n)
  have hc : c.isDigit = true := Digits.isDigit_of_mem_padded (heq ▸ List.mem_cons_self ..)
  rw [heq, List.cons_append, trimStart,
    List.dropWhile_cons_of_neg (by simp [isBlank_of_isDigit hc])]

theorem number?_padded {width n : Nat} (hwidth : 0 < width) (h : n < 10 ^ width) {rest : List Char}
    (hrest : NoDigit rest) : number? width (Digits.padded width n ++ rest) = some (n, rest) := by
  rw [number?_append (fun _ => Digits.isDigit_of_mem_padded) (Digits.padded_ne_nil width n)
    (Digits.length_padded hwidth h).le hrest, Digits.toNat_padded]

/-! ## fields -/

theorem field?_padded {n : Nat} (h : n < 100) {rest : List Char} (hrest : NoDigit rest) :
    field? (Digits.padded 2 n ++ rest) = some (n, rest) := by
  rw [field?, trimStart_padded, number?_padded (by decide) h hrest]

/-- A separator that is no blank is read. -/
theorem separator?_cons {c : Char} (hc : isBlank c = false) (rest : List Char) :
    separator? c (c :: rest) = some rest := by
  rw [separator?, trimStart, List.dropWhile_cons_of_neg (by simp [hc])]
  simp

theorem padded_append_ne {c : Char} (hc : c.isDigit = false) (width n : Nat)
    (rest rest' : List Char) :
    Digits.padded width n ++ rest ≠ c :: rest' := by
  intro heq
  obtain ⟨d, ds, hds⟩ := List.exists_cons_of_ne_nil (Digits.padded_ne_nil width n)
  have hd : d.isDigit = true := Digits.isDigit_of_mem_padded (hds ▸ List.mem_cons_self ..)
  rw [hds, List.cons_append, List.cons.injEq] at heq
  rw [heq.1, hc] at hd
  contradiction

theorem year?_yearChars (year : Int) {rest : List Char} (hrest : NoDigit rest) :
    year? (yearChars year ++ rest) = some (year, rest) := by
  unfold yearChars
  split
  · next h =>
      have hnumber : number? 4 (Digits.padded 4 year.toNat ++ rest) = some (year.toNat, rest) :=
        number?_padded (by decide) (by omega) hrest
      rw [year?, trimStart_padded]
      split
      · next heq =>
          exact (padded_append_ne (show Char.isDigit '-' = false by decide) _ _ _ _ heq).elim
      · next heq =>
          exact (padded_append_ne (show Char.isDigit '+' = false by decide) _ _ _ _ heq).elim
      · simp only [hnumber, Option.map_some]
        rw [Int.toNat_of_nonneg h.1]
  · next h =>
      have hnumber :
          longNumber? (Digits.padded 4 year.natAbs ++ rest) = some (year.natAbs, rest) := by
        rw [longNumber?, number?_append (fun _ => Digits.isDigit_of_mem_padded)
          (Digits.padded_ne_nil 4 _) (by simp) hrest, Digits.toNat_padded]
      split
      · rw [year?, List.cons_append, trimStart, List.dropWhile_cons_of_neg (by decide)]
        simp only [hnumber, Option.map_some]
        rw [show -(year.natAbs : Int) = year by omega]
      · rw [year?, List.cons_append, trimStart, List.dropWhile_cons_of_neg (by decide)]
        simp only [hnumber, Option.map_some]
        rw [show (year.natAbs : Int) = year by omega]

theorem fraction?_padded {width n : Nat} (hwidth : 0 < width) (hnine : width ≤ 9)
    (h : n < 10 ^ width) {rest : List Char} (hrest : NoDigit rest) :
    fraction? ('.' :: Digits.padded width n ++ rest) = some (n * 10 ^ (9 - width), rest) := by
  have hlength := Digits.length_padded hwidth h
  simp only [fraction?, List.cons_append]
  rw [takeWhile_isDigit_append (fun _ => Digits.isDigit_of_mem_padded) hrest,
    if_neg (by simpa using Digits.padded_ne_nil width n), List.take_of_length_le (by omega),
    List.drop_left, Digits.toNat_padded, hlength]

/-- The fraction of a second is read to the nanosecond. -/
theorem fraction?_fractionChars (a : Instant) {rest : List Char} (hpoint : rest.head? ≠ some '.')
    (hrest : NoDigit rest) :
    fraction? (fractionChars a ++ rest) = some (a.nanos % 1000000000, rest) := by
  unfold fractionChars
  simp only
  split
  · next h =>
      rw [List.nil_append, h, fraction?.eq_def]
      split
      · exact absurd rfl hpoint
      · rfl
  · split
    · rw [fraction?_padded (by decide) (by decide) (by omega) hrest]
      simp only [Option.some.injEq, Prod.mk.injEq, and_true]
      omega
    · split
      · rw [fraction?_padded (by decide) (by decide) (by omega) hrest]
        simp only [Option.some.injEq, Prod.mk.injEq, and_true]
        omega
      · rw [fraction?_padded (by decide) (by decide) (by omega) hrest]
        simp

/-! ## instants -/

/-- A leap second at the end of a minute, or no leap second. -/
def IsWritable (a : Instant) : Prop := a.nanos < 1000000000 ∨ a.seconds % 60 = 59

/-- Fields make the instant that they are those of. -/
theorem ofFields?_eq_some {d : Date} {hour minute second nanos : ℕ} {a : Instant}
    (hd : d.isValid = true) (hhour : hour < 24) (hminute : minute < 60) (hsecond : second ≤ 60)
    (hnanos : nanos < 1000000000)
    (hseconds : a.seconds = d.toDays * 86400 + hour * 3600 + minute * 60 +
      (if second = 60 then 59 else second))
    (ha : a.nanos = if second = 60 then nanos + 1000000000 else nanos)
    (hday : a.isRepresentable = true) :
    ofFields? d hour minute second nanos 0 = some a := by
  obtain ⟨seconds, n, hn⟩ := a
  simp only at hseconds ha
  subst hseconds ha
  simp only [ofFields?, hd, hhour, hminute, hsecond, hnanos, and_self, if_true, dif_pos,
    Int.sub_zero]
  rw [if_pos hday]

/-- The fields of an instant make the instant again. -/
theorem ofFields?_fields {a : Instant} (hday : a.isRepresentable = true) (hleap : a.IsWritable) :
    ofFields? a.date (a.secondOfDay / 3600) (a.secondOfDay / 60 % 60)
      (if a.nanos < 1000000000 then a.secondOfDay % 60 else a.secondOfDay % 60 + 1)
        (a.nanos % 1000000000) 0 =
        some a := by
  have hdays : a.date.toDays = a.seconds / 86400 := Date.toDays_ofDays _
  have hsecond : (a.secondOfDay : ℤ) = a.seconds % 86400 := Int.toNat_of_nonneg (by omega)
  have hnanos := a.nanos_lt
  by_cases hn : a.nanos < 1000000000
  · rw [if_pos hn]
    refine ofFields?_eq_some (Date.isValid_ofDays hday) (by omega) (by omega) (by omega)
      (by omega) ?_ ?_ hday
    · rw [if_neg (by omega)]
      omega
    · rw [if_neg (by omega)]
      omega
  · have h59 : a.seconds % 60 = 59 := hleap.resolve_left hn
    rw [if_neg hn]
    refine ofFields?_eq_some (Date.isValid_ofDays hday) (by omega) (by omega) (by omega)
      (by omega) ?_ ?_ hday
    · rw [if_pos (by omega)]
      omega
    · rw [if_pos (by omega)]
      omega

/-- What follows the fields of an instant is no digit and no point. -/
theorem noDigit_fractionChars (a : Instant) : NoDigit (fractionChars a ++ ['Z']) := by
  unfold fractionChars
  simp only
  repeat' split
  all_goals exact noDigit_cons (by decide) _

/-- An instant written is the instant read. -/
theorem ofText?_toText {a : Instant} (hday : a.isRepresentable = true) (hleap : a.IsWritable) :
    ofText? a.toText = some a := by
  have hvalid : a.date.isValid = true := Date.isValid_ofDays hday
  simp only [Date.isValid, Bool.and_eq_true, decide_eq_true_eq] at hvalid
  have hmonth : a.date.month < 100 := by omega
  have hdayOfMonth : a.date.day < 100 := by
    have hle : daysInMonth a.date.year a.date.month ≤ 31 := by
      unfold daysInMonth
      repeat' split
      all_goals omega
    omega
  have hsecond : (a.secondOfDay : ℤ) = a.seconds % 86400 := Int.toNat_of_nonneg (by omega)
  have hfields := ofFields?_fields hday hleap
  have hoffset : offset? (trimStart ['Z']) = some (0, []) := by decide
  rw [ofText?, toText, String.toList_ofList, toChars, dateChars, clockChars]
  simp only [List.append_assoc, List.cons_append]
  -- One field after the other.
  rw [ofChars?, Option.bind_eq_bind, Option.bind_eq_bind, Option.bind_eq_bind,
    year?_yearChars _ (noDigit_cons (by decide) _), Option.bind_some]
  dsimp only
  rw [separator?_cons (by decide), Option.bind_some,
    field?_padded hmonth (noDigit_cons (by decide) _), Option.bind_some]
  dsimp only
  rw [separator?_cons (by decide), Option.bind_some,
    field?_padded hdayOfMonth (noDigit_cons (by decide) _), Option.bind_some]
  simp only
  rw [Option.bind_some, field?_padded (by omega) (noDigit_cons (by decide) _), Option.bind_some]
  dsimp only
  rw [separator?_cons (by decide), Option.bind_some,
    field?_padded (by omega) (noDigit_cons (by decide) _), Option.bind_some]
  dsimp only
  rw [separator?_cons (by decide), Option.bind_some,
    field?_padded (by split <;> omega) (noDigit_fractionChars a), Option.bind_some]
  dsimp only
  rw [fraction?_fractionChars a (by decide) (noDigit_cons (by decide) _), Option.bind_some]
  simp only [hoffset, Option.bind_some]
  exact hfields

/-! ## what is read -/

/-- An instant that the calendar has, and no leap second but at the end of a minute. -/
structure IsRegular (a : Instant) : Prop where
  isRepresentable : a.isRepresentable = true
  isWritable : a.IsWritable

/-- A length of time leaves a leap second at the end of its minute, or leads out of it. -/
theorem IsWritable.add {a : Instant} (h : a.IsWritable) (span : TimeSpan) :
    (a.add span).IsWritable := by
  have hofNanos (seconds nanos : ℤ) : (ofNanos seconds nanos).IsWritable := by
    left
    simp only [ofNanos]
    omega
  rw [Instant.add]
  split
  · next hleap =>
      split
      · exact hofNanos _ _
      · split
        · exact hofNanos _ _
        · split
          · exact .inr (h.resolve_left (Nat.not_lt.mpr hleap))
          · exact h
  · exact hofNanos _ _

theorem offsetFields?_mod {cs rest : List Char} {n : ℕ} (h : offsetFields? cs = some (n, rest)) :
    n % 60 = 0 := by
  unfold offsetFields? at h
  split at h
  · obtain ⟨-, h⟩ := Option.ite_none_right_eq_some.mp h
    split at h
    · obtain ⟨-, h⟩ := Option.ite_none_right_eq_some.mp h
      obtain ⟨-, h⟩ := Option.ite_none_right_eq_some.mp h
      cases h
      omega
    · cases h
  · cases h

/-- An offset is a number of minutes. -/
theorem offset?_emod {cs rest : List Char} {offset : ℤ} (h : offset? cs = some (offset, rest)) :
    offset % 60 = 0 := by
  have hzone : offset?.zone? cs = some (offset, rest) → offset % 60 = 0 := by
    intro h
    unfold offset?.zone? at h
    split at h
    · cases h; rfl
    · cases h; rfl
    · obtain ⟨⟨n, behind⟩, hfields, heq⟩ := Option.map_eq_some_iff.mp h
      cases heq
      have hmod := offsetFields?_mod hfields
      omega
    · obtain ⟨⟨n, behind⟩, hfields, heq⟩ := Option.map_eq_some_iff.mp h
      cases heq
      have hmod := offsetFields?_mod hfields
      omega
    · obtain ⟨⟨n, behind⟩, hfields, heq⟩ := Option.map_eq_some_iff.mp h
      cases heq
      have hmod := offsetFields?_mod hfields
      omega
    · cases h
  unfold offset? at h
  split at h
  · split at h
    · cases h; rfl
    · exact hzone h
  · exact hzone h

/-- Fields make regular instants, whatever minutes local time is ahead. -/
theorem isRegular_of_ofFields? {d : Date} {hour minute second nanos : ℕ} {offset : ℤ}
    {a : Instant} (h : ofFields? d hour minute second nanos offset = some a)
    (hoffset : offset % 60 = 0) : a.IsRegular := by
  simp only [ofFields?, Option.ite_none_right_eq_some] at h
  obtain ⟨-, h⟩ := h
  split at h
  · next hnanos =>
      obtain ⟨hday, heq⟩ := Option.ite_none_right_eq_some.mp h
      cases heq
      refine ⟨hday, ?_⟩
      unfold IsWritable
      by_cases hleap : second = 60
      · right
        simp only [hleap, if_true]
        omega
      · left
        simp only [hleap, if_false]
        exact hnanos
  · cases h

/-- What is read is regular. -/
theorem isRegular_of_ofText? {s : String} {a : Instant} (h : ofText? s = some a) : a.IsRegular := by
  unfold ofText? ofChars? at h
  -- One field after the other.
  obtain ⟨⟨year, cs⟩, -, h⟩ := Option.bind_eq_some_iff.mp h
  obtain ⟨cs, -, h⟩ := Option.bind_eq_some_iff.mp h
  obtain ⟨⟨month, cs⟩, -, h⟩ := Option.bind_eq_some_iff.mp h
  obtain ⟨cs, -, h⟩ := Option.bind_eq_some_iff.mp h
  obtain ⟨⟨day, cs⟩, -, h⟩ := Option.bind_eq_some_iff.mp h
  dsimp only at h
  split at h
  case h_4 => cases h
  all_goals
    obtain ⟨cs, -, h⟩ := Option.bind_eq_some_iff.mp h
    obtain ⟨⟨hour, cs⟩, -, h⟩ := Option.bind_eq_some_iff.mp h
    obtain ⟨cs, -, h⟩ := Option.bind_eq_some_iff.mp h
    obtain ⟨⟨minute, cs⟩, -, h⟩ := Option.bind_eq_some_iff.mp h
    obtain ⟨cs, -, h⟩ := Option.bind_eq_some_iff.mp h
    obtain ⟨⟨second, cs⟩, -, h⟩ := Option.bind_eq_some_iff.mp h
    obtain ⟨⟨nanos, cs⟩, -, h⟩ := Option.bind_eq_some_iff.mp h
    obtain ⟨⟨offset, cs⟩, hoffset, h⟩ := Option.bind_eq_some_iff.mp h
    obtain ⟨-, hfields⟩ := Option.ite_none_right_eq_some.mp h
    exact isRegular_of_ofFields? hfields (offset?_emod hoffset)

end Instant

end Loyalty
