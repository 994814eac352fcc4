import Loyalty.Json.Amount
import Mathlib

/-!
# Loyalty.Proofs.Decimal.Text

Decimals written, and the same decimals read.

Digits are read one by one, and a number that is in range never rounds: what is
read of its digits is no larger than what all of them write (`scan_digits`,
`scan_places`).  So a decimal is read back from its text with every place that it
had (`ofText?_toText`), but for one thing: the sign of a zero is written and not
read.  Only an exponent makes such a zero, by cutting all digits of a negative
number away (`exponent_of_negativeZero`).
-/

namespace Loyalty

namespace Decimal

open Text

/-- The number without a sign on a zero. -/
def unsigned (d : Decimal) : Decimal := { d with negativeZero := false, coeff_eq_zero := nofun }

@[simp] theorem coeff_unsigned (d : Decimal) : d.unsigned.coeff = d.coeff := rfl

@[simp] theorem scale_unsigned (d : Decimal) : d.unsigned.scale = d.scale := rfl

@[simp] theorem negativeZero_unsigned (d : Decimal) : d.unsigned.negativeZero = false := rfl

@[simp] theorem unsigned_unsigned (d : Decimal) : d.unsigned.unsigned = d.unsigned := rfl

theorem unsigned_eq_self_iff {d : Decimal} : d.unsigned = d ↔ d.negativeZero = false := by
  constructor
  · intro h
    rw [← h, negativeZero_unsigned]
  · obtain ⟨coeff, scale, negativeZero, -, -, -⟩ := d
    rintro rfl
    rfl

/-- The sign of a zero does not make another number. -/
theorem same_unsigned (d : Decimal) : d.unsigned.same d := rfl

/-! ## digits -/

/-- More digits never make a number smaller. -/
theorem le_ofDigitChars (ds : List Char) (coeff : ℕ) : coeff ≤ Nat.ofDigitChars 10 ds coeff := by
  rw [Nat.ofDigitChars_eq_ofDigitChars_zero]
  have hpos : 0 < 10 ^ ds.length := by positivity
  nlinarith

theorem ofDigitChars_cons (c : Char) (ds : List Char) (coeff : ℕ) :
    Nat.ofDigitChars 10 (c :: ds) coeff = Nat.ofDigitChars 10 ds (10 * coeff + digitValue c) :=
  Nat.ofDigitChars_cons

/-- Digits before the point are read into the coefficient that they write, if it is in range. -/
theorem scan_digits {ds : List Char} (hds : ∀ c ∈ ds, c.isDigit = true) (hne : ds ≠ [])
    {coeff : ℕ} (digits : Bool) (h : Nat.ofDigitChars 10 ds coeff < coeffBound) (rest : List Char) :
    scan coeff none digits .open (ds ++ rest) =
      scan (Nat.ofDigitChars 10 ds coeff) none true .open rest := by
  induction ds generalizing coeff digits with
  | nil => exact absurd rfl hne
  | cons c ds ih =>
      obtain ⟨hc, hrest⟩ := List.forall_mem_cons.mp hds
      rw [ofDigitChars_cons] at h ⊢
      have hnext : 10 * coeff + digitValue c < coeffBound := (le_ofDigitChars ds _).trans_lt h
      rw [List.cons_append, scan]
      simp only [hc, if_true, hnext]
      cases ds with
      | nil => rfl
      | cons d ds => exact ih hrest (List.cons_ne_nil d ds) true h

/-- Digits behind the point are read into the coefficient that they write, if it and its places are
in range. -/
theorem scan_places {ds : List Char} (hds : ∀ c ∈ ds, c.isDigit = true) {coeff places : ℕ}
    {turn : Turn} (hturn : ds ≠ [] → turn = .open) (h : Nat.ofDigitChars 10 ds coeff < coeffBound)
    (hplaces : places + ds.length ≤ maxScale) :
    scan coeff (some places) true turn ds =
      some (Nat.ofDigitChars 10 ds coeff, places + ds.length) := by
  induction ds generalizing coeff places turn with
  | nil => cases turn <;> rfl
  | cons c ds ih =>
      obtain ⟨hc, hrest⟩ := List.forall_mem_cons.mp hds
      rw [ofDigitChars_cons] at h ⊢
      rw [List.length_cons] at hplaces ⊢
      have hnext : 10 * coeff + digitValue c < coeffBound := (le_ofDigitChars ds _).trans_lt h
      -- The largest scale is reached by the last digit at the earliest.
      have hopen : ds ≠ [] → Turn.after coeff (places + 1) = .open := by
        intro hne
        have hpos := List.length_pos_of_ne_nil hne
        rw [Turn.after, if_pos (by omega)]
      rw [hturn (List.cons_ne_nil c ds), scan]
      simp only [hc, if_true, hnext]
      rw [ih hrest hopen h (by omega), Nat.add_assoc, Nat.add_comm 1]

/-! ## numbers -/

/-- The digits that are written for a magnitude, with its places behind the point. -/
def magnitudeChars (magnitude scale : ℕ) : List Char :=
  Digits.ofNat (magnitude / 10 ^ scale) ++
    (if scale = 0 then [] else '.' :: Digits.padded scale (magnitude % 10 ^ scale))

theorem toChars_eq (d : Decimal) :
    d.toChars = (if d.isNegative then ['-'] else []) ++ magnitudeChars d.coeff.natAbs d.scale := by
  rw [toChars, magnitudeChars, List.append_assoc]

/-- What is written for a magnitude starts with a digit. -/
theorem exists_magnitudeChars (magnitude scale : ℕ) :
    ∃ c cs, magnitudeChars magnitude scale = c :: cs ∧ c.isDigit = true := by
  obtain ⟨c, cs, heq⟩ := List.exists_cons_of_ne_nil (Digits.ofNat_ne_nil (magnitude / 10 ^ scale))
  have hc : c.isDigit = true := Digits.isDigit_of_mem_ofNat (heq ▸ List.mem_cons_self ..)
  rw [magnitudeChars, heq]
  exact ⟨c, _, rfl, hc⟩

/-- A magnitude is read back with all its places. -/
theorem scan_magnitudeChars {magnitude scale : ℕ} (h : magnitude < coeffBound)
    (hscale : scale ≤ maxScale) :
    scan 0 none false .open (magnitudeChars magnitude scale) = some (magnitude, scale) := by
  have hwhole :
      Nat.ofDigitChars 10 (Digits.ofNat (magnitude / 10 ^ scale)) 0 = magnitude / 10 ^ scale :=
    Digits.toNat_ofNat _
  have hlt : magnitude / 10 ^ scale < coeffBound := (Nat.div_le_self ..).trans_lt h
  rw [magnitudeChars,
    scan_digits (fun _ => Digits.isDigit_of_mem_ofNat) (Digits.ofNat_ne_nil _) false
    (hwhole.symm ▸ hlt), hwhole]
  by_cases hzero : scale = 0
  · subst hzero
    rw [if_pos rfl, pow_zero, Nat.div_one]
    rfl
  · have hfits : magnitude % 10 ^ scale < 10 ^ scale := Nat.mod_lt _ (by positivity)
    have hlength := Digits.length_padded (Nat.pos_of_ne_zero hzero) hfits
    have hplaces :
        Nat.ofDigitChars 10 (Digits.padded scale (magnitude % 10 ^ scale))
        (magnitude / 10 ^ scale) =
        magnitude := by
      rw [Nat.ofDigitChars_eq_ofDigitChars_zero, hlength]
      exact (congrArg _ (Digits.toNat_padded scale _)).trans
        (Nat.div_add_mod magnitude (10 ^ scale))
    rw [if_neg hzero]
    change scan _ (some 0) true .open _ = _
    rw [scan_places (fun _ => Digits.isDigit_of_mem_padded) (fun _ => rfl) (hplaces.symm ▸ h)
      (by rw [hlength, Nat.zero_add]; exact hscale), hplaces, hlength, Nat.zero_add]

/-- The coefficient is the magnitude with the sign that is written. -/
theorem coeff_eq_of_isNegative (d : Decimal) :
    (if d.isNegative then -(d.coeff.natAbs : ℤ) else d.coeff.natAbs) = d.coeff := by
  have hzero := d.coeff_eq_zero
  unfold isNegative
  cases hn : d.negativeZero with
  | true => simp [hzero hn]
  | false =>
      simp only [Bool.false_or, decide_eq_true_eq]
      split <;> omega

/-- **A decimal written is the decimal read**, with all its places; only the sign of a zero is
lost. -/
theorem ofText?_toText (d : Decimal) : ofText? d.toText = some d.unsigned := by
  have hscan := scan_magnitudeChars d.coeff_lt d.scale_le
  have hcoeff := coeff_eq_of_isNegative d
  have hmod : d.scale % (maxScale + 1) = d.scale := Nat.mod_eq_of_lt (Nat.lt_succ_of_le d.scale_le)
  have hread : ofScan? d.isNegative d.coeff.natAbs d.scale = some d.unsigned := by
    rw [ofScan?, hmod, hcoeff]
    exact ofParts?_eq_some_iff.mpr ⟨rfl, rfl, rfl⟩
  rw [ofText?, toText, String.toList_ofList, toChars_eq]
  cases hsign : d.isNegative with
  | true =>
      rw [hsign] at hread
      simp [ofChars?, hscan, hread]
  | false =>
      obtain ⟨c, cs, heq, hc⟩ := exists_magnitudeChars d.coeff.natAbs d.scale
      rw [hsign] at hread
      rw [if_neg Bool.false_ne_true, List.nil_append]
      unfold ofChars?
      split
      · next hminus =>
          obtain rfl : c = '-' := (List.cons.inj (heq.symm.trans hminus)).1
          contradiction
      · next hplus =>
          obtain rfl : c = '+' := (List.cons.inj (heq.symm.trans hplus)).1
          contradiction
      · simp [hscan, hread]

/-- A sign on a zero shows in the text. -/
theorem toText_unsigned_eq_iff {d : Decimal} :
    d.unsigned.toText = d.toText ↔ d.negativeZero = false := by
  constructor
  · intro h
    by_contra hsigned
    rw [Bool.not_eq_false] at hsigned
    obtain ⟨c, cs, heq, hc⟩ := exists_magnitudeChars d.coeff.natAbs d.scale
    have hchars : d.unsigned.toChars = d.toChars := String.ofList_injective h
    have hpositive : d.unsigned.isNegative = false := by simp [isNegative, d.coeff_eq_zero hsigned]
    have hnegative : d.isNegative = true := by simp [isNegative, hsigned]
    rw [toChars_eq, toChars_eq, hpositive, hnegative, coeff_unsigned, scale_unsigned, heq] at hchars
    simp only [Bool.false_eq_true, if_false, if_true, List.nil_append, List.cons_append,
      List.cons.injEq] at hchars
    rw [hchars.1] at hc
    contradiction
  · intro h
    rw [unsigned_eq_self_iff.mpr h]

/-! ## signed zeros -/

theorem negativeZero_of_ofParts? {coeff : ℤ} {scale : ℕ} {d : Decimal}
    (h : ofParts? coeff scale = some d) :
    d.negativeZero = false := (ofParts?_eq_some_iff.mp h).2.2

theorem negativeZero_of_coeff_ne_zero {d : Decimal} (h : d.coeff ≠ 0) : d.negativeZero = false :=
  Bool.eq_false_iff.mpr (mt d.coeff_eq_zero h)

theorem negativeZero_of_fit? {coeff : ℤ} {scale : ℕ} {d : Decimal} (h : fit? coeff scale = some d) :
    d.negativeZero = false := by
  simp only [fit?, Option.ite_none_left_eq_some] at h
  obtain ⟨-, h⟩ := h
  split at h
  · exact negativeZero_of_ofParts? h
  · exact negativeZero_of_ofParts? (Option.ite_none_left_eq_some.mp h).2

/-- A sum has no sign on its zero where its parts have none. -/
theorem negativeZero_of_add? {a b d : Decimal} (ha : a.negativeZero = false)
    (hb : b.negativeZero = false) (h : a.add? b = some d) : d.negativeZero = false := by
  unfold add? at h
  split at h
  · cases h
    exact hb
  · split at h
    · cases h
      exact ha
    · exact negativeZero_of_fit? h

theorem negativeZero_of_sub? {a b d : Decimal} (ha : a.negativeZero = false)
    (hb : b.negativeZero = false) (h : a.sub? b = some d) : d.negativeZero = false :=
  negativeZero_of_add? (b := b.neg) ha hb h

/-- No sign is read on a zero that is written without exponent. -/
theorem negativeZero_of_ofChars? {cs : List Char} {d : Decimal} (h : ofChars? cs = some d) :
    d.negativeZero = false := by
  unfold ofChars? at h
  split at h
  all_goals
    obtain ⟨⟨coeff, scale⟩, -, hparts⟩ := Option.bind_eq_some_iff.mp h
    exact negativeZero_of_ofParts? hparts

/-- A zero has a sign only when an exponent cut the digits of a negative number. -/
theorem exponent_of_negativeZero {s : String} {d : Decimal} (h : ofDocument? s = some d)
    (hsigned : d.negativeZero = true) : ∃ c ∈ s.toList, c = 'e' ∨ c = 'E' := by
  have hscientific : ofScientific? s.toList = some d := by
    rw [ofDocument?, Option.or_eq_some_iff] at h
    refine h.elim (fun hplain => ?_) (·.2)
    rw [negativeZero_of_ofChars? hplain] at hsigned
    contradiction
  by_contra hnone
  have hdrop : s.toList.dropWhile (fun c => !(c == 'e' || c == 'E')) = [] := by
    rw [List.dropWhile_eq_nil_iff]
    intro c hc
    simpa using fun hmark => hnone ⟨c, hc, hmark⟩
  simp only [ofScientific?, hdrop] at hscientific
  contradiction

end Decimal

namespace Json

open Decimal

/-- An amount is a string with an exponent where its zero has a sign. -/
theorem exponent_of_toDecimal? {v : Json} {d : Decimal} (h : toDecimal? v = some d)
    (hsigned : d.negativeZero = true) :
    ∃ s, v = .text s ∧ ∃ c ∈ s.toList, c = 'e' ∨ c = 'E' := by
  unfold toDecimal? at h
  split at h
  · next s => exact ⟨s, rfl, exponent_of_negativeZero h hsigned⟩
  · next n =>
      have hplain : d.negativeZero = false := by
        unfold Number.toDecimal? at h
        split at h
        · exact negativeZero_of_ofParts? h
        · obtain ⟨x, -, hchars⟩ := Option.bind_eq_some_iff.mp h
          exact negativeZero_of_ofChars? hchars
      rw [hplain] at hsigned
      contradiction
  · cases h

/-- An amount written is the amount read. -/
theorem toDecimal?_ofDecimal (d : Decimal) : toDecimal? (ofDecimal d) = some d.unsigned := by
  rw [ofDecimal, text, toDecimal?, ofDocument?, ofText?_toText, Option.some_or]

end Json

end Loyalty
