import Loyalty.Proofs.Database.Sequential

/-!
# Loyalty.Proofs.Database.Limits

The limits of a row at a database server and of a balance in memory.

They are the same limits kept by different means: sums are checked against
`Points.max` in memory, and columns have fifteen digits at the server
(`checkedSum_of_le`, `Numeric.exists_ofRat?`).  So what is done to a balance is
granted or refused like what is done to the row that `Matches` it, and they
match afterwards.
-/

namespace Loyalty

open Decimal

namespace Database

/-- The largest balance is the largest number of fifteen digits. -/
theorem Numeric.le_max_iff (m : ℤ) : (m : ℚ) / 100 ≤ Points.max.toRat ↔ m < 10 ^ 15 := by
  rw [Points.toRat_max, div_le_div_iff_of_pos_right (by norm_num)]
  have hcast : (999999999999999 : ℚ) = ((999999999999999 : ℤ) : ℚ) := by norm_num
  rw [hcast, Int.cast_le]
  omega

/-- What a balance can hold is stored as it is. -/
theorem Numeric.exists_ofRat? {x : ℚ} (hx : OnGrid Points.places x) (h0 : 0 ≤ x)
    (hmax : x ≤ Points.max.toRat) :
    ∃ n, ofRat? x = some n ∧ n.toRat = x := by
  obtain ⟨m, hm⟩ := id hx
  rw [show (10 : ℚ) ^ Points.places = 100 by norm_num [Points.places]] at hm
  have hcents : roundCents x = m := by rw [hm, roundCents_of_cents]
  have hnonneg : 0 ≤ m := by
    have hm0 : 0 ≤ (m : ℚ) := by linarith
    exact_mod_cast hm0
  have hlt := (le_max_iff m).mp (hm ▸ hmax)
  have hstored : ∃ n, ofRat? x = some n := ⟨_, dif_pos (by rw [hcents]; omega)⟩
  obtain ⟨n, hn⟩ := hstored
  exact ⟨n, hn, toRat_of_ofRat? hx hn⟩

/-- What no balance can hold is not stored. -/
theorem Numeric.ofRat?_eq_none {x : ℚ} (hx : OnGrid Points.places x) (hmax : Points.max.toRat < x) :
    ofRat? x = none := by
  obtain ⟨m, hm⟩ := hx
  rw [show (10 : ℚ) ^ Points.places = 100 by norm_num [Points.places]] at hm
  have hcents : roundCents x = m := by rw [hm, roundCents_of_cents]
  have hge := (le_max_iff m).not.mp (by rw [← hm]; exact hmax.not_ge)
  exact dif_neg (by rw [hcents]; omega)

theorem Numeric.cents_nonneg {n : Numeric} (h : 0 ≤ n.toRat) : 0 ≤ n.cents := by
  have hn : 0 ≤ (n.cents : ℚ) := by
    rw [toRat] at h
    linarith
  exact_mod_cast hn

namespace Sequential

/-! ## balances -/

/-- A row of a user and a balance hold the same amounts. -/
structure Matches (u : UserId) (a : Account) (b : Balance) : Prop where
  user : b.userId = u
  current : b.current.toRat = a.current.toRat
  withdrawn : b.withdrawn.toRat = a.withdrawn.toRat

variable {u : UserId} {a : Account} {b : Balance} {amount : Points}

theorem matches_zero (u : UserId) : Matches u .zero (.zero u) := by
  constructor <;> simp [Account.zero, Balance.zero]

theorem Matches.current_onGrid (h : Matches u a b) : OnGrid Points.places b.current.toRat := by
  rw [h.current]
  exact a.current.onGrid

theorem Matches.withdrawn_onGrid (h : Matches u a b) : OnGrid Points.places b.withdrawn.toRat := by
  rw [h.withdrawn]
  exact a.withdrawn.onGrid

theorem Matches.inCents (h : Matches u a b) : b.InCents := ⟨h.current_onGrid, h.withdrawn_onGrid⟩

theorem isAllowed_of_nonneg (hcurrent : 0 ≤ a.current.toRat) (hwithdrawn : 0 ≤ a.withdrawn.toRat) :
    isAllowed a = true := by
  simp [isAllowed, Numeric.cents_nonneg hcurrent, Numeric.cents_nonneg hwithdrawn]

/-- What is read of a row is compared like the balance. -/
theorem Matches.le_sent_iff (h : Matches u a b) :
    amount ≤ Row.sent a.current.toDecimal ↔ amount.toRat ≤ b.current.toRat := by
  rw [le_iff_toRat, Numeric.toRat_sent, Numeric.toRat_toDecimal, h.current]

/-- A credit is granted by both, and to the same effect, or refused by both. -/
theorem Matches.credit (h : Matches u a b) (hrange : b.InRange) (hpos : 0 < amount.coeff)
    (hamount : OnGrid Points.places amount.toRat) :
    (∃ a' b', a.credit? amount = some a' ∧ isAllowed a' = true ∧ b.credit amount = .ok b' ∧
      Matches u a' b') ∨
      a.credit? amount = none ∧ b.credit amount = .error (.validation "balance out of range") := by
  have hpos' := toRat_pos_iff.mpr hpos
  have hcurrent := hrange.zero_le_toRat
  have hwithdrawn := hrange.withdrawn_nonneg_toRat
  have hensure : ensurePositive amount = .ok () := ensurePositive_eq_ok_iff.mpr hpos
  have hsum := h.current_onGrid.add hamount
  rw [h.current] at hsum
  by_cases hle : b.current.toRat + amount.toRat ≤ Points.max.toRat
  · obtain ⟨sum, hchecked, hexact⟩ := checkedSum_of_le h.current_onGrid hamount hcurrent hpos' hle
    obtain ⟨credited, hcredited, hcreditedRat⟩ :=
      Numeric.exists_ofRat? hamount hpos'.le (by linarith)
    obtain ⟨current, hstored, hstoredRat⟩ :=
      Numeric.exists_ofRat? hsum (by linarith [h.current]) (by linarith [h.current])
    obtain ⟨hadd, hmax⟩ := checkedSum_eq_ok_iff.mp hchecked
    refine .inl ⟨{ a with current }, { b with current := sum }, ?_, ?_, ?_, h.user, ?_, h.withdrawn⟩
    · simp [Account.credit?, hcredited, hcreditedRat, hstored]
    · exact isAllowed_of_nonneg (by linarith [h.current]) (by linarith [h.withdrawn])
    · exact Balance.credit_eq_ok_iff.mpr ⟨hpos, sum, hadd, hmax, rfl⟩
    · rw [hexact, hstoredRat, h.current]
  · have hlt := not_le.mp hle
    refine .inr ⟨?_, ?_⟩
    · have hnone := Numeric.ofRat?_eq_none hsum (h.current ▸ hlt)
      cases hcredited : Numeric.ofRat? amount.toRat with
      | none => simp [Account.credit?, hcredited]
      | some credited =>
          simp [Account.credit?, hcredited, Numeric.toRat_of_ofRat? hamount hcredited, hnone]
    · simp [Balance.credit, hensure, checkedSum_of_lt h.current_onGrid hamount hcurrent hpos' hlt,
        bind, Except.bind]

/-- A debit is refused by both for want of funds, or granted by both to the same effect, or refused
by both because too much was withdrawn. -/
theorem Matches.debit (h : Matches u a b) (hrange : b.InRange) (hpos : 0 < amount.coeff)
    (hamount : OnGrid Points.places amount.toRat) :
    (¬ amount ≤ Row.sent a.current.toDecimal ∧ b.debit amount = .error .insufficientFunds) ∨
    amount ≤ Row.sent a.current.toDecimal ∧
      ((∃ a' b', a.debit? amount = some a' ∧ isAllowed a' = true ∧ b.debit amount = .ok b' ∧
        Matches u a' b') ∨
        a.debit? amount = none ∧ b.debit amount = .error (.validation "balance out of range")) := by
  have hpos' := toRat_pos_iff.mpr hpos
  have hcurrent := hrange.zero_le_toRat
  have hmax := le_iff_toRat.mp hrange.current_le
  have hwithdrawn := hrange.withdrawn_nonneg_toRat
  rw [h.le_sent_iff]
  by_cases hcovers : amount.toRat ≤ b.current.toRat
  · have hless := h.current_onGrid.sub hamount
    have hmore := h.withdrawn_onGrid.add hamount
    rw [h.current] at hless
    rw [h.withdrawn] at hmore
    obtain ⟨current, hstored, hstoredRat⟩ :=
      Numeric.exists_ofRat? hless (by linarith [h.current]) (by linarith [h.current])
    refine .inr ⟨hcovers, ?_⟩
    by_cases hle : b.withdrawn.toRat + amount.toRat ≤ Points.max.toRat
    · obtain ⟨b', hgranted⟩ := h.inCents.exists_debit hrange hpos hamount hcovers hle
      obtain ⟨hcurrent', hwithdrawn'⟩ := h.inCents.debit_exact hrange hamount hgranted
      obtain ⟨withdrawn, hmoved, hmovedRat⟩ :=
        Numeric.exists_ofRat? hmore (by linarith [h.withdrawn]) (by linarith [h.withdrawn])
      refine .inl ⟨{ current, withdrawn }, b', ?_, ?_, hgranted, ?_, ?_, ?_⟩
      · simp [Account.debit?, hstored, hmoved]
      · exact isAllowed_of_nonneg (by linarith [h.current]) (by linarith [h.withdrawn])
      · obtain ⟨-, -, -, -, -, rfl⟩ := Balance.debit_eq_ok_iff.mp hgranted
        exact h.user
      · rw [hcurrent', hstoredRat, h.current]
      · rw [hwithdrawn', hmovedRat, h.withdrawn]
    · have hover := not_le.mp hle
      refine .inr ⟨?_, h.inCents.debit_of_over hrange hpos hamount hcovers hover⟩
      simp [Account.debit?, hstored, Numeric.ofRat?_eq_none hmore (h.withdrawn ▸ hover)]
  · exact .inl ⟨hcovers, Balance.debit_of_lt hpos (not_le.mp hcovers)⟩

end Sequential

end Database

end Loyalty
