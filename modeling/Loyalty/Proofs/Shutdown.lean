import Loyalty.Shutdown
import Mathlib

/-!
# Loyalty.Proofs.Shutdown

What a signal has done by an instant.

`s.FiredBy t` says that `s` fires before `t`, and letting time pass never changes
it for the instants to come (`Later`).  Only a wait that the signal itself ended
knows of the trigger that fires at that very instant; whatever follows it agrees
with the signal on all later instants (`Follows`).
-/

namespace Loyalty.Shutdown

/-- The signal has fired before an instant. -/
def FiredBy (s : Shutdown) (t : ℕ) : Prop := s.fired = true ∨ ∃ instant ∈ s.due, instant < t

/-- No trigger was due before an instant unless the signal has fired. -/
def Current (s : Shutdown) (now : ℕ) : Prop := s.fired = false → ∀ instant ∈ s.due, now ≤ instant

/-- The same signal after time has passed up to an instant. -/
structure Later (s s' : Shutdown) (now : ℕ) : Prop where
  fired : s.fired = true → s'.fired = true
  firedBy_iff : ∀ t, now ≤ t → (s'.FiredBy t ↔ s.FiredBy t)
  due_eq : s'.fired = false → s'.due = s.due

/-- The same signal at an instant at which it may just have fired. -/
structure Follows (s s' : Shutdown) (now : ℕ) : Prop where
  firedBy : s.FiredBy now → s'.FiredBy now
  firedBy_iff : ∀ t, now < t → (s'.FiredBy t ↔ s.FiredBy t)

variable {s s' s'' : Shutdown} {now now' t : ℕ}

theorem FiredBy.mono (h : s.FiredBy now) (hle : now ≤ t) : s.FiredBy t :=
  h.imp_right fun ⟨instant, hdue, hlt⟩ => ⟨instant, hdue, hlt.trans_le hle⟩

theorem current_zero (s : Shutdown) : s.Current 0 := fun _ instant _ => Nat.zero_le instant

/-- What is current shows all that has happened. -/
theorem Current.firedBy_iff (h : s.Current now) : s.FiredBy now ↔ s.fired = true := by
  constructor
  · rintro (hfired | ⟨instant, hdue, hlt⟩)
    · exact hfired
    · by_contra hfired
      have hle := h (Bool.eq_false_iff.mpr hfired) instant hdue
      omega
  · exact .inl

/-! ## time -/

namespace Later

theorem refl (s : Shutdown) (now : ℕ) : Later s s now := ⟨id, fun _ _ => .rfl, fun _ => rfl⟩

theorem trans (h : Later s s' now) (h' : Later s' s'' now') (hle : now ≤ now') :
    Later s s'' now' where
  fired hfired := h'.fired (h.fired hfired)
  firedBy_iff t ht := (h'.firedBy_iff t ht).trans (h.firedBy_iff t (hle.trans ht))
  due_eq hfired := by
    have hbefore : s'.fired = false :=
      Bool.eq_false_iff.mpr fun hfired' => by simp [h'.fired hfired'] at hfired
    exact (h'.due_eq hfired).trans (h.due_eq hbefore)

theorem follows (h : Later s s' now) : Follows s s' now where
  firedBy := (h.firedBy_iff now le_rfl).mpr
  firedBy_iff t ht := h.firedBy_iff t ht.le

theorem mono (h : Later s s' now) (hle : now ≤ now') : Later s s' now' := h.trans (.refl ..) hle

end Later

theorem Follows.trans (h : Follows s s' now) (h' : Follows s' s'' now') (hle : now ≤ now') :
    Follows s s'' now' where
  firedBy hfired := by
    refine h'.firedBy ?_
    obtain rfl | hlt := hle.eq_or_lt
    · exact h.firedBy hfired
    · exact (h.firedBy_iff now' hlt).mpr hfired
  firedBy_iff t ht := (h'.firedBy_iff t ht).trans (h.firedBy_iff t (hle.trans_lt ht))

/-- A signal that does not fire before an instant is current up to it. -/
theorem current_of_not_firedBy (h : ¬ s.FiredBy now) : s.Current now :=
  fun _ instant hdue => Nat.not_lt.mp fun hlt => h (.inr ⟨instant, hdue, hlt⟩)

/-- Before an instant the signal has fired when it has fired after all that is due before it. -/
theorem fired_passed_iff : (s.passed now).fired = true ↔ s.FiredBy now := by
  simp [passed, FiredBy]

theorem later_passed (s : Shutdown) (now : ℕ) : Later s (s.passed now) now where
  fired hfired := fired_passed hfired now
  firedBy_iff t ht := by
    constructor
    · rintro (hfired | ⟨instant, hdue, hlt⟩)
      · exact (fired_passed_iff.mp hfired).mono ht
      · exact .inr ⟨instant, List.mem_of_mem_filter hdue, hlt⟩
    · rintro (hfired | ⟨instant, hdue, hlt⟩)
      · exact .inl (fired_passed hfired now)
      · by_cases hpast : instant < now
        · exact .inl (fired_passed_iff.mpr (.inr ⟨instant, hdue, hpast⟩))
        · exact .inr ⟨instant, List.mem_filter.mpr ⟨hdue, decide_eq_true (Nat.not_lt.mp hpast)⟩,
            hlt⟩
  due_eq hfired := by
    refine List.filter_eq_self.mpr fun instant hdue => decide_eq_true (Nat.not_lt.mp fun hlt => ?_)
    rw [fired_passed_iff.mpr (.inr ⟨instant, hdue, hlt⟩)] at hfired
    contradiction

theorem current_passed (s : Shutdown) (now : ℕ) : (s.passed now).Current now :=
  fun _ _ hdue => of_decide_eq_true (List.mem_filter.mp hdue).2

/-- A stretch of time fires what is due in it. -/
theorem later_pass (s : Shutdown) (now length : ℕ) :
    Later s (s.pass now length) (now + length) := by
  unfold pass
  split
  · exact .refl s _
  · exact later_passed s _

theorem Current.pass (h : s.Current now) (length : ℕ) :
    (s.pass now length).Current (now + length) := by
  unfold Shutdown.pass
  split
  · next hzero => simpa [hzero] using h
  · exact current_passed s _

/-! ## waits -/

theorem nextDue?_eq_some_iff {deadline instant : ℕ} :
    s.nextDue? deadline = some instant ↔ s.due.min? = some instant ∧ instant < deadline := by
  simp only [nextDue?, List.min?_eq_some_iff, List.mem_filter, decide_eq_true_eq]
  constructor
  · rintro ⟨⟨hdue, hlt⟩, hmin⟩
    refine ⟨⟨hdue, fun d hd => ?_⟩, hlt⟩
    by_cases hd' : d < deadline
    · exact hmin d ⟨hd, hd'⟩
    · omega
  · rintro ⟨⟨hdue, hmin⟩, hlt⟩
    exact ⟨⟨hdue, hlt⟩, fun d hd => hmin d hd.1⟩

/-- A signal that fires between two instants has a first trigger to fire. -/
theorem FiredBy.exists_min?_due (h : s.FiredBy t) (hlive : ¬ s.FiredBy now) :
    ∃ instant, s.due.min? = some instant ∧ instant < t := by
  obtain hfired | ⟨d, hdue, hlt⟩ := h
  · exact absurd (.inl hfired) hlive
  · obtain ⟨instant, hmin⟩ : ∃ instant, s.due.min? = some instant :=
      Option.ne_none_iff_exists'.mp fun hnone =>
        List.ne_nil_of_mem hdue (List.min?_eq_none_iff.mp hnone)
    exact ⟨instant, hmin, ((List.min?_eq_some_iff.mp hmin).2 d hdue).trans_lt hlt⟩

/-- A wait for a signal that fires before the end of the wait ends with it. -/
theorem await_of_firedBy {length : ℕ} (hlive : ¬ s.FiredBy now) (h : s.FiredBy (now + length)) :
    ∃ instant s', s.await now length = (true, max now instant, s') ∧ s.due.min? = some instant ∧
      s'.fired = true ∧
      Follows s s' (max now instant) := by
  obtain ⟨instant, hmin, hlt⟩ := h.exists_min?_due hlive
  have hfired : s.fired = false := Bool.eq_false_iff.mpr fun hfired => hlive (.inl hfired)
  have hmem : instant ∈ s.due := (List.min?_eq_some_iff.mp hmin).1
  have hlength : length ≠ 0 := by
    rintro rfl
    exact hlive h
  have hnext : s.nextDue? (now + length) = some instant := nextDue?_eq_some_iff.mpr ⟨hmin, hlt⟩
  have hend : (s.passed (max now instant + 1)).fired = true :=
    fired_passed_iff.mpr (.inr ⟨instant, hmem, Nat.lt_succ_of_le (le_max_right ..)⟩)
  refine ⟨instant, _, ?_, hmin, hend, fun _ => .inl hend, (later_passed s _).firedBy_iff⟩
  simp [await, hfired, hlength, hnext]

/-- A wait for a signal that does not fire before the end of the wait. -/
theorem await_of_not_firedBy {length : ℕ} (h : ¬ s.FiredBy (now + length)) :
    s.await now length = (false, now + length, s) := by
  have hfired : s.fired = false := Bool.eq_false_iff.mpr fun hfired => h (.inl hfired)
  have hnext : s.nextDue? (now + length) = none := by
    refine Option.eq_none_iff_forall_ne_some.mpr fun instant hsome => h (.inr ⟨instant, ?_⟩)
    obtain ⟨hmin, hlt⟩ := nextDue?_eq_some_iff.mp hsome
    exact ⟨(List.min?_eq_some_iff.mp hmin).1, hlt⟩
  unfold await
  rw [hfired, hnext]
  by_cases hlength : length = 0
  · simp [hlength]
  · simp [hlength]

end Loyalty.Shutdown
