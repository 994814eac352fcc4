import Loyalty.Proofs.Shutdown.Listeners

/-!
# Loyalty.Proofs.Shutdown.Runs

The signal is never lost and never spurious.

A run goes on for ever, by steps of those who share a signal in any order; one
that comes to an end idles.  Nothing is asked of it but that a wait which can go
on, and always could from some time on, goes on at last (`Run.Fair`), and even that
only where a wait has to end.

A wait that is pending when the signal has fired is about to look, and then ends,
or waits for another value, and then is told of one and looks again.  It cannot be
stuck: that it would be only if the trigger had been let go of unfired.

* `Run.fired_iff` — the signal has fired just if its trigger was;
* `Run.exists_ended` — once the signal has fired, pending waits end;
* `Run.never_lost_never_spurious` — both ways, for all listeners and all waits.
-/

namespace Loyalty.Shutdown

open State

variable {w : Watch Bool}

namespace Step

variable {s s' : State w} {a : Act} {k : ℕ} {x : Wait w.Mark}

theorem live_of_trigger (h : Step s .trigger s') : s.signal.live = true := by
  cases h with
  | trigger hlive => exact hlive

theorem live_of_drop (h : Step s .drop s') : s'.signal.live = false := by
  cases h with
  | drop => rfl

/-- A wait that goes on does what is next for it. -/
theorem of_go (h : Step s (.go k) s') (hk : s.waits[k]? = some x) :
    ∃ x', x.step? w s.channel = some x' ∧ s'.waits[k]? = some x' := by
  cases h with
  | @go _ _ x' hk' hgo =>
      obtain rfl := Option.some.inj (hk'.symm.trans hk)
      have hlt : k < s.waits.length := (List.getElem?_eq_some_iff.mp hk).1
      exact ⟨x', hgo, by simp [put, hlt]⟩

/-- A pending wait stays pending until it ends or is given up. -/
theorem pending_or_ended (h : Step s a s') (hpending : s.Pending k) (hkept : a ≠ .giveUp k) :
    s'.Pending k ∨ s'.Ended k := by
  obtain ⟨x, hk, hopen⟩ := hpending
  by_cases hgo : a = .go k
  · subst hgo
    obtain ⟨x', hstep, hk'⟩ := h.of_go hk
    rcases Wait.isOpen_or_eq_ended hstep with hopen' | rfl
    · exact .inl ⟨x', hk', hopen'⟩
    · exact .inr hk'
  · exact .inl ⟨x, h.getElem?_waits hk hgo hkept, hopen⟩

end Step

/-! ## runs -/

/-- What happens to a signal, for ever. -/
structure Run (w : Watch Bool) where
  state : ℕ → State w
  act : ℕ → Act
  starts : state 0 = channel₀ w ∨ state 0 = never₀ w
  step : ∀ n, Step (state n) (act n) (state (n + 1))

namespace Run

variable (r : Run w) {k l m n : ℕ} {x : Wait w.Mark}

/-- The trigger was fired by then. -/
def FiredBefore (n : ℕ) : Prop := ∃ m < n, r.act m = .trigger

/-- A wait that can go on from some time on is not passed over for ever. -/
def Fair (k : ℕ) : Prop :=
  ∀ n, (∀ m ≥ n, ∃ s', Step (r.state m) (.go k) s') → ∃ m ≥ n, r.act m = .go k

/-- A wait is not given up from then on. -/
def Kept (k n : ℕ) : Prop := ∀ m ≥ n, r.act m ≠ .giveUp k

variable {r}

theorem FiredBefore.mono (h : r.FiredBefore n) (hle : n ≤ m) : r.FiredBefore m := by
  obtain ⟨l, hlt, htrigger⟩ := h
  exact ⟨l, hlt.trans_le hle, htrigger⟩

theorem Kept.mono (h : r.Kept k n) (hle : n ≤ m) : r.Kept k m := fun l hl => h l (hle.trans hl)

/-! ### what is so at any time -/

theorem sound (hw : w.Lawful) (r : Run w) (n : ℕ) : Sound (r.state n) := by
  induction n with
  | zero =>
      rcases r.starts with hstart | hstart
      · exact hstart ▸ Sound.channel₀ hw
      · exact hstart ▸ Sound.never₀ hw
  | succ n ih => exact (r.step n).sound hw ih

/-- The signal has fired just if its trigger was. -/
theorem fired_iff (r : Run w) (n : ℕ) : (r.state n).signal.fired = true ↔ r.FiredBefore n := by
  induction n with
  | zero => rcases r.starts with hstart | hstart <;>
      simp [hstart, FiredBefore, channel₀, never₀, channel, never]
  | succ n ih => simp only [(r.step n).fired_iff, ih, FiredBefore, Nat.exists_lt_succ_right]

theorem isTriggered_iff (hw : w.Lawful) (r : Run w) {listener : w.Mark}
    (hmem : listener ∈ (r.state n).clones) :
    isTriggered w (r.state n).channel listener = true ↔ r.FiredBefore n := by
  rw [(r.sound hw n).isTriggered_eq hw hmem, r.fired_iff n]

/-- No wait ends before the signal fires. -/
theorem firedBefore_of_ended (hw : w.Lawful) (h : (r.state n).Ended k) : r.FiredBefore n :=
  (r.fired_iff n).mp ((r.sound hw n).agrees _ (List.mem_of_getElem? h))

/-- Once the trigger was let go of it is not fired. -/
theorem act_ne_trigger (hlive : (r.state n).signal.live = false) (hle : n ≤ m) :
    r.act m ≠ .trigger := by
  have hlive' : (r.state m).signal.live = false := by
    induction m, hle using Nat.le_induction with
    | base => exact hlive
    | succ m _ ih => exact (r.step m).live_eq_false ih
  intro htrigger
  have hstep := r.step m
  rw [htrigger] at hstep
  exact Bool.false_ne_true (hlive'.symm.trans hstep.live_of_trigger)

/-- A signal whose trigger was let go of unfired does not fire. -/
theorem not_firedBefore (h : r.state 0 = never₀ w ∨ ∃ m, r.act m = .drop ∧ ¬ r.FiredBefore m)
    (n : ℕ) :
    ¬ r.FiredBefore n := by
  rintro ⟨l, hlt, htrigger⟩
  rcases h with hstart | ⟨m, hdrop, hunfired⟩
  · exact act_ne_trigger (n := 0) (by rw [hstart]; rfl) (Nat.zero_le l) htrigger
  · have hstep := r.step m
    rw [hdrop] at hstep
    rcases Nat.lt_trichotomy l m with hbefore | rfl | hafter
    · exact hunfired ⟨l, hbefore, htrigger⟩
    · simp [hdrop] at htrigger
    · exact act_ne_trigger hstep.live_of_drop hafter htrigger

/-! ### waits in a run -/

/-- A wait that does not end stays pending. -/
theorem pending_of_not_ended (hpending : (r.state n).Pending k) (hkept : r.Kept k n)
    (hended : ∀ m > n, ¬ (r.state m).Ended k) (hle : n ≤ m) : (r.state m).Pending k := by
  induction m, hle using Nat.le_induction with
  | base => exact hpending
  | succ m hle ih =>
      exact ((r.step m).pending_or_ended ih (hkept m hle)).resolve_right (hended (m + 1) (by omega))

/-- A wait that can go on for as long as it stays where it is comes to the place that is next. -/
theorem Fair.exists_next (hfair : r.Fair k) (hkept : r.Kept k n) {P : Wait w.Mark → Prop}
    (hk : (r.state n).waits[k]? = some x)
    (hnext : ∀ m ≥ n, (r.state m).waits[k]? = some x →
      ∃ x', x.step? w (r.state m).channel = some x' ∧ P x') :
    ∃ m > n, ∃ x', (r.state m).waits[k]? = some x' ∧ P x' := by
  have hgoes : ∃ m ≥ n, (r.state m).waits[k]? = some x ∧ r.act m = .go k := by
    -- otherwise it would stay where it is, and could go on, for ever
    by_contra hnone
    push Not at hnone
    have hstays : ∀ m ≥ n, (r.state m).waits[k]? = some x := by
      intro m hle
      induction m, hle using Nat.le_induction with
      | base => exact hk
      | succ m hle ih => exact (r.step m).getElem?_waits ih (hnone m hle ih) (hkept m hle)
    have hcan : ∀ m ≥ n, ∃ s', Step (r.state m) (.go k) s' := by
      intro m hle
      obtain ⟨x', hstep, -⟩ := hnext m hle (hstays m hle)
      exact ⟨_, .go (hstays m hle) hstep⟩
    obtain ⟨m, hle, hgo⟩ := hfair n hcan
    exact hnone m hle (hstays m hle) hgo
  obtain ⟨m, hle, hk', hgo⟩ := hgoes
  have hstep := r.step m
  rw [hgo] at hstep
  obtain ⟨x', hmove, hk''⟩ := hstep.of_go hk'
  obtain ⟨y, hmove', hy⟩ := hnext m hle hk'
  obtain rfl := Option.some.inj (hmove.symm.trans hmove')
  exact ⟨m + 1, by omega, x', hk'', hy⟩

section

variable (hw : w.Lawful) (hfired : r.FiredBefore n)

include hw hfired

/-- Who waits after the signal fired finds its value. -/
theorem value_of_waits (hopen : x.isOpen = true) (hle : n ≤ m)
    (hk : (r.state m).waits[k]? = some x) :
    (w.view (r.state m).channel).value = true :=
  have hsound := r.sound hw m
  hsound.value_of_fired ((r.fired_iff m).mpr (hfired.mono hle))
    (hsound.receivers_pos_of_mem_waits (List.mem_of_getElem? hk) hopen)

theorem exists_ended_of_looking (hfair : r.Fair k) (hkept : r.Kept k n) {mark : w.Mark}
    (hk : (r.state n).waits[k]? = some (.looking mark)) : ∃ m > n, (r.state m).Ended k := by
  obtain ⟨m, hlt, x', hk', rfl⟩ := hfair.exists_next hkept (P := (· = .ended)) hk
      fun m hle hlooking =>
    ⟨_, Wait.step?_looking hw (value_of_waits hw hfired rfl hle hlooking), rfl⟩
  exact ⟨m, hlt, hk'⟩

/-- Once the signal has fired, a pending wait ends. -/
theorem exists_ended (hfair : r.Fair k) (hkept : r.Kept k n) (hpending : (r.state n).Pending k) :
    ∃ m > n, (r.state m).Ended k := by
  obtain ⟨x, hk, hopen⟩ := hpending
  cases x with
  | looking mark => exact exists_ended_of_looking hw hfired hfair hkept hk
  | watching mark =>
      have hlooks : ∀ m ≥ n, (r.state m).waits[k]? = some (.watching mark) →
          ∃ x', (Wait.watching mark).step? w (r.state m).channel = some x' ∧
            ∃ mark', x' = .looking mark' := by
        intro m hle hwatching
        obtain ⟨mark', hstep⟩ := (r.sound hw m).step?_watching hw (List.mem_of_getElem? hwatching)
          (value_of_waits hw hfired rfl hle hwatching)
        exact ⟨_, hstep, mark', rfl⟩
      obtain ⟨m, hlt, x', hk', mark', rfl⟩ := hfair.exists_next hkept hk hlooks
      have hle : n ≤ m := Nat.le_of_lt hlt
      obtain ⟨l, hlt', hended⟩ :=
        exists_ended_of_looking hw (hfired.mono hle) hfair (hkept.mono hle) hk'
      exact ⟨l, hlt.trans hlt', hended⟩
  | stuck =>
      obtain ⟨-, hunfired⟩ := (r.sound hw n).agrees _ (List.mem_of_getElem? hk)
      exact absurd ((r.fired_iff n).mpr hfired) (Bool.eq_false_iff.mp hunfired)
  | ended => simp [Wait.isOpen] at hopen
  | givenUp => simp [Wait.isOpen] at hopen

end

/-- A pending wait ends just if the trigger was fired or is fired later. -/
theorem exists_ended_iff (hw : w.Lawful) (hfair : r.Fair k) (hkept : r.Kept k n)
    (hpending : (r.state n).Pending k) :
    (∃ m > n, (r.state m).Ended k) ↔ ∃ m, r.act m = .trigger := by
  constructor
  · rintro ⟨m, -, hended⟩
    obtain ⟨l, -, htrigger⟩ := firedBefore_of_ended hw hended
    exact ⟨l, htrigger⟩
  · rintro ⟨l, htrigger⟩
    by_contra hnone
    push Not at hnone
    have hle : n ≤ max n (l + 1) := Nat.le_max_left ..
    have hpending' := pending_of_not_ended hpending hkept hnone hle
    have hfired : r.FiredBefore (max n (l + 1)) := ⟨l, by omega, htrigger⟩
    obtain ⟨m, hlt, hended⟩ := exists_ended hw hfired hfair (hkept.mono hle) hpending'
    exact hnone m (hle.trans_lt hlt) hended

/-- The signal is never lost and never spurious.  At any time every listener tells whether the
trigger was fired, and what was fired stays so.  A pending wait that is not given up or passed over
ends just if the trigger was fired or is fired later, even if it is let go of before the wait goes
on; and no wait ends before it is fired.  On a signal that never fires, or whose trigger was let go
of unfired, a pending wait stays so until it is given up.  And whether a wait that is left alone
comes to its end is what `Shutdown.await` tells. -/
theorem never_lost_never_spurious (hw : w.Lawful) (r : Run w) :
    (∀ n, ∀ listener ∈ (r.state n).clones,
      isTriggered w (r.state n).channel listener = (r.state n).signal.fired ∧
        (isTriggered w (r.state n).channel listener = true ↔ r.FiredBefore n)) ∧
    (∀ n m, n ≤ m →
      ∀ listener ∈ (r.state n).clones, isTriggered w (r.state n).channel listener = true →
      ∀ listener' ∈ (r.state m).clones, isTriggered w (r.state m).channel listener' = true) ∧
    (∀ k n, (r.state n).Pending k → r.Fair k → r.Kept k n →
      ((∃ m > n, (r.state m).Ended k) ↔ ∃ m, r.act m = .trigger)) ∧
    (∀ k n, (r.state n).Ended k → r.FiredBefore n) ∧
    ((r.state 0 = never₀ w ∨ ∃ m, r.act m = .drop ∧ ¬ r.FiredBefore m) →
      ∀ k n, (r.state n).Pending k → r.Kept k n → ∀ m ≥ n, (r.state m).Pending k) ∧
    (∀ (k n : ℕ) (x : Wait w.Mark), (r.state n).waits[k]? = some x → x.isOpen = true → ∀ now length,
      ((r.state n).signal.await now length).1 = true ↔
        ∃ l, x.alone w (r.state n).channel l = .ended) := by
  refine ⟨fun n listener hmem => ⟨(r.sound hw n).isTriggered_eq hw hmem, isTriggered_iff hw r hmem⟩,
    ?_,
    fun k n hpending hfair hkept => exists_ended_iff hw hfair hkept hpending,
    fun k n hended => firedBefore_of_ended hw hended, ?_,
    fun k n x hk hopen now length =>
      (r.sound hw n).await_iff hw (List.mem_of_getElem? hk) hopen now length⟩
  · intro n m hle listener hmem htriggered listener' hmem'
    exact (isTriggered_iff hw r hmem').mpr (((isTriggered_iff hw r hmem).mp htriggered).mono hle)
  · intro hnever k n hpending hkept m hle
    exact pending_of_not_ended hpending hkept
      (fun l _ hended => not_firedBefore hnever l (firedBefore_of_ended hw hended)) hle

/-- A signal with one listener, and the one wait that begins at it. -/
def scene (signal : Shutdown) (channel : Watch.View Bool) (waits : List (Wait ℕ)) :
    State (Watch.counting Bool) :=
  { signal, channel, clones := [(0 : ℕ)], waits }

theorem go_scene (signal : Shutdown) (channel : Watch.View Bool) (x x' : Wait ℕ)
    (hgo : x.step? (Watch.counting Bool) channel = some x') :
    Step (scene signal channel [x]) (.go 0) ((scene signal channel [x]).put 0 x') := .go rfl hgo

/-- A trigger that is fired while a wait is pending, and let go of before the wait goes on. -/
def firedThenDropped : Run (Watch.counting Bool) where
  state n :=
    [scene .channel ⟨false, 0, true, 1⟩ [],
      scene .channel ⟨false, 0, true, 2⟩ [.looking 0],
      scene .channel ⟨false, 0, true, 2⟩ [.watching 0],
      scene channel.trigger ⟨true, 1, true, 2⟩ [.watching 0],
      scene channel.trigger.drop ⟨true, 1, false, 2⟩ [.watching 0],
      scene channel.trigger.drop ⟨true, 1, false, 2⟩ [.looking 1]].getD n
      (scene channel.trigger.drop ⟨true, 1, false, 1⟩ [.ended])
  act n := [.wait 0, .go 0, .trigger, .drop, .go 0, .go 0].getD n .idle
  starts := .inl rfl
  step n := by
    rcases n with _ | _ | _ | _ | _ | _ | n
    · exact @Step.wait _ (scene .channel ⟨false, 0, true, 1⟩ []) 0 (0 : ℕ) rfl
    · exact go_scene .channel ⟨false, 0, true, 2⟩ (.looking 0) (.watching 0) rfl
    · exact .trigger rfl
    · exact .drop rfl
    · exact go_scene channel.trigger.drop ⟨true, 1, false, 2⟩ (.watching 0) (.looking 1) rfl
    · exact go_scene channel.trigger.drop ⟨true, 1, false, 2⟩ (.looking 1) .ended rfl
    · exact .idle

theorem fair_firedThenDropped : firedThenDropped.Fair 0 := by
  intro n hcan
  obtain ⟨s', hstep⟩ := hcan (n + 6) (by omega)
  obtain ⟨x', hnext, -⟩ := hstep.of_go (x := .ended) rfl
  simp [Wait.step?] at hnext

theorem never_lost_firedThenDropped :
    (Watch.counting Bool).Lawful ∧ firedThenDropped.act 2 = .trigger ∧
      firedThenDropped.act 3 = .drop ∧
      (firedThenDropped.state 4).Pending 0 ∧ ∃ m > 4, (firedThenDropped.state m).Ended 0 := by
  have hpending : (firedThenDropped.state 4).Pending 0 := ⟨.watching (0 : ℕ), rfl, rfl⟩
  have hkept : firedThenDropped.Kept 0 4 := by
    intro m hle
    rcases m with _ | _ | _ | _ | _ | _ | m
    all_goals simp [firedThenDropped]
  have hends :=
    (never_lost_never_spurious Watch.counting_lawful firedThenDropped).2.2.1 0 4 hpending
    fair_firedThenDropped hkept
  exact ⟨Watch.counting_lawful, rfl, rfl, hpending, hends.mpr ⟨2, rfl⟩⟩

end Run

end Loyalty.Shutdown
