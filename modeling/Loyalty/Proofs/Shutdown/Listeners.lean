import Loyalty.Shutdown
import Loyalty.Shutdown.Wait
import Mathlib

/-!
# Loyalty.Proofs.Shutdown.Listeners

A signal among its trigger, its listeners and those who wait for it.

They act one at a time, in any order (`Step`): the trigger is fired or let go of,
listeners are cloned and dropped, waits begin at any listener, go on by one look
or one answer of the channel, and are given up.  `Sound` is what every such step
keeps.  It ties the channel to the signal of `Loyalty.Shutdown`, and what each
wait has seen to what has happened.

* `Step.sound` — every step keeps what holds;
* `Sound.isTriggered_eq` — every listener tells whether the signal fired;
* `Sound.await_iff` — a wait that is left alone ends just if `Shutdown.await` says so.
-/

namespace Loyalty

/-! ## channels -/

namespace Watch.Lawful

variable {α : Type} {w : Watch α} {c : w.Channel} {mark : w.Mark}

/-- A receiver is told that the channel is closed only after it has seen all that was sent. -/
theorem changed?_eq_closed (hw : w.Lawful) (h : w.changed? c mark = some .closed) :
    w.seen mark = (w.view c).sent ∧ (w.view c).hasSender = false := by
  have hseen : w.seen mark = (w.view c).sent := by
    by_contra hne
    obtain ⟨mark', hchanged, -⟩ := hw.changed_of_unseen c mark hne
    simp [hchanged] at h
  refine ⟨hseen, Bool.eq_false_iff.mpr fun hsender => ?_⟩
  simp [hw.waits_of_seen c mark hseen hsender] at h

end Watch.Lawful

namespace Shutdown

/-- The trigger is there, and fires the signal. -/
def live (s : Shutdown) : Bool := s.held && s.connected

@[simp] theorem live_trigger (s : Shutdown) : s.trigger.live = s.live := rfl

@[simp] theorem live_drop (s : Shutdown) : s.drop.live = false := rfl

@[simp] theorem fired_drop (s : Shutdown) : s.drop.fired = s.fired := rfl

theorem fired_trigger_of_live {s : Shutdown} (h : s.live = true) : s.trigger.fired = true := by
  simp_all [live, trigger]

/-! ## steps -/

/-- A signal, its channel, the listeners that there are and every wait that has begun. -/
structure State (w : Watch Bool) where
  signal : Shutdown
  channel : w.Channel
  clones : List w.Mark
  waits : List (Wait w.Mark)

/-- What can happen next. -/
inductive Act where
  | trigger
  | drop
  | clone (j : ℕ)
  | dropClone (j : ℕ)
  /-- A wait begins at a listener. -/
  | wait (j : ℕ)
  /-- A wait goes on. -/
  | go (k : ℕ)
  | giveUp (k : ℕ)
  | idle
  deriving DecidableEq

namespace State

/-- A signal and its first listener. -/
def channel₀ (w : Watch Bool) : State w :=
  { signal := .channel, channel := (listen w).1, clones := [(listen w).2], waits := [] }

/-- A signal that never fires and its first listener. -/
def never₀ (w : Watch Bool) : State w :=
  { signal := .never, channel := (listenNever w).1, clones := [(listenNever w).2], waits := [] }

variable {w : Watch Bool}

/-- A wait put at another place of its course; one that has ended drops its receiver. -/
def put (s : State w) (k : ℕ) (x : Wait w.Mark) : State w :=
  { s with
    channel := if x.isOpen then s.channel else w.dropReceiver s.channel,
    waits := s.waits.set k x }

/-- A wait has begun and has not ended. -/
def Pending (s : State w) (k : ℕ) : Prop := ∃ x, s.waits[k]? = some x ∧ x.isOpen = true

def Ended (s : State w) (k : ℕ) : Prop := s.waits[k]? = some .ended

end State

open State

variable {w : Watch Bool} {s s' : State w} {a : Act} {k : ℕ} {x x' : Wait w.Mark}

/-- One of those who share the signal acts. -/
inductive Step : State w → Act → State w → Prop
  | trigger {s : State w} (hlive : s.signal.live = true) :
      Step s .trigger { s with signal := s.signal.trigger, channel := w.send true s.channel }
  | drop {s : State w} (hlive : s.signal.live = true) :
      Step s .drop { s with signal := s.signal.drop, channel := w.dropSender s.channel }
  | clone {s : State w} {j : ℕ} {listener : w.Mark} (hj : s.clones[j]? = some listener) :
      Step s (.clone j)
        { s with
          channel := (w.clone s.channel listener).1
          clones := s.clones ++ [(w.clone s.channel listener).2] }
  | dropClone {s : State w} {j : ℕ} (hj : j < s.clones.length) :
      Step s (.dropClone j)
        { s with channel := w.dropReceiver s.channel, clones := s.clones.eraseIdx j }
  | wait {s : State w} {j : ℕ} {listener : w.Mark} (hj : s.clones[j]? = some listener) :
      Step s (.wait j)
        { s with
          channel := (w.clone s.channel listener).1
          waits := s.waits ++ [.looking (w.clone s.channel listener).2] }
  | go {s : State w} {k : ℕ} {x x' : Wait w.Mark} (hk : s.waits[k]? = some x)
      (hgo : x.step? w s.channel = some x') : Step s (.go k) (s.put k x')
  | giveUp {s : State w} {k : ℕ} {x : Wait w.Mark} (hk : s.waits[k]? = some x)
      (hopen : x.isOpen = true) :
      Step s (.giveUp k) (s.put k .givenUp)
  | idle {s : State w} : Step s .idle s

namespace Step

/-- The signal fires when the trigger does, and at no other step. -/
theorem fired_iff (h : Step s a s') :
    s'.signal.fired = true ↔ s.signal.fired = true ∨ a = .trigger := by
  cases h with
  | trigger hlive => simp [fired_trigger_of_live hlive]
  | drop hlive => simp
  | clone | dropClone | wait | go | giveUp | idle => simp [put]

/-- A trigger that was let go of does not come back. -/
theorem live_eq_false (h : Step s a s') (hlive : s.signal.live = false) :
    s'.signal.live = false := by
  cases h with
  | trigger | drop => simp [hlive]
  | clone | dropClone | wait | go | giveUp | idle => exact hlive

/-- A wait moves only by itself, or when it is given up. -/
theorem getElem?_waits (h : Step s a s') (hk : s.waits[k]? = some x) (hgo : a ≠ .go k)
    (hgiveUp : a ≠ .giveUp k) :
    s'.waits[k]? = some x := by
  have hlt : k < s.waits.length := (List.getElem?_eq_some_iff.mp hk).1
  cases h with
  | trigger | drop | clone | dropClone | idle => exact hk
  | wait hj => simpa [List.getElem?_append_left hlt] using hk
  | go =>
      have hne := fun heq => hgo (congrArg Act.go heq)
      simpa [put, List.getElem?_set_ne hne] using hk
  | giveUp =>
      have hne := fun heq => hgiveUp (congrArg Act.giveUp heq)
      simpa [put, List.getElem?_set_ne hne] using hk

end Step

/-! ## the invariant -/

/-- What a wait knows is true of the signal. -/
def Wait.Agrees (w : Watch Bool) (signal : Shutdown) : Wait w.Mark → Prop
  | .watching mark => w.seen mark = 0
  | .stuck => signal.live = false ∧ signal.fired = false
  | .ended => signal.fired = true
  | .looking _ | .givenUp => True

/-- What holds of a signal and its channel at any time. -/
structure Sound (s : State w) : Prop where
  due : s.signal.due = []
  hasSender : (w.view s.channel).hasSender = s.signal.live
  receivers : (w.view s.channel).receivers = s.clones.length + s.waits.countP Wait.isOpen
  value_iff : (w.view s.channel).value = true ↔ 0 < (w.view s.channel).sent
  fired_of_value : (w.view s.channel).value = true → s.signal.fired = true
  value_of_fired : s.signal.fired = true → 0 < (w.view s.channel).receivers →
    (w.view s.channel).value = true
  agrees : ∀ x ∈ s.waits, x.Agrees w s.signal

namespace Sound

theorem receivers_pos_of_mem_clones (h : Sound s) {listener : w.Mark} (hmem : listener ∈ s.clones) :
    0 < (w.view s.channel).receivers := by
  have hlength := List.length_pos_of_mem hmem
  have hreceivers := h.receivers
  omega

theorem receivers_pos_of_mem_waits (h : Sound s) (hmem : x ∈ s.waits) (hopen : x.isOpen = true) :
    0 < (w.view s.channel).receivers := by
  have hcount : 0 < s.waits.countP Wait.isOpen := List.countP_pos_iff.mpr ⟨x, hmem, hopen⟩
  have hreceivers := h.receivers
  omega

/-- While anyone listens, the value of the channel is whether the signal fired. -/
theorem value_eq (h : Sound s) (hpos : 0 < (w.view s.channel).receivers) :
    (w.view s.channel).value = s.signal.fired :=
  Bool.eq_iff_iff.mpr ⟨h.fired_of_value, fun hfired => h.value_of_fired hfired hpos⟩

/-- Every listener tells whether the signal fired. -/
theorem isTriggered_eq (hw : w.Lawful) (h : Sound s) {listener : w.Mark}
    (hmem : listener ∈ s.clones) :
    isTriggered w s.channel listener = s.signal.fired :=
  (hw.borrow_eq s.channel listener).trans (h.value_eq (h.receivers_pos_of_mem_clones hmem))

/-! ### where a signal starts -/

theorem channel₀ (hw : w.Lawful) : Sound (State.channel₀ w) := by
  have hview := hw.view_create false
  constructor <;> simp [State.channel₀, listen, hview, Shutdown.channel, live]

theorem never₀ (hw : w.Lawful) : Sound (State.never₀ w) := by
  have hview := hw.view_create false
  constructor <;> simp [State.never₀, listenNever, hw.view_dropSender, hview, Shutdown.never, live]

/-! ### what keeps it -/

/-- A wait that goes on was open, and what it knows then is true. -/
theorem step?_agrees (hw : w.Lawful) (h : Sound s) (hmem : x ∈ s.waits)
    (hgo : x.step? w s.channel = some x') :
    x.isOpen = true ∧ x'.Agrees w s.signal := by
  cases x with
  | looking mark =>
      refine ⟨rfl, ?_⟩
      simp only [Wait.step?, hw.update_fst] at hgo
      split at hgo
      next hvalue =>
        obtain rfl := Option.some.inj hgo
        exact h.fired_of_value hvalue
      next hvalue =>
        obtain rfl := Option.some.inj hgo
        have hsent : ¬ 0 < (w.view s.channel).sent := fun hpos => hvalue (h.value_iff.mpr hpos)
        exact (hw.seen_update s.channel mark).trans (Nat.eq_zero_of_not_pos hsent)
  | watching mark =>
      refine ⟨rfl, ?_⟩
      simp only [Wait.step?] at hgo
      split at hgo
      next mark' hchanged =>
        obtain rfl := Option.some.inj hgo
        trivial
      next hclosed =>
        obtain rfl := Option.some.inj hgo
        -- all that was sent has been seen, and that was nothing
        obtain ⟨hseen, hsender⟩ := hw.changed?_eq_closed hclosed
        have hzero : w.seen mark = 0 := h.agrees _ hmem
        have hvalue : ¬ (w.view s.channel).value = true := fun htrue => by
          have hpos := h.value_iff.mp htrue
          omega
        refine ⟨h.hasSender.symm.trans hsender, Bool.eq_false_iff.mpr fun hfired => hvalue ?_⟩
        exact h.value_of_fired hfired (h.receivers_pos_of_mem_waits hmem rfl)
      next => simp at hgo
  | stuck => simp [Wait.step?] at hgo
  | ended => simp [Wait.step?] at hgo
  | givenUp => simp [Wait.step?] at hgo

theorem trigger (hw : w.Lawful) (h : Sound s) (hlive : s.signal.live = true) :
    Sound { s with signal := s.signal.trigger, channel := w.send true s.channel } := by
  have hfired := fired_trigger_of_live hlive
  have hagrees : ∀ x ∈ s.waits, x.Agrees w s.signal.trigger := by
    intro x hx
    have hx' := h.agrees x hx
    cases x with
    | looking | givenUp => trivial
    | watching mark => exact hx'
    | stuck => simp [Wait.Agrees, hlive] at hx'
    | ended => exact hfired
  rcases Nat.eq_zero_or_pos (w.view s.channel).receivers with hnone | hpos
  · have hview := hw.view_send_alone true s.channel hnone
    exact
      { due := h.due
        hasSender := by rw [hview]; exact h.hasSender
        receivers := by rw [hview]; exact h.receivers
        value_iff := by rw [hview]; exact h.value_iff
        fired_of_value := fun _ => hfired
        value_of_fired := fun _ hpos => by
          rw [hview, hnone] at hpos
          exact absurd hpos (Nat.lt_irrefl 0)
        agrees := hagrees }
  · have hview := hw.view_send true s.channel hpos
    exact
      { due := h.due
        hasSender := by rw [hview]; exact h.hasSender
        receivers := by rw [hview]; exact h.receivers
        value_iff := by simp [hview]
        fired_of_value := fun _ => hfired
        value_of_fired := fun _ _ => by rw [hview]
        agrees := hagrees }

theorem drop (hw : w.Lawful) (h : Sound s) (hlive : s.signal.live = true) :
    Sound { s with signal := s.signal.drop, channel := w.dropSender s.channel } where
  due := h.due
  hasSender := by simp [hw.view_dropSender]
  receivers := by simpa only [hw.view_dropSender] using h.receivers
  value_iff := by simpa only [hw.view_dropSender] using h.value_iff
  fired_of_value := by simpa only [hw.view_dropSender, fired_drop] using h.fired_of_value
  value_of_fired := by simpa only [hw.view_dropSender, fired_drop] using h.value_of_fired
  agrees x hx := by
    have hx' := h.agrees x hx
    cases x with
    | looking | givenUp => trivial
    | watching | ended => exact hx'
    | stuck => simp [Wait.Agrees, hlive] at hx'

/-- Receivers that come and go leave the rest as it is, as long as they come from others. -/
theorem of_view (h : Sound s) {c : w.Channel} {clones : List w.Mark} {waits : List (Wait w.Mark)}
    {n : ℕ} (hview : w.view c = { w.view s.channel with receivers := n })
    (hn : n = clones.length + waits.countP Wait.isOpen)
    (hpos : 0 < n → 0 < (w.view s.channel).receivers) (hagrees : ∀ x ∈ waits, x.Agrees w s.signal) :
    Sound { s with channel := c, clones, waits } where
  due := h.due
  hasSender := by simpa only [hview] using h.hasSender
  receivers := by simpa only [hview] using hn
  value_iff := by simpa only [hview] using h.value_iff
  fired_of_value := by simpa only [hview] using h.fired_of_value
  value_of_fired hfired hn' := by
    simp only [hview] at hn' ⊢
    exact h.value_of_fired hfired (hpos hn')
  agrees := hagrees

theorem clone (hw : w.Lawful) (h : Sound s) {listener : w.Mark} (hmem : listener ∈ s.clones) :
    Sound
      { s with
        channel := (w.clone s.channel listener).1
        clones := s.clones ++ [(w.clone s.channel listener).2] } := by
  refine h.of_view (hw.view_clone s.channel listener) ?_
    (fun _ => h.receivers_pos_of_mem_clones hmem) h.agrees
  have hreceivers := h.receivers
  simp only [List.length_append, List.length_singleton]
  omega

theorem dropClone (hw : w.Lawful) (h : Sound s) {j : ℕ} (hj : j < s.clones.length) :
    Sound { s with channel := w.dropReceiver s.channel, clones := s.clones.eraseIdx j } := by
  have hreceivers := h.receivers
  refine h.of_view (hw.view_dropReceiver s.channel) ?_ (fun _ => by omega) h.agrees
  have hlength := List.length_eraseIdx_of_lt hj
  omega

theorem wait (hw : w.Lawful) (h : Sound s) {listener : w.Mark} (hmem : listener ∈ s.clones) :
    Sound
      { s with
        channel := (w.clone s.channel listener).1
        waits := s.waits ++ [.looking (w.clone s.channel listener).2] } := by
  refine h.of_view (hw.view_clone s.channel listener) ?_
    (fun _ => h.receivers_pos_of_mem_clones hmem) ?_
  · have hreceivers := h.receivers
    simp only [List.countP_append, List.countP_singleton, Wait.isOpen, if_true]
    omega
  · exact List.forall_mem_append.mpr ⟨h.agrees, List.forall_mem_singleton.mpr trivial⟩

theorem put (hw : w.Lawful) (h : Sound s) (hk : s.waits[k]? = some x) (hopen : x.isOpen = true)
    (hx' : x'.Agrees w s.signal) : Sound (s.put k x') := by
  obtain ⟨hlt, hget⟩ := List.getElem?_eq_some_iff.mp hk
  have hpos := h.receivers_pos_of_mem_waits (List.mem_of_getElem? hk) hopen
  have hcount : 0 < s.waits.countP Wait.isOpen :=
    List.countP_pos_iff.mpr ⟨x, List.mem_of_getElem? hk, hopen⟩
  have hcount' :
      (s.waits.set k x').countP Wait.isOpen =
        s.waits.countP Wait.isOpen - 1 + if x'.isOpen then 1 else 0 := by
    rw [List.countP_set hlt, hget, if_pos hopen]
  have hreceivers := h.receivers
  have hview :
      w.view (s.put k x').channel =
        { w.view s.channel with
          receivers := s.clones.length + (s.waits.set k x').countP Wait.isOpen } := by
    rw [hcount']
    cases hx : x'.isOpen with
    | true =>
        have hsame : (w.view s.channel).receivers =
            s.clones.length + (s.waits.countP Wait.isOpen - 1 + 1) := by omega
        simp [State.put, hx, ← hsame]
    | false =>
        have hless : (w.view s.channel).receivers - 1 =
            s.clones.length + (s.waits.countP Wait.isOpen - 1) := by omega
        simp [State.put, hx, hw.view_dropReceiver, hless]
  refine h.of_view hview rfl (fun _ => hpos) fun y hy => ?_
  rcases List.mem_or_eq_of_mem_set hy with hold | rfl
  · exact h.agrees y hold
  · exact hx'

end Sound

/-- Every step keeps what holds. -/
theorem Step.sound (hw : w.Lawful) (h : Step s a s') (hs : Sound s) : Sound s' := by
  cases h with
  | trigger hlive => exact hs.trigger hw hlive
  | drop hlive => exact hs.drop hw hlive
  | clone hj => exact hs.clone hw (List.mem_of_getElem? hj)
  | dropClone hj => exact hs.dropClone hw hj
  | wait hj => exact hs.wait hw (List.mem_of_getElem? hj)
  | go hk hgo =>
      obtain ⟨hopen, hagrees⟩ := hs.step?_agrees hw (List.mem_of_getElem? hk) hgo
      exact hs.put hw hk hopen hagrees
  | giveUp hk hopen => exact hs.put hw hk hopen trivial
  | idle => exact hs

/-! ## waits by themselves -/

namespace Wait

/-- A wait after so many steps of its own. -/
def alone (w : Watch Bool) (c : w.Channel) (n : ℕ) : Wait w.Mark → Wait w.Mark :=
  (fun x => (x.step? w c).getD x)^[n]

variable {c : w.Channel} {mark : w.Mark}

theorem step?_looking (hw : w.Lawful) (hvalue : (w.view c).value = true) :
    (looking mark).step? w c = some .ended := by
  simp [step?, hw.update_fst, hvalue]

theorem isOpen_or_eq_ended (h : x.step? w c = some x') : x'.isOpen = true ∨ x' = .ended := by
  cases x with
  | looking mark =>
      simp only [step?] at h
      split at h
      next => exact .inr (Option.some.inj h).symm
      next => exact .inl (Option.some.inj h ▸ rfl)
  | watching mark =>
      simp only [step?] at h
      split at h
      next => exact .inl (Option.some.inj h ▸ rfl)
      next => exact .inl (Option.some.inj h ▸ rfl)
      next => simp at h
  | stuck | ended | givenUp => simp [step?] at h

/-- Only a look at a signal that fired ends a wait. -/
theorem step?_ne_ended (hw : w.Lawful) (hvalue : (w.view c).value = false) :
    x.step? w c ≠ some .ended := by
  cases x with
  | looking mark => simp [step?, hw.update_fst, hvalue]
  | watching mark =>
      simp only [step?]
      split <;> simp
  | stuck | ended | givenUp => simp [step?]

theorem alone_ne_ended (hw : w.Lawful) (hvalue : (w.view c).value = false) (hx : x ≠ .ended)
    (n : ℕ) :
    alone w c n x ≠ .ended := by
  induction n generalizing x with
  | zero => exact hx
  | succ n ih =>
      refine ih (x := (x.step? w c).getD x) ?_
      cases hstep : x.step? w c with
      | none => exact hx
      | some x' => exact fun heq => step?_ne_ended hw hvalue (hstep.trans (congrArg some heq))

end Wait

namespace Sound

/-- A wait for another value is told of the one that fired the signal. -/
theorem step?_watching (hw : w.Lawful) (h : Sound s) {mark : w.Mark}
    (hmem : .watching mark ∈ s.waits) (hvalue : (w.view s.channel).value = true) :
    ∃ mark', (Wait.watching mark).step? w s.channel = some (.looking mark') := by
  have hzero : w.seen mark = 0 := h.agrees _ hmem
  have hsent := h.value_iff.mp hvalue
  obtain ⟨mark', hchanged, -⟩ := hw.changed_of_unseen s.channel mark (by omega)
  exact ⟨mark', by simp [Wait.step?, hchanged]⟩

theorem await_fst (h : Sound s) (now length : ℕ) :
    (s.signal.await now length).1 = s.signal.fired := by
  cases hfired : s.signal.fired with
  | true => simp [await, hfired]
  | false =>
      have hnone : s.signal.nextDue? (now + length) = none := by simp [nextDue?, h.due]
      by_cases hlength : length = 0
      · simp [await, hfired, hlength]
      · simp [await, hfired, hlength, hnone]

/-- A wait that is left alone ends just if the signal that stands by the clock says that it does. -/
theorem await_iff (hw : w.Lawful) (h : Sound s) (hmem : x ∈ s.waits) (hopen : x.isOpen = true)
    (now length : ℕ) :
    (s.signal.await now length).1 = true ↔ ∃ n, x.alone w s.channel n = .ended := by
  have hvalue := h.value_eq (h.receivers_pos_of_mem_waits hmem hopen)
  rw [h.await_fst, ← hvalue]
  constructor
  · intro htrue
    have hlooking : ∀ mark : w.Mark, (Wait.looking mark).step? w s.channel = some .ended :=
      fun _ => Wait.step?_looking hw htrue
    cases x with
    | looking mark => exact ⟨1, by simp [Wait.alone, hlooking]⟩
    | watching mark =>
        obtain ⟨mark', hwatching⟩ := h.step?_watching hw hmem htrue
        exact ⟨2, by simp [Wait.alone, hwatching, hlooking]⟩
    | stuck =>
        obtain ⟨-, hfired⟩ := h.agrees _ hmem
        simp [hvalue, hfired] at htrue
    | ended => simp [Wait.isOpen] at hopen
    | givenUp => simp [Wait.isOpen] at hopen
  · rintro ⟨n, hended⟩
    by_contra hfalse
    have hx : x ≠ .ended := by
      rintro rfl
      simp [Wait.isOpen] at hopen
    exact Wait.alone_ne_ended hw (Bool.eq_false_iff.mpr hfalse) hx n hended

end Sound

end Shutdown

end Loyalty
