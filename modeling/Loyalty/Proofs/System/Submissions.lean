import Loyalty.Proofs.Memory.Numbers
import Loyalty.Proofs.System.Basic

/-!
# Loyalty.Proofs.System.Submissions

How a submission goes, whatever happens to the stores between its calls.

A submission is two calls with a window between them: it asks the stores for a
new order, and when the number is taken it looks up whose it is.  Between the
two anything may happen, but a number that has an order keeps it, so the look
finds the order that was in the way (`Stands.looking`).  Where a submission
ends, its end says who owns the number in every state from then on (`Verdict`).
-/

namespace Loyalty.System

open Accrual Store Store.Memory

/-! ## how submissions end -/

/-- What the submission of a text by a user came to, as stores see it that may know more by now. -/
inductive Verdict (m : Memory.State) (u : UserId) (raw : String) :
    Except ServiceError Submission → Prop
  | blank (hblank : Text.isBlankText raw = true) :
      Verdict m u raw (.error (.domain (.validation "order number is required")))
  | malformed (hblank : Text.isBlankText raw = false) (hparse : OrderNumber.parse? raw = none) :
      Verdict m u raw (.error (.domain (.invalidOrderNumber (Text.trim raw))))
  | accepted {n : OrderNumber} {o o' : Order} (hparse : OrderNumber.parse? raw = some n)
      (ho : m.order? n = some o) (huser : o.userId = u) (hsame : o'.Same o) :
      Verdict m u raw (.ok (.accepted o'))
  | already {n : OrderNumber} {o o' : Order} (hparse : OrderNumber.parse? raw = some n)
      (ho : m.order? n = some o) (huser : o.userId = u) (hsame : o'.Same o) :
      Verdict m u raw (.ok (.already o'))
  | conflict {n : OrderNumber} {o : Order} (hparse : OrderNumber.parse? raw = some n)
      (ho : m.order? n = some o) (huser : o.userId ≠ u) :
      Verdict m u raw (.error (.domain (.conflict "order number belongs to another user")))

/-- How far the submission of a text by a user has come. -/
inductive Stands (m : Memory.State) (u : UserId) (raw : String) : UseCase Submission → Prop
  | begun {n : OrderNumber} (hparse : OrderNumber.parse? raw = some n) :
      Stands m u raw (.ask (.store (.createOrder u n)) (Orders.filed u n))
  /-- The number has an order already, and whose it is is to be looked up. -/
  | looking {n : OrderNumber} {o : Order} (hparse : OrderNumber.parse? raw = some n)
      (ho : m.order? n = some o) :
      Stands m u raw (UseCase.call (.findByNumber n) (Orders.resubmitted u))
  | ended {r : Except ServiceError Submission} (h : Verdict m u raw r) : Stands m u raw (.done r)

/-- An order came under a number that had none. -/
structure Creates (m : Memory.State) (o : Order) (m' : Memory.State) : Prop where
  fresh : m.order? o.number = none
  orders : m'.orders = m.orders ++ [o]
  order? : ∀ n, m'.order? n = if n = o.number then some o else m.order? n

/-- Every order is still there, whatever is known of it by now. -/
def Persists (m m' : Memory.State) : Prop :=
  ∀ ⦃n o⦄, m.order? n = some o → ∃ o', m'.order? n = some o' ∧ o.Same o'

section

variable {m m' : Memory.State} {u : UserId} {raw : String}

theorem Creates.persists {o : Order} (h : Creates m o m') : Persists m m' := by
  intro n o' ho'
  have hn : n ≠ o.number := by
    rintro rfl
    rw [h.fresh] at ho'
    cases ho'
  have horder := h.order? n
  rw [if_neg hn] at horder
  exact ⟨o', horder.trans ho', .refl o'⟩

theorem Verdict.mono {r : Except ServiceError Submission} (h : Verdict m u raw r)
    (hm : Persists m m') :
    Verdict m' u raw r := by
  cases h with
  | blank hblank => exact .blank hblank
  | malformed hblank hparse => exact .malformed hblank hparse
  | accepted hparse ho huser hsame =>
      obtain ⟨o', ho', hsame'⟩ := hm ho
      exact .accepted hparse ho' (hsame'.userId.trans huser) (hsame.trans hsame')
  | already hparse ho huser hsame =>
      obtain ⟨o', ho', hsame'⟩ := hm ho
      exact .already hparse ho' (hsame'.userId.trans huser) (hsame.trans hsame')
  | conflict hparse ho huser =>
      obtain ⟨o', ho', hsame'⟩ := hm ho
      exact .conflict hparse ho' (by rw [hsame'.userId]; exact huser)

theorem Stands.mono {rest : UseCase Submission} (h : Stands m u raw rest) (hm : Persists m m') :
    Stands m' u raw rest := by
  cases h with
  | begun hparse => exact .begun hparse
  | looking hparse ho =>
      obtain ⟨o', ho', -⟩ := hm ho
      exact .looking hparse ho'
  | ended hverdict => exact .ended (hverdict.mono hm)

/-- A submission that has not asked anything yet is refused, or is about to ask for an order. -/
theorem stands_submit (m : Memory.State) (u : UserId) (raw : String) :
    Stands m u raw (Orders.submit u raw) := by
  unfold Orders.submit Orders.ensureNumber
  cases hblank : Text.isBlankText raw with
  | true => exact .ended (.blank hblank)
  | false =>
      unfold OrderNumber.parse
      cases hparse : OrderNumber.parse? raw with
      | none => exact .ended (.malformed hblank hparse)
      | some n => exact .begun hparse

/-- Whoever looks up an order that is there learns whose it is. -/
theorem verdict_of_resubmitted {n : OrderNumber} {o : Order}
    (hparse : OrderNumber.parse? raw = some n) (ho : m.order? n = some o) :
    ∃ r, Orders.resubmitted u (some o) = .done r ∧ Verdict m u raw r ∧
      ∀ o', r ≠ .ok (.accepted o') := by
  by_cases huser : o.userId = u
  · have hnext : Orders.resubmitted u (some o) = .done (.ok (.already o)) := if_pos huser
    exact ⟨_, hnext, .already hparse ho huser (.refl o), by simp⟩
  · have hnext : Orders.resubmitted u (some o) =
        .done (.error (.domain (.conflict "order number belongs to another user"))) := if_neg huser
    exact ⟨_, hnext, .conflict hparse ho huser, by simp⟩

/-- What an answer makes of a submission and of the orders: it is accepted for an order that it
made, or it changes nothing, and then either goes on to look whose the number is or has ended. -/
inductive Goes (m : Memory.State) (u : UserId) (q : Need) (m' : Memory.State) :
    UseCase Submission → Prop
  | accepted {o : Order} (h : Creates m o m') : Goes m u q m' (.done (.ok (.accepted o)))
  | looks {n : OrderNumber} {next : Except StoreError (Option Order) → UseCase Submission}
      (hasked : q = .store (.createOrder u n)) (hsame : m' = m) :
      Goes m u q m' (.ask (.store (.findByNumber n)) next)
  | told {r : Except ServiceError Submission} (hsame : m' = m)
      (hnever : ∀ o, r ≠ .ok (.accepted o)) :
      Goes m u q m' (.done r)

theorem Stands.answer {t t' : Trace} (ht : t.state.Indexed) {q : Need}
    {next : q.Answer → UseCase Submission} {r : q.Answer} (h : Stands t.state u raw (.ask q next))
    (hserves : Serves t q r t') :
    Stands t'.state u raw (next r) ∧ Goes t.state u q t'.state (next r) := by
  cases h with
  | @begun n hparse =>
      obtain ⟨stamp, rfl, rfl⟩ := hserves
      cases ho : t.state.order? n with
      | some o =>
          have hcreate := ht.createOrder_of_some ho stamp u
          have hstate : (t.ask ⟨stamp, .createOrder u n⟩).state = t.state :=
            congrArg Prod.snd hcreate
          have hanswer : (Memory.step stamp t.state (.createOrder u n)).1 = .error .duplicate :=
            congrArg Prod.fst hcreate
          rw [hstate, hanswer]
          exact ⟨.looking hparse ho, .looks rfl rfl⟩
      | none =>
          obtain ⟨hanswer, horders, horder⟩ := ht.createOrder_of_none ho stamp u
          have hfresh : Creates t.state (.submitted ⟨stamp.id⟩ u n stamp.now)
              (t.ask ⟨stamp, .createOrder u n⟩).state := ⟨ho, horders, horder⟩
          have hfound : (t.ask ⟨stamp, .createOrder u n⟩).state.order? n =
              some (.submitted ⟨stamp.id⟩ u n stamp.now) := by
            rw [hfresh.order?]
            exact if_pos rfl
          have hnext : Orders.filed u n (Memory.step stamp t.state (.createOrder u n)).1 =
              .done (.ok (.accepted (.submitted ⟨stamp.id⟩ u n stamp.now))) :=
                congrArg (Orders.filed u n) hanswer
          rw [hnext]
          exact ⟨.ended (.accepted hparse hfound rfl (.refl _)), .accepted hfresh⟩
  | @looking n o hparse ho =>
      obtain ⟨stamp, rfl, rfl⟩ := hserves
      have hanswer : (Memory.step stamp t.state (.findByNumber n)).1 = .ok (some o) := by
        rw [Memory.step_findByNumber, ho]
      obtain ⟨r, hnext, hverdict, hnever⟩ := verdict_of_resubmitted (u := u) hparse ho
      rw [hanswer]
      change Stands t.state u raw (Orders.resubmitted u (some o)) ∧
        Goes _ _ _ _ (Orders.resubmitted u (some o))
      rw [hnext]
      exact ⟨.ended hverdict, .told rfl hnever⟩

end

/-! ## what a verdict says -/

section

variable {m : Memory.State} {u : UserId} {raw : String} {n : OrderNumber}
  {r : Except ServiceError Submission}

/-- The answer to a text that holds no number. -/
def refusal (raw : String) : DomainError :=
  if Text.isBlankText raw then .validation "order number is required"
  else .invalidOrderNumber (Text.trim raw)

/-- A text that holds no number is refused before anything is asked. -/
theorem submit_of_invalid (hinvalid : Luhn.isValid (Text.trim raw) = false) (u : UserId) :
    Orders.submit u raw = .done (.error (.domain (refusal raw))) := by
  unfold Orders.submit Orders.ensureNumber refusal OrderNumber.parse
  rw [OrderNumber.parse?_eq_none_iff.mpr hinvalid]
  cases Text.isBlankText raw <;> rfl

theorem Verdict.of_invalid (h : Verdict m u raw r)
    (hinvalid : Luhn.isValid (Text.trim raw) = false) : r = .error (.domain (refusal raw)) := by
  have hnone := OrderNumber.parse?_eq_none_iff.mpr hinvalid
  cases h with
  | blank hblank => simp [refusal, hblank]
  | malformed hblank => simp [refusal, hblank]
  | accepted hparse | already hparse | conflict hparse => simp [hnone] at hparse

/-- No submission ends in a failure of the stores. -/
theorem Verdict.ne_store (h : Verdict m u raw r) (e : StoreError) : r ≠ .error (.store e) := by
  cases h <;> simp

/-- What the submission of a text with a number came to, by the order that the number has. -/
theorem Verdict.exists_order (h : Verdict m u raw r) (hparse : OrderNumber.parse? raw = some n) :
    ∃ o, m.order? n = some o ∧
      ((∃ o', r = .ok (.accepted o') ∧ o'.Same o) ∨
        (u = o.userId ∧ ∃ o', r = .ok (.already o') ∧ o'.Same o) ∨
        (u ≠ o.userId ∧
          r = .error (.domain (.conflict "order number belongs to another user")))) := by
  have hsame : ∀ {n'}, OrderNumber.parse? raw = some n' → n' = n := fun hparse' =>
    Option.some.inj (hparse'.symm.trans hparse)
  cases h with
  | blank hblank =>
      rw [OrderNumber.isBlankText_of_parse? hparse] at hblank
      cases hblank
  | malformed _ hnone =>
      rw [hnone] at hparse
      cases hparse
  | accepted hparse' ho _ hsame' =>
      obtain rfl := hsame hparse'
      exact ⟨_, ho, .inl ⟨_, rfl, hsame'⟩⟩
  | already hparse' ho huser hsame' =>
      obtain rfl := hsame hparse'
      exact ⟨_, ho, .inr (.inl ⟨huser.symm, _, rfl, hsame'⟩)⟩
  | conflict hparse' ho huser =>
      obtain rfl := hsame hparse'
      exact ⟨_, ho, .inr (.inr ⟨Ne.symm huser, rfl⟩)⟩

end

end Loyalty.System
