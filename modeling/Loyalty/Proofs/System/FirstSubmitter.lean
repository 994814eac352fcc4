import Loyalty.Proofs.Http.Serving
import Loyalty.Proofs.System.Following
import Loyalty.Proofs.System.Submissions

/-!
# Loyalty.Proofs.System.FirstSubmitter

The first who submits a number owns it.

Orders come from submissions alone, and a submission that makes one ends as
accepted in that same step (`Client.Sound.answer`).  So every number that has an
order was given to exactly one request (`Allotted`), whose user owns it, and
what the verdicts of all others say is true of that one order for good.
-/

namespace Loyalty.System

open Accrual Store Store.Memory

/-! ## all requests of a system -/

/-- What is known of a request that is under way. -/
inductive Client.Sound (m : Memory.State) : Client → Prop
  | submission {u : UserId} {raw : String} {rest : UseCase Submission} (h : Stands m u raw rest) :
      Sound m ⟨.submit u raw, rest⟩
  | other {action : Action} {rest : UseCase action.Result}
      (hother : ∀ u raw, action ≠ .submit u raw) (h : rest.Asks action.Needs) :
      Sound m ⟨action, rest⟩

/-- The number that a request was accepted for, if it is a submission that was. -/
def Client.accepted? : Client → Option OrderNumber
  | ⟨.submit _ _, .done (.ok (.accepted o))⟩ => some o.number
  | _ => none

/-- What a step does to the orders: one is new, under the number given, or every number keeps its
order. -/
inductive Gains (m m' : Memory.State) : Option OrderNumber → Prop
  | nothing (h : m.Alike m') : Gains m m' none
  | order {o : Order} (h : Creates m o m') : Gains m m' (some o.number)

theorem Gains.persists {m m' : Memory.State} {n? : Option OrderNumber} (h : Gains m m' n?) :
    Persists m m' := by
  cases h with
  | nothing h => exact fun _ _ => h.order?
  | order h => exact h.persists

namespace Client

variable {m m' : Memory.State} {c : Client} {n : OrderNumber}

theorem Sound.mono (h : c.Sound m) (hm : Persists m m') : c.Sound m' := by
  cases h with
  | submission h => exact .submission (h.mono hm)
  | other hother h => exact .other hother h

theorem accepted?_of_ne_submit {action : Action} (hother : ∀ u raw, action ≠ .submit u raw)
    (rest : UseCase action.Result) : (⟨action, rest⟩ : Client).accepted? = none := by
  cases action with
  | submit u raw => exact absurd rfl (hother u raw)
  | _ => rfl

theorem accepted?_submit {u : UserId} {raw : String} {rest : UseCase Submission} :
    (⟨.submit u raw, rest⟩ : Client).accepted? = some n ↔
      ∃ o, rest = .done (.ok (.accepted o)) ∧ o.number = n := by
  cases rest with
  | ask q next => simp [accepted?]
  | done r =>
      cases r with
      | error e => simp [accepted?]
      | ok submission => cases submission <;> simp [accepted?]

/-- A submission is accepted for an order. -/
theorem accepted?_eq_some_iff : c.accepted? = some n ↔
    ∃ u raw o, c = ⟨.submit u raw, .done (.ok (.accepted o))⟩ ∧ o.number = n := by
  unfold accepted?
  split
  · next u raw o => simp
  · next hnot =>
    simp only [reduceCtorEq, false_iff]
    rintro ⟨u, raw, o, rfl, -⟩
    exact hnot u raw o rfl

/-- Who still asks something was not accepted. -/
theorem accepted?_of_ask {q : Need} {next : q.Answer → UseCase c.action.Result}
    (hasks : c.rest = .ask q next) :
    c.accepted? = none := by
  unfold accepted?
  split
  · contradiction
  · rfl

/-- A submission stands where it has come to. -/
theorem Sound.stands {u : UserId} {raw : String} {rest : UseCase Submission}
    (h : Sound m ⟨.submit u raw, rest⟩) : Stands m u raw rest := by
  cases h with
  | submission h => exact h
  | other hother => exact absurd rfl (hother u raw)

/-- The end of a submission is a verdict. -/
theorem Sound.verdict {u : UserId} {raw : String} {r : Except ServiceError Submission}
    (h : Sound m ⟨.submit u raw, .done r⟩) : Verdict m u raw r := by
  cases h.stands with
  | ended h => exact h

/-- A request that has not asked anything yet. -/
theorem Sound.program (m : Memory.State) (passwords : PasswordScheme) (tokens : TokenScheme)
    (action : Action) :
    Sound m ⟨action, action.program passwords tokens⟩ := by
  have hasks := action.asks_program passwords tokens
  cases action with
  | submit u raw => exact .submission (stands_submit m u raw)
  | _ => exact .other nofun hasks

/-- What one answer does to a request and to the orders. -/
theorem Sound.answer {t t' : Trace} (h : c.Sound t.state) (ht : t.state.Indexed) {q : Need}
    {next : q.Answer → UseCase c.action.Result} {r : q.Answer} (hasks : c.rest = .ask q next)
    (hserves : Serves t q r t') :
    (⟨c.action, next r⟩ : Client).Sound t'.state ∧
      Gains t.state t'.state (⟨c.action, next r⟩ : Client).accepted? := by
  cases h with
  | @submission u raw rest h =>
      have hasking : Stands t.state u raw (.ask q next) := hasks ▸ h
      obtain ⟨hstands, hgoes⟩ := hasking.answer ht hserves
      refine ⟨.submission hstands, ?_⟩
      generalize next r = rest' at hgoes
      cases hgoes with
      | accepted hcreates => exact .order hcreates
      | looks hasked hsame =>
          rw [hsame]
          exact .nothing (.refl _)
      | @told result hsame hnever =>
          have hnone : (⟨.submit u raw, .done result⟩ : Client).accepted? = none := by
            rw [Option.eq_none_iff_forall_ne_some]
            intro n hn
            obtain ⟨o, hended, -⟩ := accepted?_submit.mp hn
            exact hnever o (Program.done.inj hended)
          rw [hnone, hsame]
          exact .nothing (.refl _)
  | @other action rest hother h =>
      obtain ⟨hneeds, hrest⟩ := h.of_ask hasks
      rw [accepted?_of_ne_submit hother]
      cases hserves.trace_eq hneeds with
      | inl hsame =>
          rw [hsame]
          exact ⟨.other hother (hrest r), .nothing (.refl _)⟩
      | inr hcall =>
          obtain ⟨stamp, call, hmakes, rfl⟩ := hcall
          have hcreates : ∀ u n, call ≠ .createOrder u n := by
            rintro u n rfl
            cases hmakes
            exact hother _ _ rfl
          exact ⟨.other hother (hrest r), .nothing (ht.alike_step hcreates)⟩

end Client

/-- What the worker asks creates no order. -/
theorem Tells.alike {w : Setting} {t t' : Trace} {stage stage' : Stage} {q : Question}
    {r : q.Answer} (ht : t.state.Indexed) (hmoves : stage.Moves q r stage') (h : Tells w t q r t') :
    t.state.Alike t'.state := by
  obtain rfl | ⟨stamp, call, answer, hmoves, rfl⟩ := h.trace_eq_of_moves hmoves
  · exact .refl _
  · have hcreates : ∀ u n, call ≠ .createOrder u n := by
      rintro u n rfl
      cases hmoves
    exact ht.alike_step hcreates

/-! ## the invariant -/

/-- Every number that has an order was given to one of many requests, and any other number to
none. -/
structure Allotted (m : Memory.State) (given : ℕ → Option OrderNumber) : Prop where
  unique : ∀ {n}, (m.order? n).isSome → ∃! i, given i = some n
  isSome : ∀ {i n}, given i = some n → (m.order? n).isSome

theorem Allotted.of_alike {m m' : Memory.State} {given : ℕ → Option OrderNumber}
    (h : Allotted m given) (halike : m.Alike m') : Allotted m' given where
  unique hn := h.unique (by rwa [halike.isSome_order?] at hn)
  isSome hi := by
    rw [halike.isSome_order?]
    exact h.isSome hi

theorem allotted_iff_held {m : Memory.State} {given : ℕ → Option OrderNumber} :
    Allotted m given ↔ Held (fun n => (m.order? n).isSome) given :=
  ⟨fun h => ⟨h.unique, h.isSome⟩, fun h => ⟨h.unique, h.there⟩⟩

/-- One more request that was given a number that had no order. -/
theorem Allotted.create {m m' : Memory.State} {given : ℕ → Option OrderNumber}
    (h : Allotted m given) {i : ℕ} (hi : given i = none) {o : Order} (hcreates : Creates m o m') :
    Allotted m' (Function.update given i (some o.number)) := by
  have hfresh : ¬ (m.order? o.number).isSome := by
    rw [hcreates.fresh]
    simp
  have hthere : ∀ n, (m'.order? n).isSome ↔ n = o.number ∨ (m.order? n).isSome := by
    intro n
    rw [hcreates.order?]
    by_cases hn : n = o.number
    · simp [hn]
    · simp [hn]
  exact allotted_iff_held.mpr ((allotted_iff_held.mp h).hold hi hfresh hthere)

/-- One more request that was given what the orders gained. -/
theorem Allotted.update {m m' : Memory.State} {given : ℕ → Option OrderNumber}
    (h : Allotted m given) {i : ℕ} {n? : Option OrderNumber} (hi : given i = none)
    (hgains : Gains m m' n?) :
    Allotted m' (Function.update given i n?) := by
  cases hgains with
  | nothing halike =>
      have hsame : Function.update given i none = given := by rw [← hi, Function.update_eq_self]
      rw [hsame]
      exact h.of_alike halike
  | order hcreates => exact h.create hi hcreates

/-- What holds of the requests of a system and of the orders that they made. -/
structure Submitted (s : State) : Prop where
  sound : ∀ i, (s.clients i).Sound s.trace.state
  allotted : Allotted s.trace.state fun i => (s.clients i).accepted?

namespace Submitted

variable {w : Setting} {s s' : State} {stage stage' : Stage}

theorem start (w : Setting) : Submitted (start w) := by
  have hsound : ∀ i, ((System.start w).clients i).Sound Memory.State.empty := fun i =>
    .program _ w.passwords w.tokens (w.action i)
  have hnone : ∀ i n, ((System.start w).clients i).accepted? ≠ some n := by
    intro i n hi
    obtain ⟨u, raw, o, hended, -⟩ := Client.accepted?_eq_some_iff.mp hi
    have hi := hsound i
    rw [hended] at hi
    cases hi.verdict with
    | accepted _ ho => cases ho
  exact {
    sound := hsound
    allotted := { unique := nofun, isSome := fun hi => absurd hi (hnone _ _) } }

/-- A step in which no order is made. -/
theorem quiet (h : Submitted s) (hclients : s'.clients = s.clients)
    (halike : s.trace.state.Alike s'.trace.state) :
    Submitted s' where
  sound i := by
    rw [hclients]
    exact (h.sound i).mono fun _ _ => halike.order?
  allotted := by
    rw [hclients]
    exact h.allotted.of_alike halike

/-- A step of a request, which may have made an order. -/
theorem client (h : Submitted s) (hs : s.trace.state.Indexed) {i : ℕ} {q : Need}
    {next : q.Answer → UseCase (s.clients i).action.Result} {r : q.Answer} {t : Trace}
    (hasks : (s.clients i).rest = .ask q next) (hserves : Serves s.trace q r t) :
    Submitted { s with
      trace := t, clients := Function.update s.clients i ⟨(s.clients i).action, next r⟩ } := by
  obtain ⟨hsound, hgains⟩ := (h.sound i).answer hs hasks hserves
  have hallotted := h.allotted.update (Client.accepted?_of_ask hasks) hgains
  have hgiven :
      (fun j => (Function.update s.clients i ⟨(s.clients i).action, next r⟩ j).accepted?) =
      Function.update (fun j => (s.clients j).accepted?) i
        (⟨(s.clients i).action, next r⟩ : Client).accepted? :=
    Function.comp_update Client.accepted? s.clients i _
  have hsounds :
      ∀ j, (Function.update s.clients i ⟨(s.clients i).action, next r⟩ j).Sound t.state :=
    (Function.forall_update_iff s.clients fun _ c => c.Sound t.state).mpr
      ⟨hsound, fun j _ => (h.sound j).mono hgains.persists⟩
  exact { sound := hsounds, allotted := by simp only [hgiven]; exact hallotted }

theorem advance (h : Submitted s) (hs : s.trace.state.Indexed)
    (hadvance : Advance w s stage s' stage') :
    Submitted s' := by
  cases hadvance with
  | client hasks hserves => exact h.client hs hasks hserves
  | worker hmoves htells => exact h.quiet rfl (htells.alike hs hmoves)
  | tick => exact h.quiet rfl (.refl _)

end Submitted

/-- In every run orders come from submissions, one each. -/
theorem Run.submitted {w : Setting} {s : State} {stage : Stage} (h : Run w s stage) :
    Submitted s := by
  induction h with
  | start => exact .start w
  | step hrun hadvance ih => exact ih.advance hrun.follows.indexed hadvance

/-! ## first submitters -/

/-- A request is the submission of a text by a user, and has ended. -/
def State.Ended (s : State) (i : ℕ) (u : UserId) (raw : String)
    (r : Except ServiceError Submission) : Prop :=
  s.clients i = ⟨.submit u raw, .done r⟩

/-- A request is a submission that was accepted for an order of its user. -/
def State.Accepted (s : State) (i : ℕ) (o : Order) : Prop :=
  ∃ raw, s.Ended i o.userId raw (.ok (.accepted o))

section

variable {w : Setting} {s s' : State} {i : ℕ} {u : UserId} {raw : String} {n : OrderNumber}
  {o : Order} {r : Except ServiceError Submission}

/-- What has ended stays as it is. -/
theorem State.Ended.reaches (h : s.Ended i u raw r) (hreaches : Reaches w s s') :
    s'.Ended i u raw r :=
  State.Answered.reaches h hreaches

namespace Submitted

variable (h : Submitted s) (hs : s.trace.state.Indexed)
include h

theorem verdict (hended : s.Ended i u raw r) : Verdict s.trace.state u raw r := by
  have hsound := h.sound i
  rw [hended] at hsound
  exact hsound.verdict

theorem accepted_of (hended : s.Ended i u raw (.ok (.accepted o))) : s.Accepted i o := by
  have huser : o.userId = u := by
    cases h.verdict hended with
    | accepted _ _ huser hsame => exact hsame.userId.symm.trans huser
  exact ⟨raw, huser ▸ hended⟩

include hs

/-- The stores have the order that a submission was accepted for. -/
theorem order?_of_accepted (haccepted : s.Accepted i o) :
    ∃ o', s.trace.state.order? o.number = some o' ∧ o.Same o' := by
  obtain ⟨raw, hended⟩ := haccepted
  cases h.verdict hended with
  | @accepted n o' _ _ ho _ hsame =>
      have hnumber : o'.number = n := (hs.order?_eq_some_iff.mp ho).2
      exact ⟨o', by rw [← hsame.number, hnumber]; exact ho, hsame⟩

/-- A number that has an order has one submission that was accepted for it. -/
theorem exists_accepted (ho : s.trace.state.order? n = some o) :
    ∃ j o', s.Accepted j o' ∧ o'.Same o ∧ ∀ k o'', s.Accepted k o'' → o''.number = n → k = j := by
  obtain ⟨j, hj, honly⟩ := h.allotted.unique (by rw [ho]; rfl)
  obtain ⟨v, raw, o', hended, hnumber⟩ := Client.accepted?_eq_some_iff.mp hj
  have haccepted := h.accepted_of hended
  obtain ⟨o'', ho'', hsame⟩ := h.order?_of_accepted hs haccepted
  rw [hnumber, ho] at ho''
  obtain rfl := Option.some.inj ho''
  have honly' : ∀ k o'', s.Accepted k o'' → o''.number = n → k = j := by
    intro k o'' hk hnumber''
    obtain ⟨raw'', hended''⟩ := hk
    exact honly k (Client.accepted?_eq_some_iff.mpr ⟨_, _, _, hended'', hnumber''⟩)
  exact ⟨j, o', haccepted, hsame, honly'⟩

end Submitted

/-- A submission for which an order was accepted is the only one for that number, and the order is
there. -/
theorem Reachable.accepted_once (h : Reachable w s) (haccepted : s.Accepted i o) :
    (∀ k o', s.Accepted k o' → o'.number = o.number → k = i) ∧
    ∃ o', s.trace.state.orders.filter (·.number = o.number) = [o'] ∧ o.Same o' := by
  obtain ⟨stage, hrun, -⟩ := h.run
  have hs := hrun.follows.indexed
  obtain ⟨o', ho', hsame⟩ := hrun.submitted.order?_of_accepted hs haccepted
  obtain ⟨j, -, -, -, honly⟩ := hrun.submitted.exists_accepted hs ho'
  have hij : i = j := honly i o haccepted rfl
  have honly' : ∀ k o', s.Accepted k o' → o'.number = o.number → k = i := by
    intro k o'' hk hnumber
    exact (honly k o'' hk hnumber).trans hij.symm
  exact ⟨honly', o', hs.filter_number ho', hsame⟩

/-- Where the submission of a number has ended, one was accepted, and the others were told so. -/
theorem Submitted.exists_first (h : Submitted s) (hs : s.trace.state.Indexed)
    (hended : s.Ended i u raw r) (hparse : OrderNumber.parse? raw = some n) :
    ∃ j o, s.Accepted j o ∧ o.number = n ∧
      (i ≠ j → (u = o.userId → ∃ o', r = .ok (.already o') ∧ o.Same o') ∧
        (u ≠ o.userId →
          r = .error (.domain (.conflict "order number belongs to another user")))) := by
  obtain ⟨o', ho', hcases⟩ := (h.verdict hended).exists_order hparse
  obtain ⟨j, o, haccepted, hsame, honly⟩ := h.exists_accepted hs ho'
  have hnumber : o'.number = n := (hs.order?_eq_some_iff.mp ho').2
  refine ⟨j, o, haccepted, hsame.number.symm.trans hnumber, fun hij => ?_⟩
  obtain ⟨o₁, rfl, hsame₁⟩ | ⟨huser, o₁, rfl, hsame₁⟩ | ⟨huser, rfl⟩ := hcases
  · have hi : o₁.number = n := hsame₁.number.symm.trans hnumber
    exact absurd (honly i o₁ (h.accepted_of hended) hi) hij
  · have hmine : u = o.userId := huser.trans hsame.userId
    exact ⟨fun _ => ⟨o₁, rfl, hsame.trans hsame₁.symm⟩, fun hother => absurd hmine hother⟩
  · have hother : u ≠ o.userId := fun hmine => huser (hmine.trans hsame.userId.symm)
    exact ⟨fun hmine => absurd hmine hother, fun _ => rfl⟩

/-- **The first who submits a number owns it**: whatever the interleaving of the requests of users
with each other and with the worker, in every state that a system can come to

* when the submission of a text with a number has ended, exactly one submission was accepted for
  that number, then and ever after; its user has the only order with the number, for good; every
  other submission of it that has ended, by whatever spelling, is told of the same order if its user
  has it, and of a conflict if not;
* a text that holds no number is refused before anything is asked, a blank one for being blank;
* an answer to a submission either ends it as accepted, with the order that is new, or changes
  nothing, and then ends it too unless it was a refusal of the order, after which one look at the
  stores is left;
* no submission ends in a failure of the stores, so the order that is in the way is always found;
* a submission over HTTP is answered 202, 200, 409, 400 or 422 by how it ends. -/
theorem Reachable.first_submitter (h : Reachable w s) :
    (∀ i u raw n r, s.Ended i u raw r → Text.trim raw = n.text →
      ∃ j o, o.number = n ∧
        (∀ s', Reaches w s s' → s'.Accepted j o ∧
          (∀ k o', s'.Accepted k o' → o'.number = n → k = j) ∧
          ∃ o', s'.trace.state.orders.filter (·.number = n) = [o'] ∧ o.Same o') ∧
        (i ≠ j → (u = o.userId → ∃ o', r = .ok (.already o') ∧ o.Same o') ∧
          (u ≠ o.userId →
            r = .error (.domain (.conflict "order number belongs to another user"))))) ∧
    (∀ raw, Luhn.isValid (Text.trim raw) = false →
      (∀ u, Orders.submit u raw = .done (.error (.domain (refusal raw)))) ∧
      ∀ i u r, s.Ended i u raw r → r = .error (.domain (refusal raw))) ∧
    (∀ i u raw q next a t, s.clients i = ⟨.submit u raw, .ask q next⟩ → Serves s.trace q a t →
      (∃ o, next a = .done (.ok (.accepted o)) ∧ t.state.orders = s.trace.state.orders ++ [o]) ∨
      (t.state = s.trace.state ∧
        ((∃ r, next a = .done r) ∨
          ∃ n look, q = .store (.createOrder u n) ∧
            next a = .ask (.store (.findByNumber n)) look))) ∧
    (∀ i u raw e, ¬ s.Ended i u raw (.error (.store e))) ∧
    ∀ (schemes : Http.Schemes) q now u raw, Http.AuthenticatedAs schemes.tokens q now u →
      Http.App.SubmitsText q raw → ∃ rest respond, Http.App.serve schemes q = .ask .now rest ∧
        (rest now = (Orders.submit u raw).bind fun r => .done (respond r)) ∧
        Http.App.AnswersSubmission respond := by
  obtain ⟨stage, hrun, -⟩ := h.run
  have hs := hrun.follows.indexed
  have hsubmitted := hrun.submitted
  refine ⟨?_, ?_, ?_, ?_, ?_⟩
  · intro i u raw n r hended htext
    obtain ⟨j, o, haccepted, rfl, hothers⟩ :=
      hsubmitted.exists_first hs hended (OrderNumber.parse?_eq_some_iff.mpr htext)
    refine ⟨j, o, rfl, fun s' hreaches => ?_, hothers⟩
    obtain ⟨raw', hended'⟩ := haccepted
    have haccepted' : s'.Accepted j o := ⟨raw', hended'.reaches hreaches⟩
    exact ⟨haccepted', (h.reaches hreaches).accepted_once haccepted'⟩
  · intro raw hinvalid
    exact ⟨submit_of_invalid hinvalid, fun i u r hended =>
      (hsubmitted.verdict hended).of_invalid hinvalid⟩
  · intro i u raw q next a t hasks hserves
    have hsound := hsubmitted.sound i
    rw [hasks] at hsound
    have hgoes := (hsound.stands.answer hs hserves).2
    generalize next a = rest at hgoes
    cases hgoes with
    | accepted hcreates => exact .inl ⟨_, rfl, hcreates.orders⟩
    | looks hasked hsame => exact .inr ⟨hsame, .inr ⟨_, _, hasked, rfl⟩⟩
    | told hsame => exact .inr ⟨hsame, .inl ⟨_, rfl⟩⟩
  · exact fun i u raw e hended => (hsubmitted.verdict hended).ne_store e rfl
  · exact fun schemes q now u raw hq hraw => Http.App.serve_submission hq hraw

end

/-- Somebody who submits the number of another user, spelled with blanks, is told of a conflict. -/
theorem Reachable.first_submitter_conflict :
    ∃ (w : Setting) (s : State) (u : UserId), Reachable w s ∧ u ≠ default ∧
      s.Ended 0 default "0" (.ok (.accepted (.submitted default default default default))) ∧
      s.Ended 1 u " 0 " (.error (.domain (.conflict "order number belongs to another user"))) ∧
      ∀ k o, s.Accepted k o → o.number = default → k = 0 := by
  let u : UserId := ⟨⟨1⟩⟩
  let order : Order := .submitted default default default default
  let w : Setting :=
    { Setting.constant (.ok .notRegistered) with
      action := fun i => if i = 0 then .submit default "0" else .submit u " 0 " }
  have hparse : OrderNumber.parse? " 0 " = some default := by decide +kernel
  obtain ⟨s₀, h₀, htrace, -, -, hclients⟩ := Reachable.submitted (w := w) (i := 0) rfl
  have hfirst : s₀.clients 1 =
      ⟨.submit u " 0 ", .ask (.store (.createOrder u default)) (Orders.filed u default)⟩ := by
    rw [hclients, ← submit_of_parse? hparse]
    rfl
  have htaken : Serves s₀.trace (.store (.createOrder u default)) (.error .duplicate)
      (s₀.trace.ask ⟨default, .createOrder u default⟩) := by
    refine ⟨default, rfl, ?_⟩
    rw [htrace]
    decide +kernel
  have h₁ := h₀.step (Step.of_client hfirst htaken)
  have hsecond : (Function.update s₀.clients 1
      ⟨.submit u " 0 ", Orders.filed u default (.error .duplicate)⟩) 1 =
      ⟨.submit u " 0 ", UseCase.call (.findByNumber default) (Orders.resubmitted u)⟩ :=
    Function.update_self ..
  have hfound :
      Serves (s₀.trace.ask ⟨default, .createOrder u default⟩) (.store (.findByNumber default))
      (.ok (some order)) ((s₀.trace.ask ⟨default, .createOrder u default⟩).ask
        ⟨default, .findByNumber default⟩) := by
    refine ⟨default, rfl, ?_⟩
    rw [htrace]
    decide +kernel
  have h₂ := h₁.step
    (@Step.of_client _ _ 1 (.submit u " 0 ") (.store (.findByNumber default)) _ _ _ hsecond hfound)
  have hne : order.userId ≠ u := by
    change (default : UserId) ≠ ⟨⟨1⟩⟩
    decide
  have hends : ∃ s, Reachable w s ∧ s.clients 0 = s₀.clients 0 ∧
      s.clients 1 = ⟨.submit u " 0 ", Orders.resubmitted u (some order)⟩ := ⟨_, h₂, rfl, rfl⟩
  obtain ⟨s, h, hzero, hone⟩ := hends
  have hended₀ : s.Ended 0 default "0" (.ok (.accepted order)) := by
    rw [State.Ended, hzero, hclients]
    rfl
  have hended₁ :
      s.Ended 1 u " 0 " (.error (.domain (.conflict "order number belongs to another user"))) := by
    rw [State.Ended, hone, Orders.resubmitted, if_neg hne]
    rfl
  obtain ⟨j, o, hnumber, hgood, -⟩ :=
    h.first_submitter.1 0 default "0" default _ hended₀ (by decide +kernel)
  obtain ⟨-, honly, -⟩ := hgood s .refl
  have hj : 0 = j := honly 0 order ⟨"0", hended₀⟩ rfl
  exact ⟨w, s, u, h, hne.symm, hended₀, hended₁, hj ▸ honly⟩

end Loyalty.System
