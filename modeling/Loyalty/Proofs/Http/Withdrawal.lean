import Loyalty.Proofs.Decimal.Round
import Loyalty.Proofs.Service.Withdrawal
import Loyalty.Proofs.System.Credits
import Loyalty.Proofs.System.Web

/-!
# Loyalty.Proofs.Http.Withdrawal

Withdrawals from what the worker credited, also over HTTP.

What a server reports of an order is rounded to cents before anything is done
with it (`reportsCents_online`).  So wherever users and the worker come to, all
balances are in range and in cents, and a withdrawal ends there just as its
balance, its text and its amount say (`Web.Reachable.withdraw_iff_payable`).  A
request for a withdrawal does the same to the stores, and its status tells how
the withdrawal ended.
-/

namespace Loyalty

open Decimal Store Store.Memory

/-! ## accruals in cents -/

/-- Whatever is reported, an accrual is a whole number of cents. -/
theorem Accrual.Gateway.Report.ensureCents_of_outcome {report : Report} {status : OrderStatus}
    {amount : Points} (h : report.outcome = .registered status (some amount)) :
    ensureCents amount = .ok () := by
  rw [outcome, Outcome.registered.injEq, Option.map_eq_some_iff] at h
  obtain ⟨-, reported, -, rfl⟩ := h
  exact ensureCents_of_onGrid ((onGrid_toRat _).mono (scale_round_le reported Points.places))

namespace System

/-- What is learned from a server is in cents. -/
theorem Setting.reportsCents_online (w : Setting) (base : String) :
    (w.online base).ReportsCents := by
  rintro number status amount ⟨log, hgives⟩
  obtain ⟨-, report, -, -, -, houtcome⟩ := Accrual.Gateway.of_gives_registered hgives
  exact Accrual.Gateway.Report.ensureCents_of_outcome houtcome

namespace Web.Reachable

variable {w : Setting} {base : String} {s : Web}

/-- Seen without the wire, a system comes to what one whose service says what a server may answer
comes to. -/
theorem online (h : Reachable w base s) :
    ∃ stage, s.state.worker = Accrual.Stage.program stage ∧ Run (w.online base) s.state stage := by
  induction h with
  | refl => exact ⟨.left .empty [], rfl, .start⟩
  | tail _ hstep ih =>
      obtain ⟨stage, hworker, hrun⟩ := ih
      obtain ⟨stage', hadvance, hworker'⟩ := hstep.advance hworker
      exact ⟨stage', hworker', hrun.step hadvance.online⟩

/-- Whatever users do and a server answers, all balances are in range and in cents. -/
theorem balanceOf (h : Reachable w base s) (u : UserId) :
    (s.state.trace.state.balanceOf u).InRange ∧ (s.state.trace.state.balanceOf u).InCents := by
  obtain ⟨stage, -, hrun⟩ := h.online
  have hcredited := hrun.credited (w.reportsCents_online base)
  have hcents := hcredited.cents
  obtain ⟨requests, hrequests⟩ := hcredited.run
  rw [hrequests] at hcents ⊢
  exact ⟨Trace.bounded_run requests u, (Trace.exact_run requests hcents u).cents⟩

end Web.Reachable

end System

/-! ## requests -/

/-- The status of the answer to a withdrawal that is refused. -/
def Ledger.Refusal.status : Ledger.Refusal → ℕ
  | blank | notPositive | subCent => 400
  | noNumber => 422
  | uncovered => 402
  | noRoom => 500

namespace Http

open App

/-- A request asks for an amount on the order that a text names. -/
structure AsksWithdrawal (r : Request) (raw : String) (amount : Points) : Prop where
  target : App.target r = .endpoint .withdraw .post
  isJson : Media.isJsonRequest r = true
  document : ∃ body, Body.ofRequest? r = some body ∧
    body.json?.bind WithdrawRequest.ofJson? = some ⟨raw, amount⟩

section

variable {schemes : Schemes} {u : UserId} {moment : Moment} {r : Request} {raw : String}
  {amount : Points}

/-- A request for a withdrawal does what the withdrawal does, and answers what it ends in. -/
theorem RequestOf.served_withdrawal (h : RequestOf schemes u moment r)
    (hr : AsksWithdrawal r raw amount) (s : Memory.State) :
    served schemes moment r s =
      (sent r (outcome (fun _ => .ofStatus 200)
        ((Ledger.withdraw u raw amount).run moment.answer s).1),
        ((Ledger.withdraw u raw amount).run moment.answer s).2) := by
  obtain ⟨body, hbody, hdocument⟩ := hr.document
  have hhandle : handle r body u (App.target r) =
      answer (Ledger.withdraw u raw amount) fun _ => Response.ofStatus 200 := by
    rw [hr.target]
    simp only [handle, serveUser, document, hr.isJson, if_true, hdocument]
  rw [h.served_eq hbody, hhandle, run_answer, answer_eq, Program.run_bind, Program.run_done]

theorem status_serviceFailure (refusal : Ledger.Refusal) (raw : String) :
    (serviceFailure (refusal.error raw)).status = refusal.status := by
  cases refusal <;> rfl

end

end Http

/-! ## withdrawals from what was credited -/

namespace System

open Ledger

/-- **Withdrawals are all or nothing**: whatever users do and whatever the accrual server answers,
in every state that the system can come to, and for every user, text and amount,

* a withdrawal is granted exactly when the text is a number, the amount is a positive number of
  whole cents that the balance covers, and what was withdrawn stays within the limit;
* a withdrawal that is granted moves exactly its amount and is recorded once, and nothing else
  changes;
* a withdrawal that is not granted changes nothing and ends in the first reason that applies;
* a request for it does the same to the stores, and its status tells how the withdrawal ended. -/
theorem Web.Reachable.withdraw_iff_payable {w : Setting} {base : String} {s : Web}
    (h : Reachable w base s) (moment : Http.Moment) (u : UserId) (raw : String) (amount : Points) :
    let stores := s.state.trace.state
    let ended := (withdraw u raw amount).run moment.answer stores
    ((∃ record, ended.1 = .ok record) ↔ Payable (stores.balanceOf u) raw amount) ∧
    (∀ record, ended.1 = .ok record → Pays stores u raw amount record ended.2) ∧
    (∀ e, ended.1 = .error e → ended.2 = stores ∧
      ∃ refusal : Refusal, refusal.IsFirst (stores.balanceOf u) raw amount ∧
        e = refusal.error raw) ∧
    ∀ schemes r, Http.RequestOf schemes u moment r → Http.AsksWithdrawal r raw amount →
      (Http.served schemes moment r stores).2 = ended.2 ∧
      (∀ record, ended.1 = .ok record → (Http.served schemes moment r stores).1.status = 200) ∧
      ∀ refusal : Refusal, ended.1 = .error (refusal.error raw) →
        (Http.served schemes moment r stores).1.status = refusal.status := by
  intro stores ended
  obtain ⟨hrange, hexact⟩ := h.balanceOf u
  have hserved : ∀ schemes r, Http.RequestOf schemes u moment r → Http.AsksWithdrawal r raw amount →
      Http.served schemes moment r stores =
        (Http.App.sent r (Http.App.outcome (fun _ => .ofStatus 200) ended.1), ended.2) :=
    fun _ _ hrequest hasks => hrequest.served_withdrawal hasks stores
  have hcases : (∃ record s', ended = (.ok record, s') ∧ Payable (stores.balanceOf u) raw amount ∧
      Pays stores u raw amount record s') ∨
      ∃ refusal : Refusal, refusal.IsFirst (stores.balanceOf u) raw amount ∧
        ended = (.error (refusal.error raw), stores) := run_withdraw_cases moment hrange hexact
  clear_value ended
  rcases hcases with ⟨record, s', rfl, hpayable, hpays⟩ | ⟨refusal, hfirst, rfl⟩
  · refine ⟨⟨fun _ => hpayable, fun _ => ⟨record, rfl⟩⟩, ?_, ?_, ?_⟩
    · intro record' hrecord
      obtain rfl := Except.ok.inj hrecord
      exact hpays
    · intro e he
      contradiction
    · intro schemes r hrequest hasks
      rw [hserved schemes r hrequest hasks]
      refine ⟨rfl, fun _ _ => Http.App.sent_status r _, ?_⟩
      intro refusal hrefused
      contradiction
  · refine ⟨⟨?_, fun hpayable => absurd hfirst.1 (payable_iff.mp hpayable refusal)⟩, ?_, ?_, ?_⟩
    · rintro ⟨record, hrecord⟩
      contradiction
    · intro record hrecord
      contradiction
    · intro e he
      obtain rfl := Except.error.inj he
      exact ⟨rfl, refusal, hfirst, rfl⟩
    · intro schemes r hrequest hasks
      rw [hserved schemes r hrequest hasks]
      refine ⟨rfl, ?_, ?_⟩
      · intro record hrecord
        contradiction
      · intro other hother
        rw [Http.App.sent_status, hother]
        exact Http.status_serviceFailure other raw

/-! ### a small run -/

section

open Accrual

variable {w : Setting} {base : String} {s : Web} {stage stage' : Stage}

/-- The worker makes every move of its stage that is answered without a server. -/
theorem Web.Reachable.exists_move (h : Web.Reachable w base s)
    (hworker : s.state.worker = stage.program) {q : Question} {r : q.Answer} {t : Trace}
    (hmoves : stage.Moves q r stage') (htells : Tells w.silent s.state.trace q r t) :
    ∃ s', Web.Reachable w base s' ∧ s'.state.trace = t ∧ s'.state.worker = stage'.program := by
  obtain ⟨next, hasks, hnext⟩ := hmoves.program_eq
  exact ⟨_, h.tail (.other (.worker (hworker.trans hasks) htells)), rfl, hnext⟩

/-- The worker hears what a server answers. -/
theorem Web.Reachable.exists_fetch (h : Web.Reachable w base s)
    (hworker : s.state.worker = stage.program) {number : OrderNumber} (answer : Gateway.Answer)
    (hmoves : stage.Moves (.fetch number) (Gateway.read answer) stage') :
    ∃ s', Web.Reachable w base s' ∧ s'.state.trace = s.state.trace ∧
      s'.state.worker = stage'.program := by
  obtain ⟨next, hasks, hnext⟩ := hmoves.program_eq
  have hgives : (Gateway.fetch base number).Gives _ (Gateway.read answer) :=
    Gateway.gives_fetch_iff.mpr ⟨.ok answer, rfl, rfl⟩
  exact ⟨_, h.tail (.fetch (hworker.trans hasks) hgives), rfl, hnext⟩

end

/-- An order for which a server reports 5 points may be credited before anything else happens. -/
theorem Web.exists_reachable_credited :
    ∃ (w : Setting) (s : Web), Web.Reachable w "http://accrual" s ∧
      s.state.trace.state.balanceOf default =
        { userId := default, current := { coeff := 5, scale := 0 }, withdrawn := .zero } := by
  let w : Setting := .constant (.ok .notRegistered)
  let order : Order := .submitted default default default default
  let five : Points := { coeff := 5, scale := 0 }
  let answer : Accrual.Gateway.Answer :=
    { status := 200
      headers := []
      body := some (Text.Utf8.encode "\x7b\"status\":\"PROCESSED\",\"accrual\":5\x7d") }
  have hsaid : Accrual.Gateway.read answer = .ok (.registered .processed (some five)) := by
    decide +kernel
  have hkept : Order.persistedAccrual .processed (some five) = some five := by decide +kernel
  obtain ⟨s₀, hs₀, ht₀, hw₀, -⟩ := System.Reachable.submitted (w := w.silent) (i := 0) rfl
  have hpending : s₀.trace.state.pending = [order] := by
    rw [ht₀]
    exact List.perm_singleton.mp (Memory.State.pending_perm _)
  have h₁ : Web.Reachable w "http://accrual" _ := Web.reaches_of_silent (hs₀.step (.tick hw₀))
  obtain ⟨s₂, h₂, ht₂, hw₂⟩ := h₁.exists_move rfl (.begins _) rfl
  obtain ⟨s₃, h₃, ht₃, hw₃⟩ := h₂.exists_move hw₂ (.listed [order]) ⟨default, rfl, by
    rw [ht₂, ← hpending]
    rfl⟩
  obtain ⟨s₄, h₄, ht₄, hw₄⟩ := h₃.exists_move hw₃ (.goes _ order []) rfl
  obtain ⟨s₅, h₅, ht₅, hw₅⟩ := h₄.exists_fetch hw₄ answer (by
    rw [hsaid]
    exact .hears _ order [] .processed (some five))
  have hstate₅ :
      s₅.state.trace.state = (Trace.start.ask ⟨default, .createOrder default default⟩).state := by
    rw [ht₅, ht₄, ht₃, ht₂, ← ht₀]
    rfl
  obtain ⟨s₆, h₆, ht₆, hw₆⟩ :=
    h₅.exists_move hw₅ (.earns _ order .processed (some five) [] five hkept)
    ⟨default, rfl, by
      rw [hstate₅]
      decide +kernel⟩
  have hstate₆ : s₆.state.trace.state = (Trace.run [⟨default, .createOrder default default⟩,
      ⟨default, .updateStatus default .processed (some five)⟩]).state := by
    rw [ht₆, hkept, Trace.ask, hstate₅]
    rfl
  obtain ⟨s₇, h₇, ht₇, -⟩ := h₆.exists_move hw₆ (.credited _ order five []) ⟨default, rfl, by
    rw [hstate₆]
    decide +kernel⟩
  have hstate₇ : s₇.state.trace.state = (Trace.run [⟨default, .createOrder default default⟩,
      ⟨default, .updateStatus default .processed (some five)⟩,
      ⟨default, .credit default five⟩]).state := by
    rw [ht₇, Trace.ask, hstate₆]
    rfl
  refine ⟨w, s₇, h₇, ?_⟩
  rw [hstate₇]
  decide +kernel

/-- Of 5 points that were credited a request takes 2.50. -/
theorem Web.Reachable.withdraw_iff_payable_credited :
    ∃ (w : Setting) (s : Web) (schemes : Http.Schemes) (moment : Http.Moment) (r : Http.Request),
      Web.Reachable w "http://accrual" s ∧ Http.RequestOf schemes default moment r ∧
      Http.AsksWithdrawal r " 0" { coeff := 250, scale := 2 } ∧
      (∃ record, ((withdraw default " 0" { coeff := 250, scale := 2 }).run moment.answer
        s.state.trace.state).1 =
        .ok record) ∧
      (Http.served schemes moment r s.state.trace.state).1.status = 200 := by
  let claims : Claims := { sub := default, issuedAt := default, expiresAt := default }
  let schemes : Http.Schemes :=
    { passwords := { hash := fun _ _ => .ok "", verify := fun _ _ => .ok true }
      tokens := { issue := fun _ _ => .ok "", validate := fun _ _ => .ok claims } }
  let moment : Http.Moment := { now := default, salt := [], stamp := fun _ _ => default }
  let body : List UInt8 := Text.Utf8.encode "\x7b\"order\":\" 0\",\"sum\":\"2.50\"\x7d"
  let r : Http.Request :=
    { method := "POST", path := "/api/user/balance/withdraw", body := body
      headers := [("authorization", "Bearer t"), ("content-type", "application/json")] }
  have htarget : Http.App.target r = .endpoint .withdraw .post := by decide +kernel
  have htoken : Http.token? r.headers = some "t" := by decide +kernel
  have hcoding : r.headers.first? "content-encoding" = none := by decide +kernel
  have hbody : Http.Body.ofRequest? r = some (.plain body) := by
    simp only [Http.Body.ofRequest?, hcoding]; rfl
  have hrequest : Http.RequestOf schemes default moment r :=
    { authenticated := ⟨"t", claims, htoken, rfl, rfl⟩
      isProtected := by rw [htarget]; rfl }
  have hasks : Http.AsksWithdrawal r " 0" { coeff := 250, scale := 2 } :=
    { target := htarget
      isJson := by decide +kernel
      document := ⟨_, hbody, by decide +kernel⟩ }
  obtain ⟨w, s, h, hbalance⟩ := Web.exists_reachable_credited
  have hpayable :
      Payable (s.state.trace.state.balanceOf default) " 0" { coeff := 250, scale := 2 } := by
    rw [hbalance]
    exact
      { given := by decide +kernel
        positive := by rw [toRat_eq]; norm_num
        cents := (onGrid_toRat _)
        valid := by decide +kernel
        covered := by simp only [toRat_eq]; norm_num
        room := by simp only [toRat_eq, Points.max, Decimal.zero]; norm_num }
  obtain ⟨hiff, -, -, hserved⟩ :=
    h.withdraw_iff_payable moment default " 0" { coeff := 250, scale := 2 }
  obtain ⟨record, hrecord⟩ := hiff.mpr hpayable
  exact ⟨w, s, schemes, moment, r, h, hrequest, hasks, ⟨record, hrecord⟩,
    (hserved schemes r hrequest hasks).2.1 record hrecord⟩

end System

end Loyalty
