import Loyalty.Proofs.Http.Serving
import Loyalty.Proofs.Memory.View
import Loyalty.Proofs.System.Submissions

/-!
# Loyalty.Proofs.Http.Isolation

Users are isolated from each other.

A request of one user is served by the stores in memory at some moment, which
gives the time, and a stamp to what comes into being.  What it does to the
stores leaves the view of every other user as it is (`view_served`): whatever
the route, it only makes calls for its own user.  What it is answered is told
by the view of its own user and, for a number that it submits, by whether the
number has an order and that user owns it (`served_eq_of_agree`): identifiers
and instants of what comes into being are in no response.
-/

namespace Loyalty.Http

open Loyalty.System (Action)
open Store Store.Memory App

/-! ## requests served -/

/-- What a request finds besides the stores. -/
structure Moment where
  now : Instant
  salt : List UInt8
  /-- The stamp of each call. -/
  stamp : Memory.State → StoreCall → Stamp

/-- The answers to the questions of a use case. -/
def Moment.answer (moment : Moment) : (q : Need) → Memory.State → q.Answer × Memory.State
  | .store call, s => Memory.step (moment.stamp s call) s call
  | .now, s => (moment.now, s)
  | .salt, s => (moment.salt, s)

/-- The response to a request, and what the stores keep after it. -/
def served (schemes : Schemes) (moment : Moment) (r : Request) (s : Memory.State) :
    Response × Memory.State :=
  (serve schemes r).run moment.answer s

/-- A request for something protected, with a token of a user that holds at the moment. -/
structure RequestOf (schemes : Schemes) (userId : UserId) (moment : Moment) (r : Request) :
    Prop where
  authenticated : AuthenticatedAs schemes.tokens r moment.now userId
  isProtected : (target r).isProtected = true

section

variable {schemes : Schemes} {moment moment' : Moment} {r : Request} {a b : UserId}
  {s s' : Memory.State}

theorem served_of_unknown (hbody : Body.ofRequest? r = none) :
    served schemes moment r s = (finish r (target r) unknownCoding, s) := by
  rw [served, serve_of_unknown schemes hbody, Program.run_done]

/-- A request of a user is served by what is done for that user. -/
theorem RequestOf.served_eq (h : RequestOf schemes b moment r) {body : Body}
    (hbody : Body.ofRequest? r = some body) :
    served schemes moment r s =
      (sent r ((handle r body b (target r)).run moment.answer s).1,
        ((handle r body b (target r)).run moment.answer s).2) := by
  obtain ⟨rest, hserve, hnow⟩ := serve_of_authenticated h.authenticated h.isProtected hbody
  rw [served, hserve, Program.run_ask]
  change (rest moment.now).run moment.answer s = _
  rw [hnow, Program.run_bind, Program.run_done]

/-! ## what a request does to others -/

/-- What is done for a user asks only what that user's actions need. -/
theorem asks_handle (schemes : Schemes) (r : Request) (body : Body) (b : UserId) (t : Target) :
    (handle r body b t).Asks fun q => ∃ action : Action, action.user? = some b ∧
      action.Needs q := by
  cases handle_cases schemes r body b t with
  | inl hdone =>
      obtain ⟨response, hresponse⟩ := hdone
      rw [hresponse]
      exact .done _
  | inr hanswer =>
      obtain ⟨action, respond, huser, heq⟩ := hanswer
      rw [heq, answer_eq]
      have hasks := action.asks_program schemes.passwords schemes.tokens
      exact (hasks.mono fun q hq => ⟨action, huser, hq⟩).bind fun _ => .done _

/-- An answer to what a user's action needs changes no other user's view. -/
theorem Moment.view_answer (moment : Moment) {action : Action} (hb : action.user? = some b)
    (hne : a ≠ b) {q : Need} (hq : action.Needs q) (s : Memory.State) :
    (moment.answer q s).2.view a = s.view a := by
  cases q with
  | store call =>
      exact s.view_step _ (Action.Makes.user?_ne hq hb hne) (Action.Makes.ne_updateStatus hq)
  | now | salt => rfl

theorem Moment.indexed_answer (moment : Moment) (q : Need) (hs : s.Indexed) :
    (moment.answer q s).2.Indexed := by
  cases q with
  | store call => exact (s.files_step _ call).indexed hs
  | now | salt => exact hs

/-- A request of one user leaves what another sees as it is. -/
theorem RequestOf.view_served (h : RequestOf schemes b moment r) (hne : a ≠ b) (s : Memory.State) :
    (served schemes moment r s).2.view a = s.view a := by
  cases hbody : Body.ofRequest? r with
  | none => rw [served_of_unknown hbody]
  | some body =>
      rw [h.served_eq hbody]
      have hanswer :
          ∀ q (s' : Memory.State), (∃ action : Action, action.user? = some b ∧ action.Needs q) →
          s'.view a = s.view a → (moment.answer q s').2.view a = s.view a := by
        intro q s' hq hs'
        obtain ⟨action, huser, hneeds⟩ := hq
        exact (moment.view_answer huser hne hneeds s').trans hs'
      exact (asks_handle schemes r body b (target r)).run hanswer rfl

/-- A request leaves the index of the orders faithful. -/
theorem indexed_served (hs : s.Indexed) : (served schemes moment r s).2.Indexed :=
  (serve schemes r).asks_true.run (fun q _ _ => moment.indexed_answer q) hs

/-! ## what a request is told -/

/-- The answer to the submission of a number, by whether an order has it and whose that is. -/
def numberResponse : Option Bool → Response
  | none => .ofStatus 202
  | some true => .ofStatus 200
  | some false => domainFailure (.conflict "order number belongs to another user")

/-- How a submission is answered is told by whether an order has the number and whose that is. -/
theorem outcome_submit {raw : String} {n : OrderNumber} (hs : s.Indexed)
    (hparse : OrderNumber.parse? raw = some n) :
    outcome submissionResponse ((Orders.submit b raw).run moment.answer s).1 =
      numberResponse (s.owned? b n) := by
  rw [System.submit_of_parse? hparse, Program.run_ask]
  cases ho : s.order? n with
  | none =>
      have hcreate := (hs.createOrder_of_none ho (moment.stamp s (.createOrder b n)) b).1
      have hanswer : (moment.answer (.store (.createOrder b n)) s).1 = .ok _ := hcreate
      rw [hanswer, State.owned?, ho]
      rfl
  | some o =>
      have hcreate := hs.createOrder_of_some ho (moment.stamp s (.createOrder b n)) b
      have hanswer : moment.answer (.store (.createOrder b n)) s = (.error .duplicate, s) := hcreate
      have hfound : (moment.answer (.store (.findByNumber n)) s).1 = .ok (some o) :=
        congrArg Except.ok ho
      rw [hanswer, Orders.filed, UseCase.call, Program.run_ask, hfound]
      by_cases huser : o.userId = b
      · simp [Orders.resubmitted, huser, State.owned?, ho, numberResponse, outcome,
          submissionResponse]
      · simp [Orders.resubmitted, huser, State.owned?, ho, numberResponse, outcome, UseCase.refuse,
          serviceFailure]

/-- A withdrawal is refused before the stores are asked, or is a debit of a positive amount. -/
theorem withdraw_cases (u : UserId) (raw : String) (amount : Points) :
    (∃ r, Ledger.withdraw u raw amount = .done r) ∨
    ∃ n, 0 < amount.coeff ∧
      Ledger.withdraw u raw amount = UseCase.call (.debit u n amount) fun withdrawal =>
        .done (.ok withdrawal) := by
  unfold Ledger.withdraw
  cases Orders.ensureNumber raw with
  | error e => exact .inl ⟨_, rfl⟩
  | ok _ =>
      cases hpositive : ensurePositive amount with
      | error e => exact .inl ⟨_, rfl⟩
      | ok _ =>
          cases ensureCents amount with
          | error e => exact .inl ⟨_, rfl⟩
          | ok _ =>
              cases OrderNumber.parse raw with
              | error e => exact .inl ⟨_, rfl⟩
              | ok n => exact .inr ⟨n, ensurePositive_eq_ok_iff.mp hpositive, rfl⟩

/-- A use case that is one call. -/
theorem run_call (moment : Moment) (c : StoreCall) (s : Memory.State) :
    ((UseCase.call c fun v => .done (.ok v)).run moment.answer s).1 =
      (moment.answer (.store c) s).1.mapError .ofStore := by
  rw [UseCase.call, Program.run_ask]
  cases (moment.answer (.store c) s).1 <;> rfl

/-- What a call that answers alike comes to is the same. -/
theorem outcome_read {c : StoreCall} {respond : c.Value → Response}
    (h : (moment.answer (.store c) s).1 = (moment'.answer (.store c) s').1) :
    outcome respond ((UseCase.call c fun v => .done (.ok v)).run moment.answer s).1 =
      outcome respond ((UseCase.call c fun v => .done (.ok v)).run moment'.answer s').1 := by
  rw [run_call, run_call, h]

/-- Where all successes are answered alike, answers of the stores that fail alike are. -/
theorem outcome_congr {α : Type} (response : Response) {answer answer' : Except StoreError α}
    (h : answer.map (fun _ => ()) = answer'.map fun _ => ()) :
    outcome (fun _ => response) (answer.mapError .ofStore) =
      outcome (fun _ => response) (answer'.mapError .ofStore) := by
  cases answer with
  | error e =>
      cases answer' with
      | error e' => rw [Except.error.inj h]
      | ok _ => contradiction
  | ok _ =>
      cases answer' with
      | error _ => contradiction
      | ok _ => rfl

/-- How a withdrawal is answered is told by the balance. -/
theorem outcome_withdraw {raw : String} {amount : Points} {response : Response}
    (hbalance : s.balanceOf b = s'.balanceOf b) :
    outcome (fun _ => response) ((Ledger.withdraw b raw amount).run moment.answer s).1 =
      outcome (fun _ => response) ((Ledger.withdraw b raw amount).run moment'.answer s').1 := by
  cases withdraw_cases b raw amount with
  | inl hrefused =>
      obtain ⟨result, hresult⟩ := hrefused
      rw [hresult]
      rfl
  | inr hdebit =>
      obtain ⟨n, hpositive, hcall⟩ := hdebit
      have hanswer := s.debit_answer (moment.stamp s (.debit b n amount)) b n hpositive
      have hanswer' := s'.debit_answer (moment'.stamp s' (.debit b n amount)) b n hpositive
      have hsame : (moment.answer (.store (.debit b n amount)) s).1.map (fun _ => ()) =
          (moment'.answer (.store (.debit b n amount)) s').1.map fun _ => () :=
        hanswer.trans (by rw [hbalance]; exact hanswer'.symm)
      rw [hcall, run_call, run_call]
      exact outcome_congr response hsame

/-- An answer is the outcome of what the use case comes to. -/
theorem run_answer {α : Type} (moment : Moment) (p : UseCase α) (respond : α → Response)
    (s : Memory.State) :
    ((answer p respond).run moment.answer s).1 = outcome respond (p.run moment.answer s).1 := by
  rw [answer_eq, Program.run_bind, Program.run_done]

/-- What is done for a user is told by what the user sees and by whose a submitted number is. -/
theorem handle_eq_of_agree {body : Body} (hbody : Body.ofRequest? r = some body) (hs : s.Indexed)
    (hs' : s'.Indexed) (hview : s.view b = s'.view b)
    (hnumber : ∀ raw n, SubmitsText r raw → Text.trim raw = n.text → s.owned? b n = s'.owned? b n) :
    ((handle r body b (target r)).run moment.answer s).1 =
      ((handle r body b (target r)).run moment'.answer s').1 := by
  have hbalance : s.balanceOf b = s'.balanceOf b := congrArg View.balance hview
  have horders : s.ordersOf b = s'.ordersOf b := congrArg View.orders hview
  have hwithdrawals : s.withdrawalsOf b = s'.withdrawalsOf b := congrArg View.withdrawals hview
  cases ht : target r with
  | wrongMethod resource => rfl
  | nothing => rfl
  | endpoint resource method =>
      cases resource with
      | ping | register | login => rfl
      | balance =>
          rw [handle, serveUser, run_answer, run_answer]
          exact outcome_read (c := .balance b) (congrArg Except.ok hbalance)
      | withdrawals =>
          rw [handle, serveUser, run_answer, run_answer]
          exact outcome_read (c := .listWithdrawals b) (congrArg Except.ok hwithdrawals)
      | withdraw =>
          simp only [handle, serveUser, document]
          split
          · rw [run_answer, run_answer]
            exact outcome_withdraw hbalance
          · rfl
      | orders =>
          cases method with
          | get =>
              rw [handle, serveUser, run_answer, run_answer]
              exact outcome_read (c := .listByUser b) (congrArg Except.ok horders)
          | post =>
              simp only [handle, serveUser]
              cases htext : body.text with
              | error response => rfl
              | ok raw =>
                  simp only [run_answer]
                  cases hparse : OrderNumber.parse? raw with
                  | some n =>
                      have howned := hnumber raw n ⟨ht, body, hbody, htext⟩
                        (OrderNumber.parse?_eq_some_iff.mp hparse)
                      rw [outcome_submit hs hparse, outcome_submit hs' hparse, howned]
                  | none =>
                      rw [System.submit_of_invalid (OrderNumber.parse?_eq_none_iff.mp hparse)]
                      rfl

/-- The response to a request of a user is told by what the user sees and by whose a submitted
number is. -/
theorem RequestOf.served_eq_of_agree (h : RequestOf schemes b moment r)
    (h' : RequestOf schemes b moment' r) (hs : s.Indexed) (hs' : s'.Indexed)
    (hview : s.view b = s'.view b)
    (hnumber : ∀ raw n, SubmitsText r raw → Text.trim raw = n.text → s.owned? b n = s'.owned? b n) :
    (served schemes moment r s).1 = (served schemes moment' r s').1 := by
  cases hbody : Body.ofRequest? r with
  | none => rw [served_of_unknown hbody, served_of_unknown hbody]
  | some body =>
      rw [h.served_eq hbody, h'.served_eq hbody]
      exact congrArg (sent r) (handle_eq_of_agree hbody hs hs' hview hnumber)

end

/-- **Users are isolated from each other**: for a request of one user for anything that is
protected, and whatever calls led to the state in which it is served,

* what every other user sees of balance, orders and withdrawals is the same after it as before, and
  every request of another user to get something is answered as before;
* in two states in which the user sees the same, and in which a number that the request submits is
  in the same way free, the user's, or somebody else's, the response is the same, whatever the
  moments. -/
theorem RequestOf.isolated {schemes : Schemes} {b : UserId} {moment : Moment} {r : Request}
    (h : RequestOf schemes b moment r) :
    (∀ requests a, a ≠ b →
      (served schemes moment r (Trace.run requests).state).2.view a =
        (Trace.run requests).state.view a ∧
      ∀ moment' r' resource, RequestOf schemes a moment' r' → target r' = .endpoint resource .get →
        (served schemes moment' r' (served schemes moment r (Trace.run requests).state).2).1 =
          (served schemes moment' r' (Trace.run requests).state).1) ∧
    ∀ requests requests' moment', RequestOf schemes b moment' r →
      (Trace.run requests).state.view b = (Trace.run requests').state.view b →
      (∀ raw n, SubmitsText r raw → Text.trim raw = n.text →
        (Trace.run requests).state.owned? b n = (Trace.run requests').state.owned? b n) →
      (served schemes moment r (Trace.run requests).state).1 =
        (served schemes moment' r (Trace.run requests').state).1 := by
  have hindexed : ∀ requests, (Trace.run requests).state.Indexed :=
    Trace.run_induction Memory.State.indexed_empty fun t r ht =>
      (t.state.files_step r.stamp r.call).indexed ht
  constructor
  · intro requests a hne
    have hview := h.view_served hne (Trace.run requests).state
    refine ⟨hview, fun moment' r' resource h' ht => ?_⟩
    have hnone : ∀ raw n, SubmitsText r' raw → Text.trim raw = n.text →
        (served schemes moment r (Trace.run requests).state).2.owned? a n =
          (Trace.run requests).state.owned? a n := by
      intro raw n hsubmits
      rw [hsubmits.1] at ht
      cases ht
    exact h'.served_eq_of_agree h' (indexed_served (hindexed requests))
      (hindexed requests) hview hnone
  · intro requests requests' moment' h' hview hnumber
    exact h.served_eq_of_agree h' (hindexed requests) (hindexed requests') hview hnumber

/-- A user who submits a number that somebody has changes nothing for that user, and is not told who
it is. -/
theorem RequestOf.isolated_conflict :
    ∃ (schemes : Schemes) (moment : Moment) (r : Request) (a b c : UserId), a ≠ b ∧ c ≠ b ∧ a ≠ c ∧
      RequestOf schemes b moment r ∧ SubmitsText r "0" ∧
      let s := (Trace.run [⟨default, .createOrder a default⟩]).state
      let s' := (Trace.run [⟨default, .createOrder c default⟩]).state
      (served schemes moment r s).2.view a = s.view a ∧
        (served schemes moment r s).1 = (served schemes moment r s').1 := by
  let claims : Claims := { sub := default, issuedAt := default, expiresAt := default }
  let schemes : Schemes :=
    { passwords := { hash := fun _ _ => .ok "", verify := fun _ _ => .ok true }
      tokens := { issue := fun _ _ => .ok "", validate := fun _ _ => .ok claims } }
  let moment : Moment := { now := default, salt := [], stamp := fun _ _ => default }
  let r : Request :=
    { method := "POST", path := "/api/user/orders", headers := [("authorization", "Bearer t")],
      body := [48] }
  have htarget : target r = .endpoint .orders .post := by decide +kernel
  have htoken : token? r.headers = some "t" := by decide +kernel
  have htext : (Body.plain [48]).text = .ok "0" := by decide +kernel
  have hcoding : r.headers.first? "content-encoding" = none := by decide +kernel
  have hbody : Body.ofRequest? r = some (.plain [48]) := by
    simp only [Body.ofRequest?, hcoding]; rfl
  have hr : RequestOf schemes default moment r :=
    { authenticated := ⟨"t", claims, htoken, rfl, rfl⟩
      isProtected := by rw [htarget]; rfl }
  have hnumber : ∀ raw n, SubmitsText r raw → Text.trim raw = n.text →
      (Trace.run [⟨default, .createOrder ⟨⟨1⟩⟩ default⟩]).state.owned? default n =
        (Trace.run [⟨default, .createOrder ⟨⟨2⟩⟩ default⟩]).state.owned? default n := by
    rintro raw n ⟨-, body, hbody', htext'⟩ hn
    rw [hbody] at hbody'
    obtain rfl := Option.some.inj hbody'
    rw [htext] at htext'
    obtain rfl := Except.ok.inj htext'
    have hdefault : n = default := by
      obtain ⟨text, hvalid⟩ := n
      obtain rfl : text = "0" := hn.symm.trans (by decide +kernel)
      rfl
    rw [hdefault]
    decide +kernel
  obtain ⟨hothers, htold⟩ := hr.isolated
  exact ⟨schemes, moment, r, ⟨⟨1⟩⟩, default, ⟨⟨2⟩⟩, by decide, by decide, by decide, hr,
    ⟨htarget, _, hbody, htext⟩, (hothers _ _ (by decide)).1, htold _ _ _ hr rfl hnumber⟩

end Loyalty.Http
