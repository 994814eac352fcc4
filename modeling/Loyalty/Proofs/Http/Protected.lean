import Loyalty.Proofs.Http.Isolation

/-!
# Loyalty.Proofs.Http.Protected

What is protected is reached only as the user of a token.

The claims of a request are those of its token, if it has one and that holds
(`claims?`).  A request for something protected that has no claims is refused
before a use case is chosen, so nothing but the time is asked and nothing
changes (`serve_of_claims?_eq_none`).  One that has claims does what is done for
their subject (`serve_of_claims?`), and no call for it names another user.
-/

namespace Loyalty.Http

open Loyalty.System (Action)

/-- The claims of the token of a request, if it holds at an instant. -/
def claims? (tokens : TokenScheme) (r : Request) (now : Instant) : Option Claims :=
  (token? r.headers).bind fun token => (tokens.validate token now).toOption

theorem authenticatedAs_of_claims? {tokens : TokenScheme} {r : Request} {now : Instant}
    {claims : Claims} (h : claims? tokens r now = some claims) :
    AuthenticatedAs tokens r now claims.sub := by
  obtain ⟨token, htoken, hclaims⟩ := Option.bind_eq_some_iff.mp h
  refine ⟨token, claims, htoken, ?_, rfl⟩
  cases hvalid : tokens.validate token now with
  | error e => simp [hvalid, Except.toOption] at hclaims
  | ok c => simpa [hvalid, Except.toOption] using hclaims

namespace App

variable {schemes : Schemes} {r : Request} {now : Instant}

/-! ## without claims -/

/-- Without claims the gate of the token is closed, and at most the time is asked to know it. -/
theorem authenticated_of_claims?_eq_none {tokens : TokenScheme} (h : claims? tokens r now = none)
    (next : UserId → Serving) :
    authenticated tokens r next = .done (.ofStatus 401) ∨
    ∃ rest, authenticated tokens r next = .ask .now rest ∧ rest now = .done (.ofStatus 401) := by
  unfold authenticated
  cases htoken : token? r.headers with
  | none => exact .inl rfl
  | some token =>
      refine .inr ⟨_, rfl, ?_⟩
      cases hvalid : tokens.validate token now with
      | error e => simp only
      | ok claims => simp [claims?, htoken, hvalid, Except.toOption] at h

/-- Without claims a request for something protected is refused, and at most the time is asked. -/
theorem serve_of_claims?_eq_none (hr : (target r).isProtected = true)
    (h : claims? schemes.tokens r now = none) :
    ∃ response, response.status = (if Body.ofRequest? r = none then 415 else 401) ∧
      (serve schemes r = .done response ∨
        ∃ rest, serve schemes r = .ask .now rest ∧ rest now = .done response) := by
  cases hbody : Body.ofRequest? r with
  | none =>
      exact ⟨_, by simp [unknownCoding, Response.ofStatus],
        .inl (serve_of_unknown schemes hbody)⟩
  | some body =>
      refine ⟨sent r (.ofStatus 401), by simp [Response.ofStatus], ?_⟩
      rw [serve_of_known schemes hbody, dispatch_of_isProtected schemes r body hr]
      cases authenticated_of_claims?_eq_none h fun userId => handle r body userId (target r) with
      | inl hdone => exact .inl (by rw [hdone, Program.done_bind])
      | inr hask =>
          obtain ⟨rest, hrest, hnow⟩ := hask
          exact .inr ⟨_, by rw [hrest, Program.ask_bind], by rw [hnow, Program.done_bind]⟩

/-! ## with claims -/

/-- A question that does not name another user. -/
def KeepsTo (userId : UserId) (q : Need) : Prop :=
  ∀ call a, q = .store call → call.user? = some a → a = userId

theorem keepsTo_of_needs {action : Action} {userId : UserId} (huser : action.user? = some userId)
    {q : Need} (hq : action.Needs q) : KeepsTo userId q := by
  rintro call a rfl ha
  by_contra hne
  exact hq.user?_ne huser hne ha

/-- With claims a request for something protected asks the time, and then keeps to the user of the
claims. -/
theorem serve_of_claims? (hr : (target r).isProtected = true) {claims : Claims}
    (h : claims? schemes.tokens r now = some claims) :
    (∃ response, serve schemes r = .done response) ∨
    ∃ rest, serve schemes r = .ask .now rest ∧ (rest now).Asks (KeepsTo claims.sub) := by
  cases hbody : Body.ofRequest? r with
  | none => exact .inl ⟨_, serve_of_unknown schemes hbody⟩
  | some body =>
      obtain ⟨rest, hserve, hnow⟩ := serve_of_authenticated (authenticatedAs_of_claims? h) hr hbody
      refine .inr ⟨rest, hserve, ?_⟩
      have hasks := asks_handle schemes r body claims.sub (target r)
      rw [hnow]
      refine (hasks.mono fun q hq => ?_).bind fun _ => .done _
      obtain ⟨action, huser, hneeds⟩ := hq
      exact keepsTo_of_needs huser hneeds

/-- **What is protected is reached only as the user of a token**: for a request for something
protected, with whatever headers and body, in whatever state it is served and whoever answers its
questions, if only the time is told without changing the state,

* when it has no token, or its token does not hold, it asks nothing but the time, so that no call of
  the stores is made, it leaves the state as it is, and it is answered by 401, or by 415 where the
  coding of its body is not known;
* when its token holds, every call of the stores that names a user names the subject of the
  claims. -/
theorem protected_only_as_user (hr : (target r).isProtected = true) {σ : Type}
    {answer : (q : Need) → σ → q.Answer × σ} {s : σ} (hclock : answer .now s = (now, s)) :
    (claims? schemes.tokens r now = none →
      (∀ q ∈ (serve schemes r).questions answer s, q = .now) ∧
      ((serve schemes r).run answer s).2 = s ∧
      ((serve schemes r).run answer s).1.status = if Body.ofRequest? r = none then 415 else 401) ∧
    ∀ claims, claims? schemes.tokens r now = some claims →
      ∀ q ∈ (serve schemes r).questions answer s, KeepsTo claims.sub q := by
  constructor
  · intro hnone
    obtain ⟨response, hstatus, hserve⟩ := serve_of_claims?_eq_none hr hnone
    rw [← hstatus]
    rcases hserve with hdone | ⟨rest, hask, hrest⟩
    · simp [hdone, Program.questions]
    · simp [hask, Program.questions, Program.run_ask, hclock, hrest]
  · intro claims hclaims q hq
    rcases serve_of_claims? hr hclaims with ⟨response, hdone⟩ | ⟨rest, hask, hrest⟩
    · simp [hdone, Program.questions] at hq
    · simp only [hask, Program.questions, hclock, List.mem_cons] at hq
      cases hq with
      | inl hnow => rw [hnow]; nofun
      | inr hmem => exact hrest.of_mem_questions hmem

/-- A token in the header that does not hold is not made up for by one in a cookie that does. -/
theorem protected_only_as_user_cookie :
    ∃ (schemes : Schemes) (moment : Moment) (r : Request) (claims : Claims),
      target r = .endpoint .withdraw .post ∧
        schemes.tokens.validate "good" moment.now = .ok claims ∧
      ("cookie", "auth_token=good") ∈ r.headers ∧
      ∀ s, (∀ q ∈ (serve schemes r).questions moment.answer s, q = .now) ∧
        (served schemes moment r s).2 = s ∧ (served schemes moment r s).1.status = 401 := by
  let schemes : Schemes :=
    { passwords := { hash := fun _ _ => .ok "", verify := fun _ _ => .ok true }
      tokens :=
        { issue := fun _ _ => .ok ""
          validate := fun token _ => if token = "good" then .ok ⟨default, default, default⟩
            else .error (.signing "") } }
  let moment : Moment := { now := default, salt := [], stamp := fun _ _ => default }
  let r : Request :=
    { method := "POST", path := "/api/user/balance/withdraw", body := []
      headers := [("authorization", "Bearer bad"), ("cookie", "auth_token=good")] }
  have htarget : target r = .endpoint .withdraw .post := by decide +kernel
  have htoken : token? r.headers = some "bad" := by decide +kernel
  have hclaims : claims? schemes.tokens r moment.now = none := by
    simp [claims?, htoken, schemes, Except.toOption]
  have hcoding : r.headers.first? "content-encoding" = none := by decide +kernel
  have hbody : Body.ofRequest? r ≠ none := by simp [Body.ofRequest?, hcoding]
  refine ⟨schemes, moment, r, ⟨default, default, default⟩, htarget, rfl, by simp [r], fun s => ?_⟩
  have hprotected : (target r).isProtected = true := by rw [htarget]; rfl
  obtain ⟨hasks, hstate, hstatus⟩ :=
    (protected_only_as_user hprotected (show moment.answer .now s = (moment.now, s) from rfl)).1
      hclaims
  exact ⟨hasks, hstate, hstatus.trans (if_neg hbody)⟩

end App

end Loyalty.Http
