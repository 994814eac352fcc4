import Loyalty.Http.App
import Loyalty.Proofs.System.Requests

/-!
# Loyalty.Proofs.Http.Serving

What is done for a request whose user is known.

A request for something protected asks the time, and goes on when its token
holds then (`AuthenticatedAs`).  What follows is `handle`, and the response is
sent as the request wants it (`serve_of_authenticated`).  Sending changes no
status.  `handle` either knows the response at once or runs the use case of an
action of that very user (`handle_cases`), so that nothing else about the
routes has to be known to say what a request can do.
-/

namespace Loyalty.Http

open Loyalty.System (Action)

/-- A request has a token that holds at an instant and names a user. -/
def AuthenticatedAs (tokens : TokenScheme) (r : Request) (now : Instant) (userId : UserId) : Prop :=
  ∃ token claims, token? r.headers = some token ∧ tokens.validate token now = .ok claims ∧
    claims.sub = userId

@[simp] theorem Negotiation.compress_status (headers : Headers) (response : Response) :
    (compress headers response).status = response.status := by
  simp only [compress]
  repeat' split
  all_goals rfl

namespace App

/-! ## gates -/

/-- Whether only a token opens what a request is about. -/
def Target.isProtected : Target → Bool
  | endpoint resource _ | wrongMethod resource => resource.isProtected
  | nothing => true

/-- What is done for a user behind the gates. -/
def handle (r : Request) (body : Body) (userId : UserId) : Target → Serving
  | .endpoint resource method => serveUser r body userId resource method
  | .wrongMethod _ => .done (.ofStatus 405)
  | .nothing => .done (.ofStatus 404)

/-- A response as it is sent. -/
def sent (r : Request) (response : Response) : Response :=
  finish r (target r) (Negotiation.compress r.headers response)

@[simp] theorem finish_status (r : Request) (t : Target) (response : Response) :
    (finish r t response).status = response.status := by
  unfold finish
  repeat' split
  all_goals rfl

@[simp] theorem sent_status (r : Request) (response : Response) :
    (sent r response).status = response.status := by
  simp [sent]

section

variable {schemes : Schemes} {r : Request} {body : Body} {now : Instant} {userId : UserId}

/-- What is protected is dispatched behind the gate of the token. -/
theorem dispatch_of_isProtected (schemes : Schemes) (r : Request) (body : Body) {t : Target}
    (ht : t.isProtected = true) :
    dispatch schemes r body t = authenticated schemes.tokens r fun userId =>
      handle r body userId t := by
  cases t with
  | endpoint resource method =>
      simp only [dispatch, handle, if_pos (show resource.isProtected = true from ht)]
  | wrongMethod resource =>
      simp only [dispatch, handle, if_pos (show resource.isProtected = true from ht)]
  | nothing => rfl

/-- Behind the gate of the token is what is done for its user. -/
theorem authenticated_of (h : AuthenticatedAs schemes.tokens r now userId)
    (next : UserId → Serving) :
    ∃ rest, authenticated schemes.tokens r next = .ask .now rest ∧ rest now = next userId := by
  obtain ⟨token, claims, htoken, hvalid, hsub⟩ := h
  simp only [authenticated, htoken]
  exact ⟨_, rfl, by simp only [hvalid, hsub]⟩

/-- A body whose coding is not known is refused before anything is asked. -/
theorem serve_of_unknown (schemes : Schemes) (h : Body.ofRequest? r = none) :
    serve schemes r = .done (finish r (target r) unknownCoding) := by
  simp only [serve, h]

/-- A body whose coding is known leaves the request to what is dispatched. -/
theorem serve_of_known (schemes : Schemes) (hbody : Body.ofRequest? r = some body) :
    serve schemes r = (dispatch schemes r body (target r)).bind fun response =>
      .done (sent r response) := by
  simp only [serve, hbody]
  rfl

/-- A request of a user asks the time and then does what is done for the user. -/
theorem serve_of_authenticated (h : AuthenticatedAs schemes.tokens r now userId)
    (ht : (target r).isProtected = true) (hbody : Body.ofRequest? r = some body) :
    ∃ rest, serve schemes r = .ask .now rest ∧
      rest now = (handle r body userId (target r)).bind fun response =>
        .done (sent r response) := by
  obtain ⟨rest, hrest, hnow⟩ := authenticated_of h fun userId => handle r body userId (target r)
  rw [serve_of_known schemes hbody, dispatch_of_isProtected schemes r body ht, hrest]
  exact ⟨_, rfl, by rw [hnow]⟩

end

/-! ## what is answered -/

/-- The answer to what a use case came to. -/
def outcome {α : Type} (respond : α → Response) : Except ServiceError α → Response
  | .ok a => respond a
  | .error e => serviceFailure e

theorem answer_eq {α : Type} (p : UseCase α) (respond : α → Response) :
    answer p respond = p.bind fun result => .done (outcome respond result) := by
  unfold answer
  congr 1
  funext result
  cases result <;> rfl

/-- A request submits a text as an order number. -/
def SubmitsText (r : Request) (raw : String) : Prop :=
  target r = .endpoint .orders .post ∧ ∃ body, Body.ofRequest? r = some body ∧ body.text = .ok raw

/-- How the ends of a submission are answered. -/
structure AnswersSubmission (respond : Except ServiceError Submission → Response) : Prop where
  accepted : ∀ o, (respond (.ok (.accepted o))).status = 202
  already : ∀ o, (respond (.ok (.already o))).status = 200
  conflict : ∀ reason, (respond (.error (.domain (.conflict reason)))).status = 409
  validation : ∀ reason, (respond (.error (.domain (.validation reason)))).status = 400
  invalidOrderNumber : ∀ text, (respond (.error (.domain (.invalidOrderNumber text)))).status = 422

theorem answersSubmission (r : Request) :
    AnswersSubmission fun result => sent r (outcome submissionResponse result) where
  accepted o := by rw [sent_status]; rfl
  already o := by rw [sent_status]; rfl
  conflict reason := by rw [sent_status]; rfl
  validation reason := by rw [sent_status]; rfl
  invalidOrderNumber text := by rw [sent_status]; rfl

/-- A submission over HTTP is the submission of its text, and the answer to what that comes to. -/
theorem serve_submission {schemes : Schemes} {r : Request} {raw : String} {now : Instant}
    {userId : UserId} (h : AuthenticatedAs schemes.tokens r now userId) (hraw : SubmitsText r raw) :
    ∃ rest respond, serve schemes r = .ask .now rest ∧
      (rest now = (Orders.submit userId raw).bind fun result => .done (respond result)) ∧
      AnswersSubmission respond := by
  obtain ⟨ht, body, hbody, htext⟩ := hraw
  have hprotected : (target r).isProtected = true := by rw [ht]; rfl
  obtain ⟨rest, hserve, hnow⟩ := serve_of_authenticated h hprotected hbody
  have hrest : rest now = (Orders.submit userId raw).bind fun result =>
      .done (sent r (outcome submissionResponse result)) := by
    simp only [hnow, ht, handle, serveUser, htext, answer_eq, Program.bind_assoc, Program.done_bind]
  exact ⟨rest, _, hserve, hrest, answersSubmission r⟩

/-! ## what is done for a user -/

/-- What is done for a user is known at once, or is a use case of that user. -/
theorem handle_cases (schemes : Schemes) (r : Request) (body : Body) (userId : UserId)
    (t : Target) :
    (∃ response, handle r body userId t = .done response) ∨
    ∃ (action : Action) (respond : action.Result → Response), action.user? = some userId ∧
      handle r body userId t =
        answer (action.program schemes.passwords schemes.tokens) respond := by
  cases t with
  | wrongMethod resource => exact .inl ⟨_, rfl⟩
  | nothing => exact .inl ⟨_, rfl⟩
  | endpoint resource method =>
      cases resource with
      | ping | register | login => exact .inl ⟨_, rfl⟩
      | balance => exact .inr ⟨.balance userId, _, rfl, rfl⟩
      | withdrawals => exact .inr ⟨.withdrawals userId, _, rfl, rfl⟩
      | orders =>
          cases method with
          | get => exact .inr ⟨.orders userId, _, rfl, rfl⟩
          | post =>
              cases htext : body.text with
              | error response => exact .inl ⟨response, by simp only [handle, serveUser, htext]⟩
              | ok raw =>
                  exact .inr ⟨.submit userId raw, submissionResponse, rfl, by
                    simp only [handle, serveUser, htext]
                    rfl⟩
      | withdraw =>
          simp only [handle, serveUser, document]
          split
          · next w _ => exact .inr ⟨.withdraw userId w.order w.sum, _, rfl, rfl⟩
          · exact .inl ⟨_, rfl⟩

end App

end Loyalty.Http
