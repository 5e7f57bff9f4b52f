import IdentityGateway.Proofs.Gateway.Body
import IdentityGateway.Proofs.Gateway.Comparison
import IdentityGateway.Proofs.Gateway.Questions
import IdentityGateway.Proofs.Gateway.Responses
import IdentityGateway.Proofs.Grant.Hidden

/-!
# Secrets stay out of the log

Two requests that differ only in what they present as secrets, and in the tokens that the core
answers with, leave the same events if they are answered with the same status. It does not matter
whether the core's answer has the shape of a grant, unless it is a session that is a plain string:
then the complaint about it quotes the string, and the log tells it.
-/

namespace IdentityGateway

open Consultation (Alike)
open Http (FieldValue Request Response)
open Json (Value)

/-- What is said of a value that a core answers with to a request for a grant. -/
def Grant.judged (v : Value) : GrantResult :=
  match ofJson v with
  | .ok g => .ok g
  | .error m => .error (.invalidResponse m.message)

/-- Two answers to requests for a grant that may differ in tokens only. -/
inductive Grant.SameButTokens : GrantResult → GrantResult → Prop
  | failed (failure : CoreFailure) : SameButTokens (.error failure) (.error failure)
  | granted {g g' : Grant} (same : g.blanked = g'.blanked) : SameButTokens (.ok g) (.ok g')
  | judged {v w : Value} (same : Grant.hidden v = Grant.hidden w) (plain : ¬ HasPlainSession v) :
      SameButTokens (judged v) (judged w)

/-- Grants that are the same but for their tokens are for the same user. -/
theorem Grant.user_eq_of_blanked {g g' : Grant} (h : g.blanked = g'.blanked) :
    g.user = g'.user := by
  have huser : ∀ g : Grant, g.blanked.user = g.user := by
    intro g
    cases g <;> rfl
  rw [← huser g, h, huser g']

/-- Answers that differ in tokens only are the same failure or grants for the same user. -/
theorem Grant.SameButTokens.map_user {r r' : GrantResult} (h : SameButTokens r r') :
    r.map Grant.user = r'.map Grant.user := by
  cases h with
  | failed failure => rfl
  | granted same => exact congrArg Except.ok (user_eq_of_blanked same)
  | @judged v w same plain =>
    have hplain : ¬ HasPlainSession w := fun hw => plain (hasPlainSession_of_hidden same hw)
    have hread : (ofJson v).map blanked = (ofJson w).map blanked := by
      rw [← ofJson_hidden plain, same, ofJson_hidden hplain]
    rcases cases_of_except_map_eq hread with ⟨m, hv, hw⟩ | ⟨g, g', hv, hw, hsame⟩
    · simp only [Grant.judged, hv, hw]
    · simp only [Grant.judged, hv, hw]
      exact congrArg Except.ok (user_eq_of_blanked hsame)

namespace Gateway

/-- Two requests that may differ in secrets only, with what the core says to each. -/
structure SameButSecrets (service : Service) (x y : Answers) (request request' : Request) :
    Prop where
  method : request.method = request'.method
  path : request.path = request'.path
  /-- Both have a credential from the same place about which the same is said, or none has. -/
  credential : Access.SameCredential x y
    (Credential.extract request.headers service.desk.cookieName)
    (Credential.extract request'.headers service.desk.cookieName)
  /-- If both ask for a grant, the answers may differ in tokens only. -/
  grant : ∀ r r', question service request = some (.grant r) →
    question service request' = some (.grant r') → Grant.SameButTokens (x.grant r) (y.grant r')

/-! ## Events -/

section

variable {α : Type} {x y : Answers} {desk : Access.Desk} {request request' : Request}

/-- What is noted of a grant. -/
theorem noted_tellGrant (request : GrantRequest) (status : Nat) (event : Grant → Option Event)
    (answers : Answers) :
    (tellGrant request status event).noted answers =
      match answers.grant request with
      | .error failure => (Event.ofCoreFailure failure).toList
      | .ok g => (event g).toList := by
  simp only [tellGrant, Consultation.noted_bind, Consultation.result_askGrant]
  rcases answers.grant request with failure | g
  · cases failure <;> rfl
  · cases hevent : event g <;> simp only [hevent] <;> rfl

/-- A core's failure that is told as a request in error is noted nowhere. -/
theorem noted_tellGrant_of_status {r : GrantRequest} {status : Nat} {event : Grant → Option Event}
    (hstatus : status ≠ 400) (htold : ((tellGrant r status event).result x).status = 400) :
    (tellGrant r status event).noted x = [] := by
  rw [result_tellGrant] at htold
  rw [noted_tellGrant]
  cases hsaid : x.grant r with
  | ok g =>
    rw [hsaid] at htold
    exact absurd htold hstatus
  | error failure =>
    rw [hsaid] at htold
    cases failure with
    | emailTaken => rfl
    | invalidCredentials => rfl
    | unavailable detail => cases htold
    | invalidResponse detail => cases htold
    | internal detail => cases htold

/-- Of two requests for a grant that are told the same status the same is noted, if the core says
the same of their users. -/
theorem noted_grant_eq {r r' : Except RequestFailure α} {ask : α → GrantRequest} {status : Nat}
    {event : Grant → Option Event} (hstatus : status ≠ 400)
    (hr : ∀ f, r = .error f → f.status = 400) (hr' : ∀ f, r' = .error f → f.status = 400)
    (hevent : ∀ g g' : Grant, g.user = g'.user → event g = event g')
    (hsaid : ∀ a b, r = .ok a → r' = .ok b →
      (x.grant (ask a)).map Grant.user = (y.grant (ask b)).map Grant.user)
    (htold : ((orFailure r fun a => tellGrant (ask a) status event).result x).status =
      ((orFailure r' fun a => tellGrant (ask a) status event).result y).status) :
    (orFailure r fun a => tellGrant (ask a) status event).noted x =
      (orFailure r' fun a => tellGrant (ask a) status event).noted y := by
  cases r with
  | error f =>
    cases r' with
    | error f' => rfl
    | ok b =>
      -- the second request was told as one in error, too
      have hlater : ((tellGrant (ask b) status event).result y).status = 400 :=
        htold.symm.trans (hr f rfl)
      exact (noted_tellGrant_of_status hstatus hlater).symm
  | ok a =>
    cases r' with
    | error f' =>
      have hearlier : ((tellGrant (ask a) status event).result x).status = 400 :=
        htold.trans (hr' f' rfl)
      exact noted_tellGrant_of_status hstatus hearlier
    | ok b =>
      have halike : Alike (fun _ => ()) x y (tellGrant (ask a) status event)
          (tellGrant (ask b) status event) :=
        alike_tellGrant (hsaid a b rfl rfl) hevent fun _ _ _ => rfl
      exact halike.noted

/-- Of two requests at a route that takes bodies that are told the same status the same is noted,
if the core says the same of the users of their grants. -/
theorem Route.Posts.noted_eq {route : Route} {kind : RequestKind α} {ask : α → GrantRequest}
    {status : Nat} {event : Grant → Option Event} (h : route.Posts desk kind ask status event)
    (hmethod : request.method = request'.method)
    (hsaid : ∀ r r', route.question desk request = some (.grant r) →
      route.question desk request' = some (.grant r') →
      (x.grant r).map Grant.user = (y.grant r').map Grant.user)
    (htold : ((answerRoute desk route request).result x).status =
      ((answerRoute desk route request').result y).status) :
    (answerRoute desk route request).noted x = (answerRoute desk route request').noted y := by
  rw [h.answer, h.answer, hmethod] at htold ⊢
  cases hanswers : route.answers request'.method with
  | false => rfl
  | true =>
    rw [hanswers] at htold
    refine noted_grant_eq h.status (fun _ => Body.status_of_checked)
      (fun _ => Body.status_of_checked) h.event ?_ htold
    intro a b ha hb
    refine hsaid (ask a) (ask b) ?_ ?_
    · rw [h.question, hmethod, if_pos hanswers, grantQuestion, ha]
      rfl
    · rw [h.question, if_pos hanswers, grantQuestion, hb]
      rfl

/-- Of two requests at a route that are told the same status the same is noted, if the core says
the same of their credentials and of the users of their grants. -/
theorem noted_answerRoute_eq (route : Route) (hmethod : request.method = request'.method)
    (hcredential : Access.SameCredential x y (Credential.extract request.headers desk.cookieName)
      (Credential.extract request'.headers desk.cookieName))
    (hsaid : ∀ r r', route.question desk request = some (.grant r) →
      route.question desk request' = some (.grant r') →
      (x.grant r).map Grant.user = (y.grant r').map Grant.user)
    (htold : ((answerRoute desk route request).result x).status =
      ((answerRoute desk route request').result y).status) :
    (answerRoute desk route request).noted x = (answerRoute desk route request').noted y := by
  cases route with
  | health => exact (alike_answerRoute_health hmethod).noted
  | session => exact (alike_answerRoute_session hmethod hcredential).noted
  | me => exact (alike_answerRoute_me hmethod hcredential).noted
  | register => exact (Route.posts_register desk).noted_eq hmethod hsaid htold
  | login => exact (Route.posts_login desk).noted_eq hmethod hsaid htold
  | refresh => exact (Route.posts_refresh desk).noted_eq hmethod hsaid htold

/-- Of two requests that get to the time limit the same is noted, if they may differ in secrets
only and are answered with the same status. -/
theorem SameButSecrets.noted_answerInTime_eq {service : Service}
    (h : SameButSecrets service x y request request')
    (hlength : Body.isDeclaredTooLong request.headers = false)
    (hlength' : Body.isDeclaredTooLong request'.headers = false)
    (htold : ((answerInTime service request).result x).status =
      ((answerInTime service request').result y).status) :
    (answerInTime service request).noted x = (answerInTime service request').noted y := by
  unfold answerInTime answerPath at htold ⊢
  rw [h.method, h.path] at htold ⊢
  by_cases hmethod : request'.method = "OPTIONS"
  · rw [if_pos hmethod, if_pos hmethod]
    rfl
  · rw [if_neg hmethod, if_neg hmethod] at htold ⊢
    rw [Consultation.noted_bind, Consultation.noted_bind]
    rw [Consultation.result_bind, Consultation.result_bind] at htold
    cases hroute : Route.ofPath? request'.path with
    | none => rfl
    | some route =>
      rw [hroute] at htold
      have hquestion : question service request = route.question service.desk request :=
        question_eq_of_route hlength (h.method ▸ hmethod) (h.path ▸ hroute)
      have hquestion' : question service request' = route.question service.desk request' :=
        question_eq_of_route hlength' hmethod hroute
      have hsaid := fun r r' hr hr' =>
        (h.grant r r' (hquestion.trans hr) (hquestion'.trans hr')).map_user
      exact congrArg (· ++ []) (noted_answerRoute_eq route h.method h.credential hsaid htold)

/-- Of two requests the same is noted, if they may differ in secrets only and are answered with the
same status. -/
theorem SameButSecrets.noted_eq {service : Service}
    (h : SameButSecrets service x y request request')
    (htold : ((answerWithId service request).result x).status =
      ((answerWithId service request').result y).status) :
    (answerWithId service request).noted x = (answerWithId service request').noted y := by
  -- no other answer has the status of one to a request that is too long
  have hother : 413 ∉ answered := by decide
  unfold answerWithId at htold ⊢
  cases hlength : Body.isDeclaredTooLong request.headers with
  | true =>
    cases hlength' : Body.isDeclaredTooLong request'.headers with
    | true => rfl
    | false =>
      rw [hlength, hlength'] at htold
      have hstatus : 413 = ((answerInTime service request').result y).status := htold
      exact absurd (hstatus ▸ status_answerInTime_mem service request' y) hother
  | false =>
    cases hlength' : Body.isDeclaredTooLong request'.headers with
    | true =>
      rw [hlength, hlength'] at htold
      have hstatus : ((answerInTime service request).result x).status = 413 := htold
      exact absurd (hstatus ▸ status_answerInTime_mem service request x) hother
    | false =>
      rw [hlength, hlength'] at htold
      exact h.noted_answerInTime_eq hlength hlength' htold

end

section

variable {σ τ : Type}

/-- **Secrets.** Whatever two cores do, two requests leave the same events if they differ in
secrets only, and in the tokens that are answered, and are answered with the same status. -/
theorem events_eq_of_sameButSecrets (service : Service) (core : Core σ) (other : Core τ)
    (m m' : Moment) (id id' : FieldValue) (request request' : Request) (s : σ) (t : τ)
    (h : SameButSecrets service (core.answers m s) (other.answers m' t) request request')
    (hstatus : (serve service core m id request s).response.status =
      (serve service other m' id' request' t).response.status) :
    (serve service core m id request s).events =
      (serve service other m' id' request' t).events := by
  rw [serve_status, serve_status] at hstatus
  rw [serve_events, serve_events]
  cases hintime : core.isInTime m (some service.timeLimit) 0 s (question service request) with
  | false =>
    cases hintime' : other.isInTime m' (some service.timeLimit) 0 t (question service request') with
    | false => rfl
    | true =>
      rw [hintime, hintime'] at hstatus
      exact absurd hstatus.symm (status_answerWithId_ne service request' _)
  | true =>
    cases hintime' : other.isInTime m' (some service.timeLimit) 0 t (question service request') with
    | false =>
      rw [hintime, hintime'] at hstatus
      exact absurd hstatus (status_answerWithId_ne service request _)
    | true =>
      rw [hintime, hintime'] at hstatus
      exact h.noted_eq hstatus

end

/-! ## Sessions without their users -/

/-- A client's request to exchange a refresh token, which the core answers with a session below. -/
def exchange (token : String) : Request :=
  ⟨"POST", "/api/v1/auth/refresh", [("content-type", Http.asciiBytes "application/json")],
    Http.asciiBytes ("\x7b\"refresh_token\":\"" ++ token ++ "\"\x7d")⟩

/-- A core that answers with a session, and does not say whose it is. -/
def sessionCore (session : Value) : Core Unit where
  name := "session"
  lookup _ _ s := (⟨.ok none, 0⟩, s)
  grant _ _ s := (⟨Grant.judged (.object [("session", session)]), 0⟩, s)

/-- Neither the tokens that are exchanged nor those of the sessions are noted. -/
theorem events_eq_sessionCore :
    let x := serve cookieService (sessionCore (.object [("token", .string "alpha")])) firstMoment []
      (exchange "old") ()
    let y := serve cookieService (sessionCore (.object [("token", .string "beta")])) firstMoment []
      (exchange "older") ()
    x.response.status = 503 ∧ y.response.status = 503 ∧ x.events ≠ [] ∧ x.events = y.events := by
  intro x y
  have hx : x.response.status = 503 := by decide
  have hy : y.response.status = 503 := by decide
  refine ⟨hx, hy, by decide, ?_⟩
  refine events_eq_of_sameButSecrets _ _ _ _ _ _ _ _ _ _ _ ⟨rfl, rfl, .none, ?_⟩ (hx.trans hy.symm)
  intro r r' _ _
  refine .judged (v := .object [("session", .object [("token", .string "alpha")])])
    (w := .object [("session", .object [("token", .string "beta")])]) rfl ?_
  rintro ⟨_, members, s, hmembers, hmem⟩
  cases hmembers
  simp at hmem

/-- Sessions that are plain strings are noted, although the answers are the same but for them. -/
theorem events_ne_plainSession :
    let x := serve cookieService (sessionCore (.string "alpha")) firstMoment [] (exchange "old") ()
    let y := serve cookieService (sessionCore (.string "beta")) firstMoment [] (exchange "old") ()
    Grant.hidden (.object [("session", .string "alpha")]) =
        Grant.hidden (.object [("session", .string "beta")]) ∧
      x.response.status = 503 ∧ y.response.status = 503 ∧
      x.events = [.coreFailed (.invalidResponse
        "invalid type: string \"alpha\", expected struct Session")] ∧
      y.events = [.coreFailed (.invalidResponse
        "invalid type: string \"beta\", expected struct Session")] := by
  intro x y
  exact ⟨rfl, by decide, by decide, by decide, by decide⟩

end Gateway

end IdentityGateway
