import IdentityGateway.Proofs.Gateway.Agreement
import IdentityGateway.Proofs.Gateway.Comparison

/-!
# Password hashes stay with the core

What clients and the log get to see of requests does not depend on the password hashes that a core
says of its users. It is compared in two courses of the same requests with two cores which always
say the same but for password hashes. The ids generated for requests may differ, too.
-/

namespace IdentityGateway

open Http (FieldValue Request Response)

/-- A grant without the password hash of its user. -/
def Grant.redacted : Grant → Grant
  | .session s u => .session s u.redacted
  | .tokenPair pair => .tokenPair { pair with user := pair.user.redacted }

/-- Answers that are the same but for password hashes. -/
structure Answers.SameRedacted (x y : Answers) : Prop where
  lookup : ∀ token, Access.redacted (x.lookup token) = Access.redacted (y.lookup token)
  grant : ∀ request, (x.grant request).map Grant.redacted = (y.grant request).map Grant.redacted

/-- Two cores which, whenever their states are related, say the same to every call but for password
hashes, take the same time for it, and come to states that are related again. -/
structure Core.SameRedacted {σ τ : Type} (R : σ → τ → Prop) (core : Core σ) (other : Core τ) :
    Prop where
  answers : ∀ moment s t, R s t → (core.answers moment s).SameRedacted (other.answers moment t)
  delay : ∀ moment s t, R s t → ∀ call, core.delay moment s call = other.delay moment t call
  after : ∀ moment s t, R s t → ∀ call,
    R (core.after moment s (some call)) (other.after moment t (some call))

namespace Gateway

open Consultation (Alike)

/-- A request that comes in at some moment, with an id for it in case that it has none. -/
structure Visit where
  moment : Moment
  freshId : FieldValue
  request : Request
  deriving DecidableEq, Repr

/-- A response without the value of the id of its request. -/
def withoutId (response : Response) : Response :=
  { response with headers := response.headers.map fun field =>
      if field.1 = requestIdHeader then (field.1, []) else field }

/-- What a response tells, which is all of it but an id that was generated for the request. -/
def Visit.told (visit : Visit) (response : Response) : Response :=
  if (visit.request.headers.first? requestIdHeader).isSome then response else withoutId response

/-- What clients and the log get to see of requests that are served one after another. -/
def observed {σ : Type} (service : Service) (core : Core σ) :
    List Visit → σ → List (Response × List Event)
  | [], _ => []
  | visit :: visits, s =>
    let served := serve service core visit.moment visit.freshId visit.request s
    (visit.told served.response, served.events) :: observed service core visits served.state

section

variable {x y : Answers} {desk : Access.Desk}

/-- Grants that are the same but for password hashes are shown alike. -/
theorem view_eq_of_redacted {g g' : Grant} (h : g.redacted = g'.redacted) : g.view = g'.view := by
  have hview : ∀ g : Grant, g.redacted.view = g.view := by
    intro g
    cases g <;> rfl
  rw [← hview g, h, hview g']

/-- Grants that are the same but for password hashes are for the same user. -/
theorem user_id_eq_of_redacted {g g' : Grant} (h : g.redacted = g'.redacted) :
    g.user.id = g'.user.id := by
  have hid : ∀ g : Grant, g.redacted.user.id = g.user.id := by
    intro g
    cases g <;> rfl
  rw [← hid g, h, hid g']

private theorem sameCredential (h : x.SameRedacted y) (credential : Option Credential) :
    Access.SameCredential x y credential credential := by
  cases credential with
  | none => exact .none
  | some c => exact .some rfl (h.lookup c.token)

/-- The same request for a grant is answered alike. -/
theorem alike_grant {α : Type} (h : x.SameRedacted y) (r : Except RequestFailure α)
    {ask : α → GrantRequest} {status : Nat} {event : Grant → Option Event}
    (hevent : ∀ g g' : Grant, g.redacted = g'.redacted → event g = event g') :
    Alike id x y (orFailure r fun a => tellGrant (ask a) status event)
      (orFailure r fun a => tellGrant (ask a) status event) := by
  have hsame : r.map id = r.map id := rfl
  refine alike_orFailure hsame fun a b hab => ?_
  obtain rfl : a = b := hab
  exact alike_tellGrant (h.grant (ask a)) hevent fun _ _ hgrant =>
    congrArg (Response.json status) (view_eq_of_redacted hgrant)

/-- A route answers the same request alike. -/
theorem alike_answerRoute (h : x.SameRedacted y) (desk : Access.Desk) (route : Route)
    (request : Request) :
    Alike id x y (answerRoute desk route request) (answerRoute desk route request) := by
  have hcredential := sameCredential h (Credential.extract request.headers desk.cookieName)
  cases route with
  | me => exact alike_answerRoute_me rfl hcredential
  | health => exact alike_answerRoute_health rfl
  | session => exact alike_answerRoute_session rfl hcredential
  | register =>
    refine alike_answered _ (alike_grant h _ fun g g' hgrant => ?_)
    rw [user_id_eq_of_redacted hgrant]
  | login =>
    refine alike_answered _ (alike_grant h _ fun g g' hgrant => ?_)
    rw [user_id_eq_of_redacted hgrant]
  | refresh => exact alike_answered _ (alike_grant h _ fun _ _ _ => rfl)

/-- A path answers the same request alike. -/
theorem alike_answerPath (h : x.SameRedacted y) (desk : Access.Desk) (request : Request) :
    Alike id x y (answerPath desk request) (answerPath desk request) := by
  unfold answerPath
  cases Route.ofPath? request.path with
  | none => exact Consultation.alike_pure rfl
  | some route => exact alike_answerRoute h desk route request

/-- The service answers the same request alike. -/
theorem alike_answerWithId (h : x.SameRedacted y) (service : Service) (request : Request) :
    Alike id x y (answerWithId service request) (answerWithId service request) := by
  unfold answerWithId
  split
  · exact Consultation.alike_pure rfl
  · unfold answerInTime
    split
    · exact Consultation.alike_pure rfl
    · refine (alike_answerPath h service.desk request).bind fun response response' hsame => ?_
      obtain rfl : response = response' := hsame
      exact Consultation.alike_pure rfl

end

/-! ## Ids -/

/-- The last touch leaves what is told but for ids. -/
theorem withoutId_finish {response response' : Response} (request : Request)
    (h : withoutId response = withoutId response') :
    withoutId (finish request response) = withoutId (finish request response') := by
  obtain ⟨status, headers, body⟩ := response
  obtain ⟨status', headers', body'⟩ := response'
  simp only [withoutId, Response.mk.injEq] at h
  obtain ⟨rfl, hheaders, rfl⟩ := h
  unfold finish
  cases Route.ofPath? request.path with
  | none => simp only [withoutId, hheaders]
  | some route =>
    by_cases hhead : request.method = "HEAD" <;>
      simp only [hhead, if_pos, if_false, withoutId, Response.withoutBody, List.map_append,
        hheaders]

/-- Responses that were given different ids are the same but for them. -/
theorem withoutId_withHeader (response : Response) (id id' : FieldValue) :
    withoutId (response.withHeader requestIdHeader id) =
      withoutId (response.withHeader requestIdHeader id') := by
  simp only [withoutId, Response.withHeader, List.map_append, List.map_cons, List.map_nil, if_true]

/-- What is told of an answer does not depend on the id that is generated for its request. -/
theorem Visit.told_withId (visit : Visit) (id : FieldValue) (response : Response) :
    visit.told (finish visit.request (response.withHeader requestIdHeader
      (requestId visit.request.headers visit.freshId))) =
    visit.told (finish visit.request (response.withHeader requestIdHeader
      (requestId visit.request.headers id))) := by
  unfold Visit.told
  cases hid : visit.request.headers.first? requestIdHeader with
  | some own => simp only [requestId, hid, Option.getD_some]
  | none =>
    simp only [Option.isSome_none, Bool.false_eq_true, if_false]
    exact withoutId_finish visit.request (withoutId_withHeader _ _ _)

section

variable {σ τ : Type} {R : σ → τ → Prop} {core : Core σ} {other : Core τ} {s : σ} {t : τ}

/-- An answer comes in time from both cores or from none. -/
theorem isInTime_eq (h : core.SameRedacted R other) (hR : R s t) (moment : Moment)
    (limit : Option Nat) (elapsed : Nat) (question : Option Call) :
    core.isInTime moment limit elapsed s question =
      other.isInTime moment limit elapsed t question := by
  cases question with
  | none => rfl
  | some call => simp only [Core.isInTime, h.delay moment s t hR call]

/-- The same is told of one request. -/
theorem told_serve (h : core.SameRedacted R other) (hR : R s t) (service : Service) (visit : Visit)
    (id : FieldValue) :
    visit.told (serve service core visit.moment visit.freshId visit.request s).response =
      visit.told (serve service other visit.moment id visit.request t).response := by
  have hanswers := alike_answerWithId (h.answers visit.moment s t hR) service visit.request
  have hresult : (answerWithId service visit.request).result (core.answers visit.moment s) =
      (answerWithId service visit.request).result (other.answers visit.moment t) := hanswers.result
  rw [serve_response, serve_response, isInTime_eq h hR, hresult]
  cases other.isInTime visit.moment (some service.timeLimit) 0 t
      (question service visit.request) with
  | false => rfl
  | true => exact visit.told_withId id _

/-- The same is noted of one request. -/
theorem events_serve (h : core.SameRedacted R other) (hR : R s t) (service : Service)
    (moment : Moment) (id id' : FieldValue) (request : Request) :
    (serve service core moment id request s).events =
      (serve service other moment id' request t).events := by
  have hanswers := alike_answerWithId (h.answers moment s t hR) service request
  rw [serve_events, serve_events, isInTime_eq h hR, hanswers.noted]

/-- The cores are left in related states by one request. -/
theorem state_serve (h : core.SameRedacted R other) (hR : R s t) (service : Service)
    (moment : Moment) (id id' : FieldValue) (request : Request) :
    R (serve service core moment id request s).state
      (serve service other moment id' request t).state := by
  rw [serve_state, serve_state]
  cases question service request with
  | none => exact hR
  | some call => exact h.after moment s t hR call

/-- **Password hashes.** If two cores always say the same but for password hashes, then the same
requests at the same moments are seen alike, whatever ids are generated for them: their responses
are the same but for these ids, and the events are the same. -/
theorem observed_eq_of_sameRedacted (h : core.SameRedacted R other) (service : Service)
    {visits visits' : List Visit}
    (hvisits : visits.map (fun v => (v.moment, v.request)) =
      visits'.map fun v => (v.moment, v.request))
    (hR : R s t) :
    observed service core visits s = observed service other visits' t := by
  induction visits generalizing visits' s t with
  | nil =>
    obtain rfl := List.map_eq_nil_iff.mp hvisits.symm
    rfl
  | cons visit visits ih =>
    cases visits' with
    | nil => cases hvisits
    | cons visit' visits' =>
      obtain ⟨hvisit, hrest⟩ := List.cons.inj hvisits
      obtain ⟨moment, id, request⟩ := visit
      obtain ⟨moment', id', request'⟩ := visit'
      obtain ⟨rfl, rfl⟩ := Prod.mk.inj hvisit
      have htold := told_serve h hR service ⟨moment, id, request⟩ id'
      have hevents := events_serve h hR service moment id id' request
      have hlater := ih hrest (state_serve h hR service moment id id' request)
      exact List.cons_eq_cons.mpr ⟨Prod.ext htold hevents, hlater⟩

end

/-! ## A core that changes its hashes -/

/-- A core that counts its calls and always means the same user, whose hash may change. -/
def rehashingCore (hash : Nat → Option String) : Core Nat where
  name := "rehashing"
  lookup _ _ n := (⟨.ok (some { cookieUser with passwordHash := hash n }), n⟩, n + 1)
  grant _ _ n :=
    (⟨.ok (.session ⟨"a", none⟩ { cookieUser with passwordHash := hash n }), n⟩, n + 1)

/-- Two such cores say the same but for the hashes. -/
theorem sameRedacted_rehashingCore (hash hash' : Nat → Option String) :
    (rehashingCore hash).SameRedacted Eq (rehashingCore hash') where
  answers := by
    rintro moment n _ rfl
    exact ⟨fun _ => rfl, fun _ => rfl⟩
  delay := by
    rintro moment n _ rfl call
    cases call <;> rfl
  after := by
    rintro moment n _ rfl call
    cases call <;> rfl

/-- A refresh of the token `a`, which makes the core hand out a user. -/
def refreshRequest : Request :=
  ⟨"POST", "/api/v1/auth/refresh", [("content-type", Http.asciiBytes "application/json")],
    Http.asciiBytes "\x7b\"refresh_token\":\"a\"\x7d"⟩

/-- A refresh and one's own record are seen alike, whatever the hashes and the generated ids. -/
theorem observed_rehashingCore :
    observed cookieService (rehashingCore fun _ => none)
        [⟨firstMoment, [49], refreshRequest⟩, ⟨firstMoment, [50], cookieRequest⟩] 0 =
      observed cookieService (rehashingCore fun n => some (toString n))
        [⟨firstMoment, [51], refreshRequest⟩, ⟨firstMoment, [52], cookieRequest⟩] 0 ∧
    (observed cookieService (rehashingCore fun _ => none)
        [⟨firstMoment, [49], refreshRequest⟩, ⟨firstMoment, [50], cookieRequest⟩] 0).map
      (fun seen => seen.1.status) = [200, 200] := by
  refine ⟨observed_eq_of_sameRedacted (sameRedacted_rehashingCore _ _) cookieService rfl rfl, ?_⟩
  decide

end Gateway

end IdentityGateway
