import IdentityGateway.Proofs.Gateway.Agreement
import IdentityGateway.Proofs.Gateway.Questions

/-!
# What clients are told of grants

A request that is posted to a route that takes bodies is told what is wrong with its body, or what
the core says to it. Only a grant is told with the status of the route.
-/

namespace IdentityGateway.Gateway

open Http (FieldValue Request)

/-- What is told of a checked request for a grant, as the core answers. -/
def grantPage {α : Type} (answers : Answers) (ask : α → GrantRequest) (status : Nat) :
    Except RequestFailure α → Nat × String
  | .error failure => (failureResponse failure).page
  | .ok body =>
    match answers.grant (ask body) with
    | .error failure => failure.page
    | .ok g => (status, g.view.text)

section

variable {α σ : Type} {service : Service} {core : Core σ} {moment : Moment} {s : σ}
  {request : Request} {route : Route} {kind : RequestKind α} {ask : α → GrantRequest}
  {status : Nat} {event : Grant → Option Event} {body : α} {answers : Answers} {g : Grant}

/-- A posted request is answered by what its route takes bodies for. -/
theorem Route.Posts.page_eq (h : route.Posts service.desk kind ask status event)
    (hpost : request.method = "POST") :
    ((answerRoute service.desk route request).result answers).page =
      grantPage answers ask status (Body.checked kind request) := by
  have hanswers : route.answers request.method = true := by
    simp [Route.answers, h.takes, hpost]
  rw [h.answer, hanswers, Bool.not_true, if_neg Bool.false_ne_true]
  cases Body.checked kind request with
  | error failure => rfl
  | ok body =>
    rw [orFailure, result_tellGrant, grantPage]
    cases answers.grant (ask body) <;> rfl

/-- A posted request asks for a grant if its body is accepted. -/
theorem Route.Posts.question_eq (h : route.Posts service.desk kind ask status event)
    (hpost : request.method = "POST") :
    route.question service.desk request = grantQuestion kind request ask := by
  have hanswers : route.answers request.method = true := by
    simp [Route.answers, h.takes, hpost]
  rw [h.question, if_pos hanswers]

/-- What is told of a posted request that is served, if the declared length and the time are within
their limits. -/
theorem Route.Posts.page_serve (h : route.Posts service.desk kind ask status event)
    (hpath : request.path = route.path) (hpost : request.method = "POST")
    (hshort : Body.isDeclaredTooLong request.headers = false)
    (hintime : core.isInTime moment (some service.timeLimit) 0 s
      (grantQuestion kind request ask) = true) (freshId : FieldValue) :
    (serve service core moment freshId request s).response.page =
      grantPage (core.answers moment s) ask status (Body.checked kind request) := by
  have hhead : request.method ≠ "HEAD" := by simp [hpost]
  have hoptions : request.method ≠ "OPTIONS" := by simp [hpost]
  rw [Gateway.page_serve service core moment freshId s hhead hoptions hpath, hshort,
    h.question_eq hpost, hintime, h.page_eq hpost]
  rfl

/-- The service asks for a grant if a body is posted that is accepted. -/
theorem Route.Posts.service_question (h : route.Posts service.desk kind ask status event)
    (hpath : request.path = route.path) (hpost : request.method = "POST")
    (hshort : Body.isDeclaredTooLong request.headers = false) :
    Gateway.question service request = grantQuestion kind request ask := by
  have hoptions : request.method ≠ "OPTIONS" := by simp [hpost]
  rw [question_eq_of_route hshort hoptions (Route.ofPath?_eq_some_iff.mpr hpath),
    h.question_eq hpost]

/-- A request whose body is accepted asks for its grant. -/
theorem grantQuestion_eq (haccepts : Body.Accepts kind request body) :
    grantQuestion kind request ask = some (.grant (ask body)) :=
  grantQuestion_eq_some_iff.mpr ⟨body, haccepts, rfl⟩

/-- Only a grant is told as a success. -/
theorem exists_grant_of_status {checked : Except RequestFailure α}
    (htold : (grantPage answers ask status checked).1 = 200 ∨
      (grantPage answers ask status checked).1 = 201) :
    ∃ body g, checked = .ok body ∧ answers.grant (ask body) = .ok g ∧
      grantPage answers ask status checked = (status, g.view.text) := by
  have hfailed : ∀ failure, ¬ ((failureResponse failure).page.1 = 200 ∨
      (failureResponse failure).page.1 = 201) := by
    intro failure
    cases failure <;> simp [failureResponse, Http.Response.json, Http.Response.page,
      RequestFailure.status]
  cases checked with
  | error failure => exact absurd htold (hfailed failure)
  | ok body =>
    cases hsaid : answers.grant (ask body) with
    | error failure =>
      rw [grantPage, hsaid] at htold
      exact absurd htold (hfailed (.ofCore failure))
    | ok g => exact ⟨body, g, rfl, hsaid, by rw [grantPage, hsaid]⟩

end

end IdentityGateway.Gateway
