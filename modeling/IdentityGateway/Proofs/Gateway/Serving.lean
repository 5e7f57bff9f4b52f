import IdentityGateway.Gateway.Service
import IdentityGateway.Proofs.Access

/-!
# How requests are served

A request asks the core one question or none, and the answer settles the response. The question
is that of the route, unless something ends the request before it gets there: a declared length
beyond the limit, a question about origins, an unknown path or a method that the route does not
have.
-/

namespace IdentityGateway.Gateway

open Consultation (Asks)
open Http (FieldValue Request Response)

/-- The question of a request whose body is accepted. -/
def grantQuestion {α : Type} (kind : RequestKind α) (request : Request)
    (ask : α → GrantRequest) : Option Call :=
  (Body.checked kind request).toOption.map fun body => .grant (ask body)

/-- The question of a request at a route whose method it has. -/
def Route.ownQuestion (desk : Access.Desk) (route : Route) (request : Request) : Option Call :=
  match route with
  | .health => none
  | .register =>
    grantQuestion RegisterRequest.kind request fun body => .register body.account
  | .login =>
    grantQuestion LoginRequest.kind request fun body => .login (Text.trim body.email) body.password
  | .refresh => grantQuestion RefreshRequest.kind request fun body => .refresh body.refreshToken
  | .session => Access.question desk request.headers
  | .me => none

/-- The question of a request at a route. The guard asks before the method is looked at. -/
def Route.question (desk : Access.Desk) (route : Route) (request : Request) : Option Call :=
  match route with
  | .me => Access.question desk request.headers
  | route => if route.answers request.method then route.ownQuestion desk request else none

/-- The question of a request to the service. -/
def question (service : Service) (request : Request) : Option Call :=
  if Body.isDeclaredTooLong request.headers then none
  else if request.method = "OPTIONS" then none
  else (Route.ofPath? request.path).bind fun route => route.question service.desk request

section

variable {α σ : Type} {desk : Access.Desk} {request : Request} {route : Route}
  {service : Service}

/-! ## Questions of the parts -/

/-- A request that is refused asks nothing, and every other what is asked for what it gave. -/
theorem asks_orFailure (r : Except RequestFailure α) {f : α → Consultation Response}
    {ask : α → Call} (hf : ∀ a, Asks (some (ask a)) (f a)) :
    Asks (r.toOption.map ask) (orFailure r f) := by
  cases r with
  | error failure => exact Consultation.asks_pure _
  | ok a => exact hf a

/-- A request asks nothing if nothing is asked for what its check gave. -/
theorem asks_none_orFailure (r : Except RequestFailure α) {f : α → Consultation Response}
    (hf : ∀ a, Asks none (f a)) : Asks none (orFailure r f) := by
  cases r with
  | error failure => exact Consultation.asks_pure _
  | ok a => exact hf a

/-- A client is told of a grant that was asked for once. -/
theorem asks_tellGrant (request : GrantRequest) (status : Nat) (event : Grant → Option Event) :
    Asks (some (.grant request)) (tellGrant request status event) := by
  refine (Consultation.asks_askGrant request).bind fun r => ?_
  cases r with
  | error failure => exact (Access.asks_tellCoreFailure failure).bind fun _ =>
      Consultation.asks_pure _
  | ok g => exact (Consultation.asks_log? _).bind fun _ => Consultation.asks_pure _

/-- The session answer asks whose token the credential is. -/
theorem asks_session (desk : Access.Desk) (request : Request) :
    Asks (Access.question desk request.headers) (session desk request) :=
  (Access.asks_welcome desk request.headers).bind fun r =>
    asks_none_orFailure r fun _ => Consultation.asks_pure _

/-- Behind the guard nothing is asked. -/
theorem asks_me (desk : Access.Desk) (u : Identity) (request : Request) :
    Asks none (me desk (some u) request) :=
  (Access.asks_required_again desk u request.headers).bind fun r =>
    asks_none_orFailure r fun _ => Consultation.asks_pure _

/-- A route asks nothing of a request whose method it does not have. -/
theorem asks_answered {question : Option Call} {answer : Consultation Response}
    (answered : Bool) (h : Asks question answer) :
    Asks (if answered then question else none)
      (if !answered then return wrongMethod else answer) := by
  cases answered with
  | false => exact Consultation.asks_pure _
  | true => exact h

/-- A route asks the one question that it is said to ask, or none. -/
theorem asks_answerRoute (desk : Access.Desk) (route : Route) (request : Request) :
    Asks (route.question desk request) (answerRoute desk route request) := by
  cases route with
  | health => exact asks_answered _ (Consultation.asks_pure _)
  | register => exact asks_answered _ (asks_orFailure _ fun _ => asks_tellGrant _ _ _)
  | login => exact asks_answered _ (asks_orFailure _ fun _ => asks_tellGrant _ _ _)
  | refresh => exact asks_answered _ (asks_orFailure _ fun _ => asks_tellGrant _ _ _)
  | session => exact asks_answered _ (asks_session desk request)
  | me =>
    -- the guard asks, and what stands behind it has the user already
    refine (Access.asks_guarded desk request.headers).bind fun r => asks_none_orFailure r ?_
    intro u
    split
    · exact asks_me desk u request
    · exact Consultation.asks_pure _

/-- The service asks the question of its route, if nothing ends the request before. -/
theorem asks_answerWithId (service : Service) (request : Request) :
    Asks (question service request) (answerWithId service request) := by
  unfold question answerWithId
  split
  · exact Consultation.asks_pure _
  · unfold answerInTime answerPath
    split
    · exact Consultation.asks_pure _
    · refine Asks.bind ?_ fun _ => Consultation.asks_pure _
      cases Route.ofPath? request.path with
      | none => exact Consultation.asks_pure _
      | some route => exact asks_answerRoute service.desk route request

/-- The calls of a served request are its question. -/
theorem serve_calls (service : Service) (core : Core σ) (moment : Moment) (freshId : FieldValue)
    (request : Request) (s : σ) :
    (serve service core moment freshId request s).calls = (question service request).toList := by
  simp only [serve, (asks_answerWithId service request).run_eq]
  cases core.isInTime moment (some service.timeLimit) 0 s (question service request) <;> rfl

/-- The response is settled by the answer of the core, or by its coming too late. -/
theorem serve_response (service : Service) (core : Core σ) (moment : Moment)
    (freshId : FieldValue) (request : Request) (s : σ) :
    (serve service core moment freshId request s).response = finish request
      (if core.isInTime moment (some service.timeLimit) 0 s (question service request) then
        ((answerWithId service request).result (core.answers moment s)).withHeader
          requestIdHeader (requestId request.headers freshId)
      else .empty 408) := by
  simp only [serve, (asks_answerWithId service request).run_eq]
  cases core.isInTime moment (some service.timeLimit) 0 s (question service request) <;> rfl

/-- The events are those of the consultation, unless the answer of the core is too late. -/
theorem serve_events (service : Service) (core : Core σ) (moment : Moment) (freshId : FieldValue)
    (request : Request) (s : σ) :
    (serve service core moment freshId request s).events =
      if core.isInTime moment (some service.timeLimit) 0 s (question service request) then
        (answerWithId service request).noted (core.answers moment s)
      else [.deadlineExceeded] := by
  simp only [serve, (asks_answerWithId service request).run_eq]
  cases core.isInTime moment (some service.timeLimit) 0 s (question service request) <;> rfl

/-- The core is left as its question leaves it. -/
theorem serve_state (service : Service) (core : Core σ) (moment : Moment) (freshId : FieldValue)
    (request : Request) (s : σ) :
    (serve service core moment freshId request s).state =
      core.after moment s (question service request) := by
  simp only [serve, (asks_answerWithId service request).run_eq]
  cases core.isInTime moment (some service.timeLimit) 0 s (question service request) <;> rfl

/-! ## Requests for grants -/

/-- What the client gets of a grant, or of the core's failure to give one. -/
theorem result_tellGrant (request : GrantRequest) (status : Nat) (event : Grant → Option Event)
    (answers : Answers) :
    (tellGrant request status event).result answers =
      match answers.grant request with
      | .error failure => failureResponse (.ofCore failure)
      | .ok g => .json status g.view := by
  simp only [tellGrant, Consultation.result_bind, Consultation.result_askGrant]
  rcases answers.grant request with failure | g
  · cases failure <;> rfl
  · cases hevent : event g <;> simp only [hevent] <;> rfl

/-- What a route that takes bodies answers and asks. -/
structure Route.Posts (desk : Access.Desk) (route : Route) (kind : RequestKind α)
    (ask : α → GrantRequest) (status : Nat) (event : Grant → Option Event) : Prop where
  takes : route.isPost = true
  answer : ∀ request, answerRoute desk route request =
    if !route.answers request.method then return wrongMethod
    else orFailure (Body.checked kind request) fun a => tellGrant (ask a) status event
  question : ∀ request, route.question desk request =
    if route.answers request.method then grantQuestion kind request ask else none
  status : status ≠ 400
  event : ∀ g g' : Grant, g.user = g'.user → event g = event g'

/-- A registration is told as created, and noted with the new user. -/
theorem Route.posts_register (desk : Access.Desk) :
    Route.register.Posts desk RegisterRequest.kind (fun body => .register body.account) 201
      fun g => some (.accountRegistered g.user.id) where
  takes := rfl
  answer _ := rfl
  question _ := rfl
  status := by decide
  event g g' huser := by rw [huser]

/-- A login asks for the address without the blanks around it, and is noted with the user. -/
theorem Route.posts_login (desk : Access.Desk) :
    Route.login.Posts desk LoginRequest.kind
      (fun body => .login (Text.trim body.email) body.password) 200
      fun g => some (.loginSucceeded g.user.id) where
  takes := rfl
  answer _ := rfl
  question _ := rfl
  status := by decide
  event g g' huser := by rw [huser]

/-- A refresh hands the token on as it is, and is not noted. -/
theorem Route.posts_refresh (desk : Access.Desk) :
    Route.refresh.Posts desk RefreshRequest.kind (fun body => .refresh body.refreshToken) 200
      fun _ => none where
  takes := rfl
  answer _ := rfl
  question _ := rfl
  status := by decide
  event _ _ _ := rfl

/-! ## Routes and paths -/

/-- Paths tell routes apart, so what is found at a path is the route that has it. -/
theorem Route.ofPath?_eq_some_iff {path : String} :
    Route.ofPath? path = some route ↔ path = route.path := by
  constructor
  · intro hroute
    have hpath := List.find?_some hroute
    exact (beq_iff_eq.mp hpath).symm
  · rintro rfl
    cases route <;> rfl

/-- The question of a request that gets to its route is the route's. -/
theorem question_eq_of_route {service : Service} {route : Route}
    (hlength : Body.isDeclaredTooLong request.headers = false)
    (hmethod : request.method ≠ "OPTIONS")
    (hroute : Route.ofPath? request.path = some route) :
    question service request = route.question service.desk request := by
  rw [question, hlength, if_neg Bool.false_ne_true, if_neg hmethod, hroute]
  rfl

end

end IdentityGateway.Gateway
