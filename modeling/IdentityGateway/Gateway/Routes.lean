import IdentityGateway.Access
import IdentityGateway.Gateway.Body

/-!
# Routes

Which path and method is answered by what. The health check and the account requests are
open to all, the session answer welcomes an identity, and the user's own record is behind
a guard that stands there whatever the method.
-/

namespace IdentityGateway.Gateway

open Http (Request Response)
open Json (Value)

/-- The paths that the gateway has an answer for. -/
inductive Route where
  | health
  | register
  | login
  | refresh
  | session
  | me
  deriving DecidableEq, Repr

namespace Route

/-- Where a route is found. There are no variable parts, so paths are compared as a whole. -/
def path : Route → String
  | .health => "/api/v1/health"
  | .register => "/api/v1/auth/register"
  | .login => "/api/v1/auth/login"
  | .refresh => "/api/v1/auth/refresh"
  | .session => "/api/v1/auth/session"
  | .me => "/api/v1/users/me"

/-- Every route, to be searched for the one at a path. -/
def all : List Route := [.health, .register, .login, .refresh, .session, .me]

/-- Who answers at a path, if anybody does. -/
def ofPath? (path : String) : Option Route :=
  all.find? fun route => route.path == path

/-- Whether a route takes bodies. -/
def isPost : Route → Bool
  | .register | .login | .refresh => true
  | .health | .session | .me => false

/-- Whether a route answers a method. -/
def answers (route : Route) (method : String) : Bool :=
  if route.isPost then method == "POST" else method == "GET" || method == "HEAD"

/-- The methods that a client is told to use instead of a wrong one. -/
def allowed (route : Route) : String :=
  if route.isPost then "POST" else "GET,HEAD"

end Route

/-- A failure as every route tells it, whatever it is about. -/
def failureResponse (failure : RequestFailure) : Response :=
  .json failure.status failure.body

/-- The response to a request that is refused, or what its check gave. -/
def orFailure {α : Type} (r : Except RequestFailure α) (f : α → Consultation Response) :
    Consultation Response :=
  match r with
  | .error failure => return failureResponse failure
  | .ok a => f a

/-- Asks for a grant and tells the client, noting an event of success. -/
def tellGrant (request : GrantRequest) (status : Nat) (event : Grant → Option Event) :
    Consultation Response := do
  match ← .askGrant request with
  | .error failure => return failureResponse (← Access.tellCoreFailure failure)
  | .ok grant =>
    .log? (event grant)
    return .json status grant.view

/-- Creates an account. -/
def register (request : Request) : Consultation Response :=
  orFailure (Body.checked RegisterRequest.kind request) fun body =>
    tellGrant (.register body.account) 201 fun g => some (.accountRegistered g.user.id)

/-- Logs a user in. -/
def login (request : Request) : Consultation Response :=
  orFailure (Body.checked LoginRequest.kind request) fun body =>
    tellGrant (.login (Text.trim body.email) body.password) 200
      fun g => some (.loginSucceeded g.user.id)

/-- Exchanges a refresh token. -/
def refresh (request : Request) : Consultation Response :=
  orFailure (Body.checked RefreshRequest.kind request) fun body =>
    tellGrant (.refresh body.refreshToken) 200 fun _ => none

/-- The session answer: a flag, and the user or `null`. -/
def sessionView (found : Option Identity) : Value :=
  .object [
    ("authenticated", .bool found.isSome),
    ("user", match found with
      | some u => u.view
      | none => .null)]

/-- Tells whether somebody is logged in. -/
def session (desk : Access.Desk) (request : Request) : Consultation Response := do
  orFailure (← Access.welcome desk none request.headers) fun found =>
    return .json 200 (sessionView found)

/-- Tells users their own record; the guard has resolved them. -/
def me (desk : Access.Desk) (before : Option Identity) (request : Request) :
    Consultation Response := do
  orFailure (← Access.required desk before request.headers) fun u =>
    return .json 200 u.view

/-- The answer of a route to a method it does not have. -/
def wrongMethod : Response := .empty 405

/-- What a route does with a request. The guard of the user's own record comes before the method is
looked at, everywhere else the method comes first. -/
def answerRoute (desk : Access.Desk) (route : Route) (request : Request) :
    Consultation Response :=
  match route with
  | .me => do
    orFailure (← Access.guarded desk request.headers) fun u =>
      if route.answers request.method then me desk (some u) request
      else return wrongMethod
  | route =>
    if !route.answers request.method then return wrongMethod
    else match route with
      | .health => return .json 200 (.object [("status", .string "ok")])
      | .register => register request
      | .login => login request
      | .refresh => refresh request
      | .session => session desk request
      | .me => return wrongMethod

/-- What is done with a request inside all layers: its path decides which route takes it. -/
def answerPath (desk : Access.Desk) (request : Request) : Consultation Response :=
  match Route.ofPath? request.path with
  | none => return .empty 404
  | some route => answerRoute desk route request

end IdentityGateway.Gateway
