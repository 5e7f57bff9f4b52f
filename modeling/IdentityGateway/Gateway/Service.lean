import IdentityGateway.Core.Basic
import IdentityGateway.Gateway.Cors
import IdentityGateway.Gateway.Routes

/-!
# The service

A request on its way through the gateway: it gets an id, its declared length is checked,
the time it may take is limited, questions about origins are answered, and a route does
the rest.
-/

namespace IdentityGateway.Gateway

open Http (Headers FieldValue Request Response)

/-- What the service is set up with. -/
structure Service where
  desk : Access.Desk
  cors : Cors.Rule
  /-- The milliseconds that a request may take. -/
  timeLimit : Nat
  deriving DecidableEq, Repr

/-- The service of some settings in front of the core called `backend`. -/
def Service.ofSettings (settings : Settings) (backend : String) : Service where
  desk := ⟨backend, settings.cookieName⟩
  cors := .ofSettings settings
  timeLimit := settings.requestTimeout * 1000

/-- Where a client may name its request, and where the name is told back. -/
def requestIdHeader : String := "x-request-id"

/-- The id of a request: its own, or a fresh one. -/
def requestId (headers : Headers) (fresh : FieldValue) : FieldValue :=
  (headers.first? requestIdHeader).getD fresh

/-- The answer to a request whose declared length is beyond the limit. -/
def tooLong : Response := .plain 413 "length limit exceeded"

/-- What is answered behind the time limit: questions about origins by themselves, everything else
by a route. -/
def answerInTime (service : Service) (request : Request) : Consultation Response :=
  if request.method = "OPTIONS" then return Cors.preflight service.cors request.headers
  else do
    let response ← answerPath service.desk request
    return Cors.apply service.cors request.headers response

/-- What is answered once a request has its id: a body that is declared too long is refused before
the time runs. -/
def answerWithId (service : Service) (request : Request) : Consultation Response :=
  if Body.isDeclaredTooLong request.headers then return tooLong
  else answerInTime service request

/-- The methods that a response of a route has to name, if the request's is not among
them. -/
def allowHeaders (route : Route) (method : String) : Headers :=
  if route.answers method then [] else [("allow", Http.asciiBytes route.allowed)]

/-- The last touch on the response of a route: methods are named, and HEAD is not told the
body. Where there is no route, the response stays as it is. -/
def finish (request : Request) (response : Response) : Response :=
  match Route.ofPath? request.path with
  | none => response
  | some route =>
    let response :=
      { response with headers := response.headers ++ allowHeaders route request.method }
    if request.method = "HEAD" then response.withoutBody else response

/-- A served request: the response, and how the consultation went. -/
structure Served (σ : Type) where
  response : Response
  calls : List Call
  events : List Event
  state : σ

/-- Serves a request. When the time is up the client gets an empty response that does not
even have the id of the request. -/
def serve {σ : Type} (service : Service) (core : Core σ) (moment : Moment)
    (freshId : FieldValue) (request : Request) (state : σ) : Served σ :=
  let run := (answerWithId service request).run core moment (some service.timeLimit) 0 state
  match run.outcome with
  | some response =>
    let id := requestId request.headers freshId
    ⟨finish request (response.withHeader requestIdHeader id), run.calls, run.events, run.state⟩
  | none =>
    ⟨finish request (.empty 408), run.calls, run.events ++ [.deadlineExceeded], run.state⟩

end IdentityGateway.Gateway
