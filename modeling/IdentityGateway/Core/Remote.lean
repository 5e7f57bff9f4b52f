import IdentityGateway.Core.Basic
import IdentityGateway.Http.Status
import IdentityGateway.Url

/-!
# A core reached over HTTP

Every operation is one POST of a JSON body to the base address followed by the path of
the operation. Status codes tell answers about credentials from failures.
-/

namespace IdentityGateway.Remote

open Json (Value Shape)

/-- A request to the remote core: the text of its body is JSON. -/
structure Request where
  method : String
  url : String
  contentType : String
  body : String
  deriving DecidableEq, Repr

/-- What came back: a status and a body, unless the body broke off. -/
structure Reply where
  status : Nat
  body : Option (List UInt8)
  deriving DecidableEq, Repr

/-- What became of a request: a reply, or none at all. -/
abbrev Delivery := Option Reply

/-- The way to the remote core, with a state of its own. It stands for the whole exchange that a
client makes of one request, from the connection to the last reply: redirects are followed on the
way, and what they end in is the delivery. -/
structure Transport (τ : Type) where
  deliver : Request → τ → (Delivery × Nat) × τ

/-- The operations of a remote core. -/
inductive Operation where
  | lookup
  | login
  | register
  | refresh
  deriving DecidableEq, Repr

/-- Where the remote core answers an operation, below its base address. -/
def Operation.path : Operation → String
  | .lookup => "/lookup"
  | .login => "/login"
  | .register => "/register"
  | .refresh => "/refresh"

/-- The base address as paths are put behind it, without the slashes at its end. -/
def trimmedBase (base : String) : String :=
  String.ofList (base.toList.reverse.dropWhile (· == '/')).reverse

/-- The address that the request for an operation is sent to. -/
def address (base : String) (operation : Operation) : String :=
  trimmedBase base ++ operation.path

/-- The body that asks for the user of a token. -/
def lookupBody (token : String) : Value :=
  .object [("token", .string token)]

/-- The operation of a request for a grant, and the body that makes it. -/
def grantBody : GrantRequest → Operation × Value
  | .login email password =>
    (.login, .object [("email", .string email), ("password", .string password)])
  | .register account =>
    (.register, .object [
      ("email", .string account.email),
      ("name", Value.ofText? account.name),
      ("password", .string account.password)])
  | .refresh token => (.refresh, .object [("refresh_token", .string token)])

/-- What is said of a body that broke off or cannot be read. -/
def unreadable : CoreFailure := .invalidResponse "error decoding response body"

/-- What is said of a status that no operation expects. -/
def unexpected (operation : Operation) (status : Nat) : CoreFailure :=
  .unavailable (operation.path ++ " returned " ++ Http.statusText status)

/-- What is said of a request that no reply came to. -/
def undelivered (url : Url) : CoreFailure :=
  .unavailable ("error sending request for url (" ++ url.text ++ ")")

/-- The user of a token given so far. -/
structure LookupDraft where
  user : Option (Option Identity) := none

/-- How the answer to a look-up is read. -/
def lookupShape : Shape LookupDraft (Option Identity) where
  title := "LookupResponse"
  blank := {}
  finish d := .ok (d.user.getD none)
  fields := [
    .of "user" [] .defaulted (.option Identity.shape.codec) LookupDraft.user
      (fun a d => { d with user := some a })]

/-- What a reply to a look-up says: 401 and 404 mean that there is no such token. -/
def lookupResult (reply : Reply) : LookupResult :=
  if Http.isSuccess reply.status then
    match reply.body with
    | none => .error unreadable
    | some bytes => match lookupShape.ofBytes bytes with
      | .ok found => .ok found
      | .error _ => .error unreadable
  else if reply.status = 401 ∨ reply.status = 404 then .ok none
  else .error (unexpected .lookup reply.status)

/-- What a reply to a request for a grant says. -/
def grantResult (operation : Operation) (reply : Reply) : GrantResult :=
  if Http.isSuccess reply.status then
    match reply.body with
    | none => .error unreadable
    | some bytes => match Value.ofUntyped bytes with
      | .error _ => .error unreadable
      | .ok v => match Grant.ofJson v with
        | .ok g => .ok g
        | .error m => .error (.invalidResponse m.message)
  else if reply.status = 401 then .error .invalidCredentials
  else if reply.status = 409 then .error .emailTaken
  else .error (unexpected operation reply.status)

/-- The request that brings a body to an operation. -/
def request (base : String) (operation : Operation) (body : Value) : Request :=
  ⟨"POST", address base operation, "application/json", body.text⟩

/-- What is said of an address that is well formed, but takes no requests. -/
def unsendable (url : Url) : CoreFailure :=
  .unavailable ("builder error for url (" ++ url.text ++ ")")

/-- Sends a body to an operation. An address that is none, or that takes no requests, is not
sent to. -/
def send {τ : Type} (transport : Transport τ) (base : String) (operation : Operation)
    (body : Value) (state : τ) : Answer Reply × τ :=
  match Url.ofText? (address base operation) with
  | none => (⟨.error (.unavailable "builder error"), 0⟩, state)
  | some url =>
    if url.takesRequests then
      let ((delivery, delay), state) := transport.deliver (request base operation body) state
      match delivery with
      | some reply => (⟨.ok reply, delay⟩, state)
      | none => (⟨.error (undelivered url), delay⟩, state)
    else (⟨.error (unsendable url), 0⟩, state)

/-- The core at a base address. -/
def core {τ : Type} (transport : Transport τ) (base : String) : Core τ where
  name := "remote"
  lookup _ token state :=
    let (answer, state) := send transport base .lookup (lookupBody token) state
    (⟨answer.result.bind lookupResult, answer.delay⟩, state)
  grant _ request state :=
    let (operation, body) := grantBody request
    let (answer, state) := send transport base operation body state
    (⟨answer.result.bind (grantResult operation), answer.delay⟩, state)

/-- A way that leads nowhere: every connection is refused. -/
def unreachable : Transport Unit where
  deliver _ state := ((none, 0), state)

end IdentityGateway.Remote
