import IdentityGateway.EmailAddress
import IdentityGateway.Failure
import IdentityGateway.Json.Record

/-!
# Account requests

The bodies of login, registration and refresh requests: how they are read, what is
checked of them, and the account that a registration asks for.
-/

namespace IdentityGateway

open Json (Codec Field Shape)

/-- The account that a core is asked to create. -/
structure NewAccount where
  email : String
  password : String
  name : Option String
  deriving DecidableEq, Repr

/-- A condition on one field, and the message for the client if it does not hold. -/
structure Check where
  field : String
  holds : Bool
  message : String
  deriving DecidableEq, Repr

/-- What a client is told of a request: the messages of the conditions that do not hold. -/
def Check.errors (checks : List Check) : FieldErrors :=
  (checks.filter fun c => !c.holds).foldl (fun errors c => errors.add c.field c.message) .empty

/-- The condition that login and registration put on an email address alike. -/
def Check.email (address : String) : Check :=
  ⟨"email", EmailAddress.isValid address, "Email is invalid"⟩

/-- What the reading of bodies needs to know of one kind of request: the record it is read as, and
the conditions on its fields. -/
structure RequestKind (α : Type) where
  /-- How much of a body has been read. -/
  Draft : Type
  shape : Shape Draft α
  checks : α → List Check

/-- What a client posts to log in. -/
structure LoginRequest where
  email : String
  password : String
  deriving DecidableEq, Repr

namespace LoginRequest

/-- The fields given so far. -/
structure Draft where
  email : Option String := none
  password : Option String := none

/-- How the request is read; what is left out is empty. -/
def shape : Shape Draft LoginRequest where
  title := "LoginRequest"
  blank := {}
  finish d := .ok ⟨d.email.getD "", d.password.getD ""⟩
  fields := [
    .of "email" [] .defaulted .string Draft.email (fun a d => { d with email := some a }),
    .of "password" [] .defaulted .string Draft.password
      (fun a d => { d with password := some a })]

/-- An empty password would match nothing, so it is told before the core is asked. -/
def checks (request : LoginRequest) : List Check := [
  .email request.email,
  ⟨"password", 1 ≤ request.password.length, "Password is required"⟩]

/-- The request as a kind of body. -/
def kind : RequestKind LoginRequest := ⟨Draft, shape, checks⟩

end LoginRequest

/-- What a client posts to create an account, before it is tidied up for the core. -/
structure RegisterRequest where
  email : String
  password : String
  name : Option String
  deriving DecidableEq, Repr

namespace RegisterRequest

/-- The fields given so far. -/
structure Draft where
  email : Option String := none
  password : Option String := none
  name : Option (Option String) := none

/-- How the request is read; what is left out is empty. -/
def shape : Shape Draft RegisterRequest where
  title := "RegisterRequest"
  blank := {}
  finish d := .ok ⟨d.email.getD "", d.password.getD "", d.name.getD none⟩
  fields := [
    .of "email" [] .defaulted .string Draft.email (fun a d => { d with email := some a }),
    .of "password" [] .defaulted .string Draft.password
      (fun a d => { d with password := some a }),
    .of "name" [] .optional (.option .string) Draft.name
      (fun a d => { d with name := some a })]

/-- New passwords have a least length, and a name, if one is given, a greatest one. Lengths are
counted in characters. -/
def checks (request : RegisterRequest) : List Check := [
  .email request.email,
  ⟨"password", 8 ≤ request.password.length, "Password must be at least 8 characters"⟩,
  ⟨"name", request.name.all fun name => name.length ≤ 100,
    "Name must be at most 100 characters"⟩]

/-- The request as a kind of body. -/
def kind : RequestKind RegisterRequest := ⟨Draft, shape, checks⟩

/-- The account asked for: without blank margins, and without a name that is blank. -/
def account (request : RegisterRequest) : NewAccount where
  email := Text.trim request.email
  password := request.password
  name := (request.name.map Text.trim).filter fun name => !name.isEmpty

end RegisterRequest

/-- What a client posts to exchange a refresh token for new tokens. -/
structure RefreshRequest where
  refreshToken : String
  deriving DecidableEq, Repr

namespace RefreshRequest

/-- The fields given so far. -/
structure Draft where
  refreshToken : Option String := none

/-- How the request is read; what is left out is empty. -/
def shape : Shape Draft RefreshRequest where
  title := "RefreshRequest"
  blank := {}
  finish d := .ok ⟨d.refreshToken.getD ""⟩
  fields := [
    .of "refresh_token" [] .defaulted .string Draft.refreshToken
      (fun a d => { d with refreshToken := some a })]

/-- A token that is left out is read as the empty one, which this turns away. -/
def checks (request : RefreshRequest) : List Check := [
  ⟨"refresh_token", 1 ≤ request.refreshToken.length, "Refresh token is required"⟩]

/-- The request as a kind of body. -/
def kind : RequestKind RefreshRequest := ⟨Draft, shape, checks⟩

end RefreshRequest

/-- The request itself if every check holds, and otherwise what is wrong with it. -/
def RequestKind.validate {α : Type} (kind : RequestKind α) (request : α) :
    Except RequestFailure α :=
  let errors := Check.errors (kind.checks request)
  if errors.isEmpty then .ok request else .error (.ofErrors errors)

end IdentityGateway
