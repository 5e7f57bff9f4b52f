import IdentityGateway.Resolution

/-!
# Access

How a request comes to its identity where one is required, and where one is welcome. An
identity that was resolved before for the same request is used again.
-/

namespace IdentityGateway.Access

open Http (Headers)

/-- Where the credentials of requests are found and by whom they are resolved. -/
structure Desk where
  backend : String
  cookieName : String
  deriving DecidableEq, Repr

/-- Notes a core's failure and turns it into what the client is told. -/
def tellCoreFailure (failure : CoreFailure) : Consultation RequestFailure := do
  .log? (Event.ofCoreFailure failure)
  return .ofCore failure

/-- Notes a refusal and turns it into what the client is told. -/
def tellRefusal (reason : RefusalReason) : Consultation RequestFailure := do
  .log (.authenticationFailed reason)
  return .ofRefusal reason

/-- The identity of the request's credential, if there is one. -/
def resolved (desk : Desk) (headers : Headers) (optional : Bool) :
    Consultation (Except RequestFailure (Option Identity)) := do
  let credential := Credential.extract headers desk.cookieName
  match ← Resolution.resolve desk.backend credential optional with
  | .error failure => return .error (← tellCoreFailure failure)
  | .ok resolution => match resolution.identity with
    | .error reason => return .error (← tellRefusal reason)
    | .ok found => return .ok found

/-- The identity resolved before, or else that of the credential. -/
def identity? (desk : Desk) (before : Option Identity) (headers : Headers)
    (optional : Bool) : Consultation (Except RequestFailure (Option Identity)) :=
  match before with
  | some u => return .ok (some u)
  | none => resolved desk headers optional

/-- What is found, where nobody may pass as nobody: a request without an identity is refused. -/
def demanded (found : Except RequestFailure (Option Identity)) :
    Except RequestFailure Identity :=
  match found with
  | .error failure => .error failure
  | .ok (some u) => .ok u
  | .ok none => .error .authenticationRequired

/-- The identity of a request that requires one. -/
def required (desk : Desk) (before : Option Identity) (headers : Headers) :
    Consultation (Except RequestFailure Identity) := do
  return demanded (← identity? desk before headers false)

/-- The identity of a request that welcomes one. -/
def welcome (desk : Desk) (before : Option Identity) (headers : Headers) :
    Consultation (Except RequestFailure (Option Identity)) :=
  identity? desk before headers true

/-- The identity with which a request may enter a guarded part. -/
def guarded (desk : Desk) (headers : Headers) :
    Consultation (Except RequestFailure Identity) := do
  match demanded (← resolved desk headers false) with
  | .error failure => return .error failure
  | .ok u =>
    .log (.authenticated u.id)
    return .ok u

end IdentityGateway.Access
