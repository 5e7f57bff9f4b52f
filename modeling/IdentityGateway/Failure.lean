import IdentityGateway.FieldErrors

/-!
# Failures

Why a core gives no answer, why a credential gives no identity, and what a client is told
of either.
-/

namespace IdentityGateway

open Json (Value)

/-- Why a core does not do what it was asked. -/
inductive CoreFailure where
  | invalidCredentials
  | emailTaken
  /-- The core cannot be reached or does not answer properly. -/
  | unavailable (detail : String)
  /-- The answer cannot be understood. -/
  | invalidResponse (detail : String)
  /-- A fault inside a core of this process. -/
  | internal (detail : String)
  deriving DecidableEq, Repr

/-- The text shown for a core's failure. -/
def CoreFailure.message : CoreFailure → String
  | .invalidCredentials => "invalid credentials"
  | .emailTaken => "email already registered"
  | .unavailable detail => "auth core unavailable: " ++ detail
  | .invalidResponse detail => "auth core returned an unexpected response: " ++ detail
  | .internal detail => "auth core internal error: " ++ detail

/-- Why a credential gives no identity. -/
inductive RefusalReason where
  | missingCredential
  | invalidCredential
  deriving DecidableEq, Repr

/-- The text shown for a refused credential. -/
def RefusalReason.message : RefusalReason → String
  | .missingCredential => "no token provided"
  | .invalidCredential => "invalid or expired token"

/-- What a client is told instead of an answer. -/
inductive RequestFailure where
  | unauthorized (message : String)
  | invalid (message : String) (errors : FieldErrors)
  | coreUnavailable
  | internal
  deriving DecidableEq, Repr

namespace RequestFailure

/-- The failure of a request that has to be authenticated. -/
def authenticationRequired : RequestFailure :=
  .unauthorized "Authentication required"

/-- The failure of a request with errors in its fields. -/
def ofErrors (errors : FieldErrors) : RequestFailure :=
  .invalid "Validation failed" errors

/-- The failure of a request whose credential is refused. -/
def ofRefusal (reason : RefusalReason) : RequestFailure :=
  .unauthorized reason.message

/-- What a client is told of a core's failure. Trouble with the core is never passed off
as an answer about credentials. -/
def ofCore : CoreFailure → RequestFailure
  | .invalidCredentials => .unauthorized "Invalid credentials"
  | .emailTaken => ofErrors (.single "email" "Email is already registered")
  | .unavailable _ | .invalidResponse _ => .coreUnavailable
  | .internal _ => .internal

/-- The text shown for a failure. -/
def message : RequestFailure → String
  | .unauthorized message => message
  | .invalid message _ => message
  | .coreUnavailable => "Authentication service unavailable"
  | .internal => "internal server error"

/-- The HTTP status that a client sees a failure by. -/
def status : RequestFailure → Nat
  | .unauthorized _ => 401
  | .invalid _ _ => 400
  | .coreUnavailable => 503
  | .internal => 500

/-- The JSON body that a client sees a failure by. Only failures of validation say more than their
message. -/
def body (failure : RequestFailure) : Value :=
  match failure with
  | .invalid message errors =>
    .object [("message", .string message), ("errors", errors.toJson)]
  | failure => .object [("message", .string failure.message)]

end RequestFailure

end IdentityGateway
