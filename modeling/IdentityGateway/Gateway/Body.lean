import IdentityGateway.Account
import IdentityGateway.Http.MediaType
import IdentityGateway.Http.Message

/-!
# Request bodies

How a request body becomes a checked request: it has to be declared as JSON, to be within
the limit, to be read as the record that is expected, and to pass the record's checks.
-/

namespace IdentityGateway.Gateway.Body

open Http (Headers Request)

/-- The bytes that a body may have at most, which is one mebibyte. -/
def limit : Nat := 1024 * 1024

/-- The length that a request declares for its body, if it declares one. -/
def declaredLength? (headers : Headers) : Option Nat := do
  let value ← headers.first? "content-length"
  let text ← Http.FieldValue.text? value
  Text.natBelow? (Nat.pow 2 64) text

/-- Whether the declared length is beyond the limit. -/
def isDeclaredTooLong (headers : Headers) : Bool :=
  (declaredLength? headers).any (limit < ·)

/-- The number of bytes that are read at most. -/
def readLimit (headers : Headers) : Nat :=
  min limit ((declaredLength? headers).getD limit)

/-- Why a body gives no record. -/
inductive Refusal where
  | notDeclaredAsJson
  | tooLong
  | fault (f : Json.Fault)
  deriving DecidableEq, Repr

/-- The text shown for a refused body. -/
def Refusal.message (input : List UInt8) : Refusal → String
  | .notDeclaredAsJson => "Expected request with `Content-Type: application/json`"
  | .tooLong => "Failed to buffer the request body: length limit exceeded"
  | .fault f =>
    let stage := match f.reason.category with
      | .unfit => "Failed to deserialize the JSON body into the target type: "
      | .ill | .incomplete => "Failed to parse the request body as JSON: "
    let place := if f.path.isEmpty then "" else Json.pathText f.path ++ ": "
    stage ++ place ++ f.message input

/-- Whether a request declares its body as JSON. -/
def isDeclaredAsJson (headers : Headers) : Bool :=
  (headers.first? "content-type").any Http.MediaType.isJson

/-- Reads a body as a record, if it is declared as JSON and is not too long. -/
def read {α : Type} (kind : RequestKind α) (request : Request) : Except Refusal α :=
  if !isDeclaredAsJson request.headers then .error .notDeclaredAsJson
  else if readLimit request.headers < request.body.length then .error .tooLong
  else match kind.shape.ofBytes request.body with
    | .error f => .error (.fault f)
    | .ok a => .ok a

/-- What a client is told of a refused body. -/
def Refusal.failure (input : List UInt8) (refusal : Refusal) : RequestFailure :=
  .ofErrors (.single "body" (refusal.message input))

/-- Reads a body as a record and checks its fields, so that what comes out may be passed on to a
core. -/
def checked {α : Type} (kind : RequestKind α) (request : Request) :
    Except RequestFailure α :=
  match read kind request with
  | .error refusal => .error (refusal.failure request.body)
  | .ok a => kind.validate a

end IdentityGateway.Gateway.Body
