import IdentityGateway.Http.Target
import IdentityGateway.Json.Printer

/-!
# Requests and responses

What the gateway is asked, and what it answers.
-/

namespace IdentityGateway.Http

/-- A request once its head is read: header names are in small letters, and the target is down to
its path. -/
structure Request where
  method : String
  path : String
  headers : Headers
  body : List UInt8
  deriving DecidableEq, Repr

/-- Whether a text may stand as the method of a request line. Methods are not limited to known
ones. -/
def isMethod (method : String) : Bool :=
  !method.isEmpty && method.toList.all isTokenChar

/-- A request with a method and a target, if both are well formed. -/
def Request.ofParts? (method : String) (target : List UInt8) (headers : Headers)
    (body : List UInt8) : Option Request :=
  if isMethod method then
    (Target.pathOf? target).map fun path => ⟨method, path, headers, body⟩
  else none

/-- What a client is told. The length of the body is declared only when the response is written. -/
structure Response where
  status : Nat
  headers : Headers
  body : String
  deriving DecidableEq, Repr

namespace Response

/-- A response without a body. -/
def empty (status : Nat) : Response := ⟨status, [], ""⟩

/-- A response with a body of JSON. -/
def json (status : Nat) (body : Json.Value) : Response :=
  ⟨status, [("content-type", asciiBytes "application/json")], body.text⟩

/-- A response with a body of plain text. -/
def plain (status : Nat) (body : String) : Response :=
  ⟨status, [("content-type", asciiBytes "text/plain; charset=utf-8")], body⟩

/-- The response with one more header field. -/
def withHeader (response : Response) (name : String) (value : FieldValue) : Response :=
  { response with headers := response.headers ++ [(name, value)] }

/-- What HEAD is told, where GET would be told a body. -/
def withoutBody (response : Response) : Response :=
  { response with body := "" }

end Response

end IdentityGateway.Http
