import IdentityGateway.Http.Message
import IdentityGateway.Settings

/-!
# Calls from other origins

Which pages may call the gateway. In development any page may, but without credentials;
in production only pages of listed origins may, and with credentials.
-/

namespace IdentityGateway.Gateway.Cors

open Http (Headers FieldValue Response asciiBytes)

/-- Which pages may read the responses: all of them, without credentials, or those of listed
origins, with credentials. -/
inductive Rule where
  | anyone
  | listed (origins : List FieldValue)
  deriving DecidableEq, Repr

/-- The bytes of a listed origin, unless it is no header value. The asterisk is no origin:
it would open the gateway to everyone. -/
def originBytes? (entry : String) : Option FieldValue :=
  let bytes := entry.toUTF8.toList
  if entry ≠ "*" ∧ bytes.all Http.isValueByte then some bytes else none

/-- Development is open to every page, production only to the listed origins that can be told in a
header. -/
def Rule.ofSettings (settings : Settings) : Rule :=
  if settings.deployment.isProduction then
    .listed (settings.allowedOrigins.filterMap originBytes?)
  else .anyone

/-- The rule with some origins on its list. There is none if the asterisk is among them: a list with
it would be refused at the start, and nothing be served. -/
def Rule.ofList? (origins : List FieldValue) : Option Rule :=
  if asciiBytes "*" ∈ origins then none else some (.listed origins)

/-- The rule of some settings as it is set up at the start, if it can be. -/
def Rule.setUp? (settings : Settings) : Option Rule :=
  if settings.deployment.isProduction then
    Rule.ofList? (settings.allowedOrigins.filterMap originBytes?)
  else some .anyone

/-- What a response says about a page's origin. -/
def originHeaders (rule : Rule) (origin : Option FieldValue) : Headers :=
  match rule with
  | .anyone => [("access-control-allow-origin", asciiBytes "*")]
  | .listed origins =>
    let echoed := match origin with
      | some o => if origins.contains o then [("access-control-allow-origin", o)] else []
      | none => []
    ("access-control-allow-credentials", asciiBytes "true") :: echoed

/-- Responses depend on these headers of a request, so that caches keep them apart. -/
def varyHeader : String × FieldValue :=
  ("vary", asciiBytes
    "origin, access-control-request-method, access-control-request-headers")

/-- What a page is told that it may send, and for how many seconds it may rely on that. -/
def permissions : Headers := [
  ("access-control-allow-methods", asciiBytes "GET,POST,OPTIONS"),
  ("access-control-allow-headers",
    asciiBytes "authorization,cookie,content-type,accept,x-request-id"),
  ("access-control-max-age", asciiBytes "600")]

/-- What a page's browser is told with every response: what the response depends on, and whether the
page may read it. -/
def addedHeaders (rule : Rule) (headers : Headers) : Headers :=
  varyHeader :: originHeaders rule (headers.first? "origin")

/-- The answer to the question what a page may do. -/
def preflight (rule : Rule) (headers : Headers) : Response :=
  ⟨200, addedHeaders rule headers ++ permissions, ""⟩

/-- A response with what it says about origins. -/
def apply (rule : Rule) (headers : Headers) (response : Response) : Response :=
  { response with headers := response.headers ++ addedHeaders rule headers }

end IdentityGateway.Gateway.Cors
