import IdentityGateway.Http.Header

/-!
# Credentials

The token that a request carries: after `Bearer` in the first authorization header, or
else as the cookie of a given name. Nothing is ever refused here.
-/

namespace IdentityGateway

open Http (Headers FieldValue)

/-- Where a token was found. -/
inductive CredentialSource where
  | header
  | cookie
  deriving DecidableEq, Repr

/-- A token as a request sent it, with the place where it stood. -/
structure Credential where
  token : String
  source : CredentialSource
  deriving DecidableEq, Repr

namespace Credential

/-- What stands before a bearer token. -/
def bearerMark : List Char := "Bearer ".toList

/-- What follows a mark at the front. -/
def afterMark? : List Char → List Char → Option (List Char)
  | [], cs => some cs
  | _ :: _, [] => none
  | m :: ms, c :: cs => if m = c then afterMark? ms cs else none

/-- The bearer token of the first authorization header. -/
def bearer? (headers : Headers) : Option String := do
  let value ← headers.first? "authorization"
  let text ← FieldValue.text? value
  let token ← afterMark? bearerMark text.toList
  return String.ofList token

/-- The value of a cookie pair, if its name is the one looked for. -/
def pairValue? (name : String) (pair : List Char) : Option (List Char) :=
  let pair := pair.dropWhile Text.isBlank
  let key := pair.takeWhile (· != '=')
  match pair.drop key.length with
  | [] => none
  | _ :: value => if Text.trimChars key = name.toList then some value else none

/-- The value of the first cookie of a name. Header values that are not text are passed
over. -/
def cookie? (headers : Headers) (name : String) : Option String :=
  (((headers.all "cookie").filterMap FieldValue.text?).flatMap fun text =>
    Text.splitAt ';' text.toList).findSome? (pairValue? name) |>.map String.ofList

/-- The credential of a request. -/
def extract (headers : Headers) (cookieName : String) : Option Credential :=
  match bearer? headers with
  | some token => some ⟨token, .header⟩
  | none => (cookie? headers cookieName).map fun token => ⟨token, .cookie⟩

end Credential

end IdentityGateway
