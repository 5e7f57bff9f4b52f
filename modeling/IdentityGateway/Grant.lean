import IdentityGateway.Identity
import IdentityGateway.Json.Embedded

/-!
# Grants

What a core hands out on login, registration and refresh: a session or a pair of tokens,
with the user they belong to. Clients see both in one form.
-/

namespace IdentityGateway

open Json (Value Mismatch Codec Field Shape)

/-- A session token and its end. -/
structure Session where
  token : String
  expiresAt : Option Timestamp
  deriving DecidableEq, Repr

/-- An access token, and what the core says about it. -/
structure TokenPair where
  accessToken : String
  refreshToken : Option String
  expiresIn : Option Nat
  tokenType : Option String
  user : Identity
  deriving DecidableEq, Repr

/-- What a core hands out. -/
inductive Grant where
  | session (session : Session) (user : Identity)
  | tokenPair (pair : TokenPair)
  deriving DecidableEq, Repr

namespace Session

/-- The fields of a session given so far. -/
structure Draft where
  token : Option String := none
  expiresAt : Option (Option Timestamp) := none

/-- How a session is read. -/
def shape : Shape Draft Session where
  title := "Session"
  blank := {}
  finish d := do
    let token ← Json.given "token" d.token
    return ⟨token, d.expiresAt.getD none⟩
  fields := [
    .of "token" [] .required .string Draft.token (fun a d => { d with token := some a }),
    .of "expires_at" [] .defaulted (.option Timestamp.codec) Draft.expiresAt
      (fun a d => { d with expiresAt := some a })]

end Session

namespace TokenPair

/-- The fields of a token pair given so far. -/
structure Draft where
  accessToken : Option String := none
  refreshToken : Option (Option String) := none
  expiresIn : Option (Option Nat) := none
  tokenType : Option (Option String) := none
  user : Option Identity := none

/-- How a token pair is read. -/
def shape : Shape Draft TokenPair where
  title := "TokenPair"
  blank := {}
  finish d := do
    let accessToken ← Json.given "access_token" d.accessToken
    let user ← Json.given "user" d.user
    return {
      accessToken, user
      refreshToken := d.refreshToken.getD none
      expiresIn := d.expiresIn.getD none
      tokenType := d.tokenType.getD none }
  fields := [
    .of "access_token" [] .required .string Draft.accessToken
      (fun a d => { d with accessToken := some a }),
    .of "refresh_token" [] .defaulted (.option .string) Draft.refreshToken
      (fun a d => { d with refreshToken := some a }),
    .of "expires_in" [] .defaulted (.option .word) Draft.expiresIn
      (fun a d => { d with expiresIn := some a }),
    .of "token_type" [] .defaulted (.option .string) Draft.tokenType
      (fun a d => { d with tokenType := some a }),
    .of "user" [] .required Identity.shape.codec Draft.user
      (fun a d => { d with user := some a })]

end TokenPair

namespace Grant

/-- The fields of a session with its user given so far. -/
structure EnvelopeDraft where
  session : Option Session := none
  user : Option Identity := none

/-- How a session with its user is read. -/
def envelopeShape : Shape EnvelopeDraft Grant where
  title := "SessionEnvelope"
  blank := {}
  finish d := do
    let session ← Json.given "session" d.session
    let user ← Json.given "user" d.user
    return .session session user
  fields := [
    .of "session" [] .required Session.shape.codec EnvelopeDraft.session
      (fun a d => { d with session := some a }),
    .of "user" [] .required Identity.shape.codec EnvelopeDraft.user
      (fun a d => { d with user := some a })]

/-- A value with the member `session` and without the member `access_token` is a session,
every other is a token pair. -/
def isSession (v : Value) : Bool :=
  (v.get? "session").isSome && (v.get? "access_token").isNone

/-- The grant that a value is. -/
def ofJson (v : Value) : Except Mismatch Grant :=
  if isSession v then envelopeShape.ofValue v
  else (TokenPair.shape.ofValue v).map .tokenPair

/-- Why a text is no grant. -/
inductive ReadError where
  | fault (f : Json.Fault)
  | mismatch (m : Mismatch)

/-- The grant that a text of JSON consists of. -/
def ofBytes (bs : List UInt8) : Except ReadError Grant :=
  match Value.ofUntyped bs with
  | .error f => .error (.fault f)
  | .ok v => match ofJson v with
    | .error m => .error (.mismatch m)
    | .ok g => .ok g

/-- Whom a grant was handed out to, in either form. -/
def user : Grant → Identity
  | .session _ u => u
  | .tokenPair pair => pair.user

/-- The lifetime of a session in seconds, which is seven days. -/
def sessionLifetime : Nat := 7 * 24 * 60 * 60

/-- The lifetime shown for a token whose core gives none. -/
def defaultExpiresIn : Nat := 3600

/-- The type shown for a token whose core gives none. -/
def defaultTokenType : String := "Bearer"

/-- The one form in which clients see a grant: a session token serves as both tokens. -/
def view : Grant → Value
  | .session s u => .object [
      ("access_token", .string s.token),
      ("refresh_token", .string s.token),
      ("expires_in", Value.integer sessionLifetime),
      ("token_type", .string defaultTokenType),
      ("user", u.view)]
  | .tokenPair pair => .object [
      ("access_token", .string pair.accessToken),
      ("refresh_token", Value.ofText? pair.refreshToken),
      ("expires_in", Value.integer (pair.expiresIn.getD defaultExpiresIn)),
      ("token_type", .string (pair.tokenType.getD defaultTokenType)),
      ("user", pair.user.view)]

end Grant

end IdentityGateway
