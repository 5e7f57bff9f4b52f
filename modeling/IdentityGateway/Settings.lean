import IdentityGateway.Text.Blank
import IdentityGateway.Text.Decimal

/-!
# Settings

The gateway is configured by named text settings. Reading them either gives a complete
`Settings` value or names the first setting that is missing or unusable.
-/

namespace IdentityGateway

/-- Where the gateway runs; only production is strict. -/
inductive Deployment where
  | development
  | production
  deriving DecidableEq, Repr

namespace Deployment

/-- The deployment a setting names; everything but production is development. -/
def ofSetting (value : Option String) : Deployment :=
  match value with
  | none => .development
  | some text =>
    let name := Text.lowerAscii text
    if name = "production" ∨ name = "prod" then .production else .development

/-- Whether the deployment is the strict one. -/
def isProduction : Deployment → Bool
  | .production => true
  | .development => false

end Deployment

/-- What a successful login hands out. -/
inductive GrantMode where
  /-- One session token, which also serves as the refresh token. -/
  | session
  /-- An access token and a refresh token. -/
  | tokenPair
  deriving DecidableEq, Repr

/-- The mode a setting names. -/
def GrantMode.ofName? (value : String) : Option GrantMode :=
  let name := Text.lowerAscii (Text.trim value)
  if name = "session" then some .session
  else if name = "token" ∨ name = "token_pair" ∨ name = "api" then some .tokenPair
  else none

/-- Why settings are refused. -/
inductive SettingsError where
  | missing (name : String)
  | invalid (name : String)
  deriving DecidableEq, Repr

/-- The text shown for refused settings. -/
def SettingsError.message : SettingsError → String
  | .missing name => "missing configuration: " ++ name
  | .invalid name => "invalid configuration: " ++ name

/-- Everything the gateway is configured with. -/
structure Settings where
  port : Nat
  deployment : Deployment
  /-- Origins that browsers may call from in production. -/
  allowedOrigins : List String
  /-- The cookie consulted when no bearer token is sent. -/
  cookieName : String
  /-- The remote authentication core, if there is one. -/
  coreUrl : Option String
  grantMode : GrantMode
  accessLifetime : Nat
  requestTimeout : Nat
  deriving DecidableEq, Repr

namespace Settings

/-- The cookie that carries a token unless a setting says otherwise. -/
def defaultCookieName : String := "access_token"

/-- Unsigned numbers of settings are below this bound. -/
def wordBound : Nat := Nat.pow 2 64

/-- The port, on which no blanks are forgiven. -/
def portOf (value : Option String) : Except SettingsError Nat :=
  match value with
  | none => .ok 3000
  | some text => match Text.natBelow? (Nat.pow 2 16) text with
    | some port => .ok port
    | none => .error (.invalid "PORT")

/-- The origins of a comma-separated list, without blank margins and empty entries. -/
def originsOf (value : Option String) : List String :=
  ((Text.splitAt ',' (value.getD "").toList).map fun entry =>
    String.ofList (Text.trimChars entry)).filter fun entry => !entry.isEmpty

/-- Whether a cookie can be found under a name. -/
def usableCookieName (name : String) : Bool :=
  !name.isEmpty && name.toList.all fun c => c != ';' && c != '=' && c != ' '

/-- The cookie that tokens are looked for in, by its name without blanks around it. -/
def cookieNameOf (value : Option String) : Except SettingsError String :=
  let name := (value.map Text.trim).getD defaultCookieName
  if usableCookieName name then .ok name else .error (.invalid "AUTH_COOKIE_NAME")

/-- The address of the remote core; a blank one counts as absent. -/
def coreUrlOf (value : Option String) : Except SettingsError (Option String) :=
  match (value.map Text.trim).filter (fun url => !url.isEmpty) with
  | none => .ok none
  | some url =>
    if Text.startsWith "http://" url || Text.startsWith "https://" url then .ok (some url)
    else .error (.invalid "AUTH_CORE_URL")

/-- What a core in memory issues: a pair of tokens unless the setting says otherwise. -/
def grantModeOf (value : Option String) : Except SettingsError GrantMode :=
  match value with
  | none => .ok .tokenPair
  | some text => match GrantMode.ofName? text with
    | some mode => .ok mode
    | none => .error (.invalid "AUTH_ISSUE_MODE")

/-- The lifetime of access tokens in seconds. -/
def accessLifetimeOf (value : Option String) : Except SettingsError Nat :=
  match value with
  | none => .ok 3600
  | some text => match Text.natBelow? wordBound (Text.trim text) with
    | some seconds => .ok seconds
    | none => .error (.invalid "ACCESS_TOKEN_TTL_SECONDS")

/-- The time a request may take, in whole seconds above zero. -/
def requestTimeoutOf (value : Option String) : Except SettingsError Nat :=
  match value with
  | none => .ok 30
  | some text => match (Text.natBelow? wordBound (Text.trim text)).filter (0 < ·) with
    | some seconds => .ok seconds
    | none => .error (.invalid "REQUEST_TIMEOUT_SECONDS")

/-- The settings found by name, or the first one that is missing or unusable. The core
kept in memory is for development only, so production has to name a remote one. -/
def ofLookup (lookup : String → Option String) : Except SettingsError Settings := do
  let port ← portOf (lookup "PORT")
  let deployment := Deployment.ofSetting (lookup "APP_ENV")
  let allowedOrigins := originsOf (lookup "CORS_ALLOWED_ORIGINS")
  let cookieName ← cookieNameOf (lookup "AUTH_COOKIE_NAME")
  let coreUrl ← coreUrlOf (lookup "AUTH_CORE_URL")
  if deployment.isProduction && coreUrl.isNone then
    throw (.missing "AUTH_CORE_URL")
  let grantMode ← grantModeOf (lookup "AUTH_ISSUE_MODE")
  let accessLifetime ← accessLifetimeOf (lookup "ACCESS_TOKEN_TTL_SECONDS")
  let requestTimeout ← requestTimeoutOf (lookup "REQUEST_TIMEOUT_SECONDS")
  return {
    port, deployment, allowedOrigins, cookieName, coreUrl, grantMode, accessLifetime,
    requestTimeout }

/-- The names under which settings are looked up. -/
def names : List String := [
  "PORT", "APP_ENV", "CORS_ALLOWED_ORIGINS", "AUTH_COOKIE_NAME", "AUTH_CORE_URL",
  "AUTH_ISSUE_MODE", "ACCESS_TOKEN_TTL_SECONDS", "REQUEST_TIMEOUT_SECONDS"]

/-- Where the gateway listens: on its port, on every interface. -/
def address (settings : Settings) : String :=
  "0.0.0.0:" ++ String.ofList (Text.natDigits settings.port)

end Settings

end IdentityGateway
